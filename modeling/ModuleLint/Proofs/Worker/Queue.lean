import Mathlib.Data.List.Induction
import Mathlib.Data.List.Nodup
import ModuleLint.Worker.Queue

/-
  What comes out of a queue of requests.

  A queue is pushed to and popped from in any order.  Beside it
  stand the requests that were popped, and those that were
  pushed, each with the news whether it waits on its own.

  Main declarations:
    * `RequestQueue.Turn`, `RequestQueue.Usage`
    * `RequestQueue.Usage.turn`, `RequestQueue.used`
    * `RequestQueue.Usage.Exact`
    * `RequestQueue.used_coalesces`
-/

namespace ModuleLint

namespace RequestQueue

------------------------------------------------------------
-- Turns
------------------------------------------------------------

/- What is done to a queue. -/
inductive Turn where
  | push (r : Request)
  | pop
deriving DecidableEq, Repr, Inhabited

/- The request that is pushed. -/
def Turn.request? : Turn → Option Request
  | push r => some r
  | pop => none

/- The requests that are pushed, in their order. -/
def pushed
    (ts : List Turn) : List Request :=
  ts.filterMap Turn.request?

/-
  A queue in use, with the requests popped from it and those
  pushed to it.  A pushed request comes with the answer to it.
-/
structure Usage where
  queue : RequestQueue
  popped : List Request
  answered : List (Request × Bool)
deriving DecidableEq, Repr, Inhabited

namespace Usage

/- A queue that has not been used. -/
def fresh : Usage :=
  ⟨.empty, [], []⟩

/- One more turn. -/
def turn
    (u : Usage) : Turn → Usage
  | .push r =>
      { u with
        queue := (u.queue.push r).2
        answered := u.answered ++ [(r, (u.queue.push r).1)] }
  | .pop =>
      { u with
        queue := u.queue.pop.2
        popped := u.popped ++ u.queue.pop.1.toList }

/- The requests that were not merged with another one. -/
def kept
    (u : Usage) : List Request :=
  (u.answered.filter Prod.snd).map Prod.fst

end Usage

/- A queue after some turns. -/
def used
    (ts : List Turn) : Usage :=
  ts.foldl Usage.turn .fresh

theorem used_concat
    (ts : List Turn)
    (t : Turn) :
    used (ts ++ [t]) = (used ts).turn t := by
  simp [used]

------------------------------------------------------------
-- Answers
------------------------------------------------------------

theorem holds_iff
    {q : RequestQueue}
    {r : Request} :
    q.holds r = true ↔ r ≠ .shutdown ∧ r ∈ q.pending := by
  simp [holds]

/- A request waits on its own unless the queue holds it. -/
theorem push_fst
    (q : RequestQueue)
    (r : Request) :
    (q.push r).1 =
      !decide (r ≠ .shutdown ∧ r ∈ q.pending) := by
  unfold push
  split
  · next hHolds => simp [holds_iff.mp hHolds]
  · next hHolds =>
      rw [holds_iff] at hHolds
      simp only [hHolds, decide_false, Bool.not_false]

namespace Usage

/- A pop gives the request that has waited longest. -/
theorem popped_pop
    (u : Usage) :
    (u.turn .pop).popped =
      u.popped ++ u.queue.pending.head?.toList := by
  rcases u with ⟨⟨_ | ⟨r, rs⟩⟩, popped, answered⟩ <;> rfl

theorem answered_push
    (u : Usage)
    (r : Request) :
    (u.turn (.push r)).answered =
      u.answered ++
        [(r, !decide (r ≠ .shutdown ∧ r ∈ u.queue.pending))] := by
  rw [← push_fst]
  rfl

/- Answers stay as they are. -/
theorem answered_prefix
    (u : Usage)
    (ts : List Turn) :
    u.answered <+: (ts.foldl turn u).answered := by
  induction ts generalizing u with
  | nil => exact List.prefix_rfl
  | cons t ts ih =>
      refine List.IsPrefix.trans ?_ (ih (u.turn t))
      cases t with
      | push r => exact List.prefix_append _ _
      | pop => exact List.prefix_rfl

end Usage

/- Every push is answered. -/
theorem map_fst_answered
    (ts : List Turn) :
    (used ts).answered.map Prod.fst = pushed ts := by
  induction ts using List.reverseRecOn with
  | nil => rfl
  | append_singleton ts t ih =>
      rw [used_concat, pushed, List.filterMap_append, ← pushed,
        ← ih]
      cases t with
      | push r => simp [Usage.answered_push, Turn.request?]
      | pop => simp [Usage.turn, Turn.request?]

/-
  The answer to a push depends on what waits at that moment,
  and on nothing that is done later.
-/
theorem getElem?_answered
    (front : List Turn)
    (r : Request)
    (back : List Turn) :
    (used (front ++ .push r :: back)).answered[
        (pushed front).length]? =
      some
        (r,
          !decide
            (r ≠ .shutdown ∧
              r ∈ (used front).queue.pending)) := by
  have hLength :
      (pushed front).length = (used front).answered.length := by
    rw [← map_fst_answered, List.length_map]
  have hUsed :
      used (front ++ .push r :: back) =
        back.foldl Usage.turn ((used front).turn (.push r)) := by
    simp [used]
  rcases Usage.answered_prefix ((used front).turn (.push r)) back
    with ⟨later, hLater⟩
  rw [hUsed, ← hLater, Usage.answered_push, hLength]
  simp

------------------------------------------------------------
-- Order
------------------------------------------------------------

namespace Usage

/-
  Nothing is lost, doubled or put out of order: what was popped
  and what waits are the requests that were kept.
-/
structure Exact
    (u : Usage) : Prop where
  inOrder : u.popped ++ u.queue.pending = u.kept
  once :
    (u.queue.pending.filter (· ≠ .shutdown)).Nodup

theorem exact_fresh :
    fresh.Exact :=
  ⟨rfl, List.nodup_nil⟩

theorem Exact.push
    {u : Usage}
    (hExact : u.Exact)
    (r : Request) :
    (u.turn (.push r)).Exact := by
  have hKept :
      (u.turn (.push r)).kept =
        u.kept ++ if (u.queue.push r).1 then [r] else [] := by
    cases hAnswer : (u.queue.push r).1 <;>
      simp [turn, kept, hAnswer]
  by_cases hHolds : u.queue.holds r = true
  · have hPush : u.queue.push r = (false, u.queue) :=
      if_pos hHolds
    refine ⟨?_, ?_⟩
    · rw [hKept, hPush, turn, hPush]
      simpa using hExact.inOrder
    · rw [turn, hPush]
      exact hExact.once
  · have hPush :
        u.queue.push r = (true, ⟨u.queue.pending ++ [r]⟩) :=
      if_neg hHolds
    refine ⟨?_, ?_⟩
    · rw [hKept, hPush, turn, hPush, ← hExact.inOrder]
      simp
    · rw [turn, hPush, List.filter_append]
      refine hExact.once.append ?_ ?_
      · exact (List.nodup_singleton r).filter _
      · -- A request that counts here would have been merged.
        intro x hOld hNew
        rw [List.mem_filter, List.mem_singleton] at hNew
        rcases hNew with ⟨rfl, hStop⟩
        exact hHolds
          (holds_iff.mpr
            ⟨of_decide_eq_true hStop,
              (List.mem_filter.mp hOld).1⟩)

theorem Exact.pop
    {u : Usage}
    (hExact : u.Exact) :
    (u.turn .pop).Exact := by
  rcases u with ⟨⟨pending⟩, popped, answered⟩
  cases pending with
  | nil => simpa [turn, RequestQueue.pop] using hExact
  | cons r rs =>
      refine ⟨?_, ?_⟩
      · have hOrder := hExact.inOrder
        simpa [turn, RequestQueue.pop, kept] using hOrder
      · exact hExact.once.sublist
          ((List.sublist_cons_self r rs).filter _)

end Usage

/- A queue is exact however it is used. -/
theorem exact_used
    (ts : List Turn) :
    (used ts).Exact := by
  induction ts using List.reverseRecOn with
  | nil => exact Usage.exact_fresh
  | append_singleton ts t ih =>
      rw [used_concat]
      cases t with
      | push r => exact ih.push r
      | pop => exact ih.pop

/-
  What was popped and what waits are the pushed requests in
  their order, without those that were merged, and each pop
  gives the one that has waited longest.  A request is merged
  just when it is none to stop and an equal one waits at that
  moment, and the answer to it says so.  Of requests that are
  none to stop, no two that wait are equal.
-/
theorem used_coalesces
    (ts : List Turn) :
    (used ts).popped ++ (used ts).queue.pending =
        (used ts).kept ∧
      (used (ts ++ [.pop])).popped =
        (used ts).popped ++
          (used ts).queue.pending.head?.toList ∧
      (used ts).answered.map Prod.fst = pushed ts ∧
      (∀ front r back,
        ts = front ++ .push r :: back →
          (used ts).answered[(pushed front).length]? =
            some
              (r,
                !decide
                  (r ≠ .shutdown ∧
                    r ∈ (used front).queue.pending))) ∧
      ((used ts).queue.pending.filter
        (· ≠ .shutdown)).Nodup := by
  refine ⟨(exact_used ts).inOrder, ?_, map_fst_answered ts, ?_,
    (exact_used ts).once⟩
  · rw [used_concat, Usage.popped_pop]
  · rintro front r back rfl
    exact getElem?_answered front r back

/-
  A path that is pushed again waits on its own once the first
  request for it was popped.
-/
theorem used_coalesces_twice :
    let a : Request := .fileChanged "a.ts"
    let front : List Turn :=
      [.push a, .push .fullScan, .push a, .push .shutdown, .pop]
    let ts : List Turn :=
      front ++ .push a :: [.push .fullScan, .push .shutdown]
    ts = front ++ .push a :: [.push .fullScan, .push .shutdown] ∧
      (used ts).popped ++ (used ts).queue.pending =
        [a, .fullScan, .shutdown, a, .shutdown] ∧
      (used ts).answered[4]? = some (a, true) := by
  intro a front ts
  have hKept := (used_coalesces ts).1
  have hAnswer := (used_coalesces ts).2.2.2.1 front a _ rfl
  refine ⟨rfl, hKept.trans (by decide +kernel), ?_⟩
  have hLength : (pushed front).length = 4 := by decide +kernel
  rw [hLength] at hAnswer
  exact hAnswer.trans (by decide +kernel)

end RequestQueue

end ModuleLint
