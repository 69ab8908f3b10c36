import Mathlib.Data.List.TakeWhile
import ModuleLint.Worker.Service
import ModuleLint.Proofs.Worker.Queue
import ModuleLint.Proofs.Worker.Sync

/-
  What becomes of requests in the loop of a worker.

  A run of the loop is told by the notes of its steps.  Steps
  come in any order: requests arrive while a scan is running,
  the last of them may have come before the scan ends, and a
  request to stop may stand behind others.

  Main declarations:
    * `Note`, `Service.Moves`, `Service.Runs`
    * `Service.Effect`, `Service.Moves.effect`
    * `Service.Runs.exists_done`
    * `Service.Runs.started_or_waits`
    * `Service.runs_serve_every_request`
-/

namespace ModuleLint

------------------------------------------------------------
-- Requests That Wait
------------------------------------------------------------

namespace RequestQueue

/-
  A request is merged with an equal one, or it waits behind
  all the others.
-/
theorem push_cases
    (q : RequestQueue)
    (r : Request) :
    (r ≠ .shutdown ∧ r ∈ q.pending ∧ (q.push r).2 = q) ∨
      (q.push r).2 = ⟨q.pending ++ [r]⟩ := by
  unfold push
  split
  · next hHolds =>
      left
      rcases holds_iff.mp hHolds with ⟨hScan, hWaits⟩
      exact ⟨hScan, hWaits, rfl⟩
  · right
    rfl

/- The requests that are taken up before one to stop. -/
def beforeStop
    (q : RequestQueue) : List Request :=
  q.pending.takeWhile (· != .shutdown)

theorem mem_beforeStop_push
    {q : RequestQueue}
    {r : Request}
    (hMem : r ∈ q.beforeStop)
    (new : Request) :
    r ∈ (q.push new).2.beforeStop := by
  rcases q.push_cases new with ⟨_, _, hSame⟩ | hBehind
  · rw [hSame]
    exact hMem
  · unfold beforeStop at hMem ⊢
    rw [hBehind, List.takeWhile_append]
    split
    · exact List.mem_append_left _
        ((List.takeWhile_sublist _).subset hMem)
    · exact hMem

/- A request waits in front of any request to stop to come. -/
theorem mem_beforeStop_push_self
    {q : RequestQueue}
    {r : Request}
    (hNoStop : .shutdown ∉ q.pending)
    (hScan : r ≠ .shutdown) :
    r ∈ (q.push r).2.beforeStop := by
  have hAll : ∀ x ∈ q.pending, (x != .shutdown) = true := by
    intro x hMem
    rw [bne_iff_ne]
    rintro rfl
    exact hNoStop hMem
  unfold beforeStop
  rcases q.push_cases r with ⟨_, hMem, hSame⟩ | hBehind
  · rw [hSame, List.takeWhile_eq_self_iff.mpr hAll]
    exact hMem
  · rw [hBehind, List.takeWhile_append_of_pos hAll]
    simp [hScan]

theorem beforeStop_of_turn
    {q : RequestQueue}
    {r : Request}
    {rest : List Request}
    (hTurn : q.pending = r :: rest)
    (hScan : r ≠ .shutdown) :
    q.beforeStop = r :: beforeStop ⟨rest⟩ := by
  simp [beforeStop, hTurn, hScan]

end RequestQueue

------------------------------------------------------------
-- Notes
------------------------------------------------------------

/-
  What is noted down about a step of the loop.  The loop is
  stopped by a request, or it is drained when nothing waits
  and nothing more can arrive.
-/
inductive Note where
  | received (r : Request)
  | closed
  | started (r : Request)
  | replied (d : Disk) (p : Response)
  | stopped
  | drained

namespace Note

/- The note on the request whose turn it is. -/
def ofTurn : Option Request → Note
  | none => drained
  | some .shutdown => stopped
  | some r => started r

@[simp] def received? : Note → Option Request
  | received r => some r
  | _ => none

@[simp] def started? : Note → Option Request
  | started r => some r
  | _ => none

@[simp] def reply? : Note → Option (Disk × Response)
  | replied d p => some (d, p)
  | _ => none

end Note

namespace Coordinator

/- The answers to requests that come one after another. -/
def answers
    (c : Coordinator) : List (Disk × Request) → List Response
  | [] => []
  | (d, r) :: asked =>
      (c.handle d r).1 :: (c.handle d r).2.answers asked

/- A worker after requests that came one after another. -/
def after
    (c : Coordinator)
    (asked : List (Disk × Request)) : Coordinator :=
  asked.foldl (fun c x => (c.handle x.1 x.2).2) c

theorem answers_append
    (c : Coordinator)
    (asked more : List (Disk × Request)) :
    c.answers (asked ++ more) =
      c.answers asked ++ (c.after asked).answers more := by
  induction asked generalizing c with
  | nil => rfl
  | cons x asked ih =>
      simp only [List.cons_append, answers, ih]
      rfl

end Coordinator

namespace Service

/- The requests that have arrived, in order. -/
def received
    (log : List Note) : List Request :=
  log.filterMap Note.received?

/- The requests whose scans were started, in order. -/
def started
    (log : List Note) : List Request :=
  log.filterMap Note.started?

/- The replies that were sent, each with its disk. -/
def replies
    (log : List Note) : List (Disk × Response) :=
  log.filterMap Note.reply?

/- The requests that were answered, each with its disk. -/
def answered
    (log : List Note) : List (Disk × Request) :=
  ((replies log).map Prod.fst).zip (started log)

@[simp] theorem received_concat
    (log : List Note)
    (n : Note) :
    received (log ++ [n]) =
      received log ++ n.received?.toList := by
  cases n <;> simp [received]

@[simp] theorem started_concat
    (log : List Note)
    (n : Note) :
    started (log ++ [n]) =
      started log ++ n.started?.toList := by
  cases n <;> simp [started]

@[simp] theorem replies_concat
    (log : List Note)
    (n : Note) :
    replies (log ++ [n]) =
      replies log ++ n.reply?.toList := by
  cases n <;> simp [replies]

------------------------------------------------------------
-- Runs
------------------------------------------------------------

/- One step of the loop, with its note. -/
inductive Moves
    (s : Service) : Note → Service → Prop
| arrive
    {r : Request}
    {t : Service}
    (hStep : s.arrive r = some t) :
    Moves s (.received r) t
| hangUp
    {t : Service}
    (hStep : s.hangUp = some t) :
    Moves s .closed t
| begin
    {t : Service}
    (hStep : s.begin = some t) :
    Moves s (.ofTurn s.queue.pop.1) t
| finish
    {d : Disk}
    {p : Response}
    {t : Service}
    (hStep : s.finish d = some (p, t)) :
    Moves s (.replied d p) t

/- Any number of steps, with their notes in order. -/
inductive Runs
    (s : Service) : List Note → Service → Prop
| start :
    Runs s [] s
| step
    {log : List Note}
    {n : Note}
    {t u : Service}
    (hRuns : Runs s log t)
    (hMoves : Moves t n u) :
    Runs s (log ++ [n]) u

/- What comes first in a run is a run. -/
theorem Runs.of_append
    {s t : Service}
    {past future : List Note}
    (hRuns : Runs s (past ++ future) t) :
    ∃ u, Runs s past u := by
  generalize hLog : past ++ future = log at hRuns
  induction hRuns generalizing future with
  | start =>
      rcases List.append_eq_nil_iff.mp hLog with ⟨rfl, _⟩
      exact ⟨s, .start⟩
  | @step earlier n t u hRuns hMoves ih =>
      rcases List.eq_nil_or_concat future with
        rfl | ⟨front, last, rfl⟩
      · rw [List.append_nil] at hLog
        rw [hLog]
        exact ⟨u, hRuns.step hMoves⟩
      · rw [List.concat_eq_append, ← List.append_assoc] at hLog
        exact ih (List.append_inj_left' hLog rfl)

------------------------------------------------------------
-- What a Step Does
------------------------------------------------------------

/- Everything that one step of the loop can do. -/
inductive Effect
    (s : Service) : Note → Service → Prop
| received
    (hOn : s.isOver = false)
    (r : Request) :
    Effect s (.received r)
      { s with queue := (s.queue.push r).2 }
| closed
    (hOn : s.isOver = false) :
    Effect s .closed { s with isOpen := false }
| started
    (hOn : s.isOver = false)
    (hIdle : s.running = none)
    {r : Request}
    {rest : List Request}
    (hTurn : s.queue.pending = r :: rest)
    (hScan : r ≠ .shutdown) :
    Effect s (.started r)
      { s with queue := ⟨rest⟩, running := some r }
| stopped
    (hOn : s.isOver = false)
    (hIdle : s.running = none)
    {rest : List Request}
    (hTurn : s.queue.pending = .shutdown :: rest) :
    Effect s .stopped { s with queue := ⟨rest⟩ }.ended
| drained
    (hOn : s.isOver = false)
    (hIdle : s.running = none)
    (hTurn : s.queue.pending = [])
    (hClosed : s.isOpen = false) :
    Effect s .drained s.ended
| replied
    {d : Disk}
    {r : Request}
    (hRunning : s.running = some r) :
    Effect s (.replied d (s.coordinator.handle d r).1)
      { s with
        coordinator := (s.coordinator.handle d r).2
        running := none }

/- A scan that comes to its end is that of its request. -/
theorem finish_of_running
    {s : Service}
    {r : Request}
    (hRunning : s.running = some r)
    (d : Disk) :
    s.finish d =
      some
        ( (s.coordinator.handle d r).1,
          { s with
            coordinator := (s.coordinator.handle d r).2
            running := none } ) := by
  unfold finish
  rw [hRunning]

theorem effect_of_begin
    {s t : Service}
    (hStep : s.begin = some t) :
    Effect s (.ofTurn s.queue.pop.1) t := by
  unfold begin at hStep
  split at hStep
  · cases hStep
  · next hFree =>
      simp only [Bool.or_eq_true, not_or, Bool.not_eq_true,
        Option.isSome_eq_false_iff, Option.isNone_iff_eq_none]
        at hFree
      rcases hFree with ⟨hOn, hIdle⟩
      unfold RequestQueue.pop at hStep ⊢
      cases hTurn : s.queue.pending with
      | nil =>
          simp only [hTurn] at hStep
          split at hStep
          · cases hStep
          · next hClosed =>
              cases hStep
              exact .drained hOn hIdle hTurn
                (Bool.not_eq_true _ ▸ hClosed)
      | cons r rest =>
          simp only [hTurn] at hStep
          cases r with
          | shutdown =>
              cases hStep
              exact .stopped hOn hIdle hTurn
          | fullScan =>
              cases hStep
              exact .started hOn hIdle hTurn (by simp)
          | fileChanged path =>
              cases hStep
              exact .started hOn hIdle hTurn (by simp)

theorem Moves.effect
    {s t : Service}
    {n : Note}
    (hMoves : Moves s n t) :
    Effect s n t := by
  cases hMoves with
  | arrive hStep =>
      unfold Service.arrive at hStep
      split at hStep
      · next hOpen =>
          simp only [Bool.and_eq_true, Bool.not_eq_true']
            at hOpen
          cases hStep
          exact .received hOpen.2 _
      · cases hStep
  | hangUp hStep =>
      unfold Service.hangUp at hStep
      split at hStep
      · next hOpen =>
          simp only [Bool.and_eq_true, Bool.not_eq_true']
            at hOpen
          cases hStep
          exact .closed hOpen.2
      · cases hStep
  | begin hStep => exact effect_of_begin hStep
  | @finish d p t hStep =>
      cases hRunning : s.running with
      | none => simp [Service.finish, hRunning] at hStep
      | some r =>
          rw [finish_of_running hRunning] at hStep
          cases hStep
          exact .replied hRunning

section

variable {c : Coordinator}
variable {log past future : List Note}
variable {n : Note}
variable {t u : Service}

------------------------------------------------------------
-- Order
------------------------------------------------------------

/-
  Requests are started in the order in which they arrived, and
  those that wait come next.
-/
theorem Runs.sublist_received
    (hRuns : Runs (.ofCoordinator c) log t) :
    (started log ++ t.queue.pending).Sublist
      (received log) := by
  induction hRuns with
  | start => exact List.Sublist.refl _
  | @step log n t u _ hMoves ih =>
      cases hMoves.effect with
      | received _ r =>
          rcases t.queue.push_cases r with
            ⟨_, _, hSame⟩ | hBehind
          · simpa [hSame] using
              ih.trans (List.sublist_append_left _ [r])
          · simpa [hBehind] using
              ih.append (List.Sublist.refl [r])
      | closed => simpa using ih
      | started _ _ hTurn =>
          rw [hTurn] at ih
          simpa using ih
      | @stopped _ _ rest hTurn =>
          rw [hTurn] at ih
          have hRest := List.sublist_cons_self .shutdown rest
          simpa [ended] using
            (hRest.append_left (started log)).trans ih
      | drained => simpa [ended] using ih
      | replied => simpa using ih

------------------------------------------------------------
-- The End of a Run
------------------------------------------------------------

/- A loop is over once it was stopped or drained. -/
theorem Runs.isOver_iff
    (hRuns : Runs (.ofCoordinator c) log t) :
    (t.isOver = true ↔ .stopped ∈ log ∨ .drained ∈ log) ∧
      (t.isOver = true → t.running = none) := by
  induction hRuns with
  | start => simp [ofCoordinator]
  | step _ hMoves ih =>
      cases hMoves.effect with
      | received hOn => simpa [hOn] using ih
      | closed hOn => simpa [hOn] using ih
      | started hOn => simpa [hOn] using ih
      | stopped _ hIdle => simp [ended, hIdle]
      | drained _ hIdle => simp [ended, hIdle]
      | replied => simpa using ih.1

/- Nothing happens once a loop is over. -/
theorem Runs.isOver_eq_false
    (hRuns : Runs (.ofCoordinator c) log t)
    (hMoves : Moves t n u) :
    t.isOver = false := by
  cases hMoves.effect with
  | received hOn => exact hOn
  | closed hOn => exact hOn
  | started hOn => exact hOn
  | stopped hOn => exact hOn
  | drained hOn => exact hOn
  | replied hRunning =>
      rw [← Bool.not_eq_true]
      intro hOver
      rw [hRuns.isOver_iff.2 hOver] at hRunning
      cases hRunning

/- Requests stop arriving with a note. -/
theorem Runs.closed_mem
    (hRuns : Runs (.ofCoordinator c) log t)
    (hClosed : t.isOpen = false) :
    .closed ∈ log := by
  induction hRuns with
  | start => cases hClosed
  | step _ hMoves ih =>
      cases hMoves.effect with
      | received => exact List.mem_append_left _ (ih hClosed)
      | closed => simp
      | started => exact List.mem_append_left _ (ih hClosed)
      | stopped => exact List.mem_append_left _ (ih hClosed)
      | drained => exact List.mem_append_left _ (ih hClosed)
      | replied => exact List.mem_append_left _ (ih hClosed)

/- A request to stop waits until the loop is over. -/
theorem Runs.shutdown_mem_pending
    (hRuns : Runs (.ofCoordinator c) log t)
    (hAsked : .shutdown ∈ received log)
    (hOn : t.isOver = false) :
    .shutdown ∈ t.queue.pending := by
  induction hRuns with
  | start => cases hAsked
  | @step log n t u hRuns hMoves ih =>
      have hOnBefore := hRuns.isOver_eq_false hMoves
      cases hMoves.effect with
      | received _ r =>
          rw [received_concat, List.mem_append] at hAsked
          rcases t.queue.push_cases r with
            ⟨hScan, _, hSame⟩ | hBehind
          · rcases hAsked with hOld | hNew
            · rw [hSame]
              exact ih hOld hOnBefore
            · simp only [Note.received?, Option.toList_some,
                List.mem_singleton] at hNew
              exact absurd hNew.symm hScan
          · rw [hBehind, List.mem_append]
            exact hAsked.imp_left (fun hOld => ih hOld hOnBefore)
      | closed => exact ih (by simpa using hAsked) hOnBefore
      | started _ _ hTurn hScan =>
          have hMem := ih (by simpa using hAsked) hOnBefore
          rw [hTurn, List.mem_cons] at hMem
          exact hMem.resolve_left (Ne.symm hScan)
      | stopped => cases hOn
      | drained => cases hOn
      | replied => exact ih (by simpa using hAsked) hOnBefore

/-
  A loop that was drained had been closed, and it was never
  asked to stop.
-/
theorem Runs.of_drained_mem
    (hRuns : Runs (.ofCoordinator c) log t)
    (hDrained : .drained ∈ log) :
    .closed ∈ log ∧ .shutdown ∉ received log := by
  cases hRuns with
  | start => cases hDrained
  | @step log n t u hRuns hMoves =>
      have hOn := hRuns.isOver_eq_false hMoves
      rcases List.mem_append.mp hDrained with hOld | hNew
      · rw [hRuns.isOver_iff.1.mpr (Or.inr hOld)] at hOn
        cases hOn
      · rw [List.mem_singleton] at hNew
        subst hNew
        cases hMoves.effect with
        | drained _ _ hTurn hClosed =>
            refine ⟨List.mem_append_left _
              (hRuns.closed_mem hClosed), ?_⟩
            intro hAsked
            have hMem :=
              hRuns.shutdown_mem_pending (by simpa using hAsked)
                hOn
            rw [hTurn] at hMem
            cases hMem

------------------------------------------------------------
-- Replies
------------------------------------------------------------

/- Of the requests started, the first ones were answered. -/
theorem answered_eq_zip
    {done more : List Request}
    (hStarted : started log = done ++ more)
    (hLength : done.length = (replies log).length) :
    answered log = ((replies log).map Prod.fst).zip done := by
  have hMore :
      ((replies log).map Prod.fst ++ []).zip (done ++ more) =
        ((replies log).map Prod.fst).zip done ++
          ([] : List Disk).zip more :=
    List.zip_append (by simp [hLength])
  simpa [answered, hStarted] using hMore

/-
  All requests that were started have been answered in order,
  but for the one that is running.
-/
theorem Runs.exists_done
    (hRuns : Runs (.ofCoordinator c) log t) :
    ∃ done,
      started log = done ++ t.running.toList ∧
        done.length = (replies log).length ∧
        (replies log).map Prod.snd =
          c.answers (((replies log).map Prod.fst).zip done) ∧
        (t.isOver = false →
          t.coordinator =
            c.after (((replies log).map Prod.fst).zip done)) := by
  induction hRuns with
  | start => exact ⟨[], rfl, rfl, rfl, fun _ => rfl⟩
  | @step log n t u hRuns hMoves ih =>
      rcases ih with
        ⟨done, hStarted, hLength, hReplies, hCoordinator⟩
      have hOn := hRuns.isOver_eq_false hMoves
      have hNow := hCoordinator hOn
      cases hMoves.effect with
      | received =>
          exact ⟨done, by simp_all⟩
      | closed =>
          exact ⟨done, by simp_all⟩
      | started _ hIdle =>
          exact ⟨done, by simp_all⟩
      | stopped _ hIdle =>
          exact ⟨done, by simp_all [ended]⟩
      | drained _ hIdle =>
          exact ⟨done, by simp_all [ended]⟩
      | @replied d r hRunning =>
          have hZip :
              ((replies log).map Prod.fst ++ [d]).zip
                  (done ++ [r]) =
                ((replies log).map Prod.fst).zip done ++
                  [(d, r)] :=
            List.zip_append (by simp [hLength])
          refine ⟨done ++ [r], ?_, ?_, ?_, ?_⟩
          · simpa [hRunning] using hStarted
          · simpa using hLength
          · simp only [replies_concat, Note.reply?,
              Option.toList_some, List.map_append,
              List.map_cons, List.map_nil, hZip,
              Coordinator.answers_append, ← hNow, hReplies]
            rfl
          · intro _
            simp only [replies_concat, Note.reply?,
              Option.toList_some, List.map_append,
              List.map_cons, List.map_nil, hZip,
              Coordinator.after, List.foldl_append,
              List.foldl_cons, List.foldl_nil]
            rw [hNow]
            rfl

/- At most one scan is running. -/
theorem Runs.length_started
    (hRuns : Runs (.ofCoordinator c) log t) :
    (started log).length =
      (replies log).length + t.running.toList.length := by
  rcases hRuns.exists_done with ⟨done, hStarted, hLength, _⟩
  rw [hStarted, List.length_append, hLength]

/- Each scan gives its reply. -/
theorem Runs.replies_eq
    (hRuns : Runs (.ofCoordinator c) log t) :
    (replies log).map Prod.snd = c.answers (answered log) := by
  rcases hRuns.exists_done with
    ⟨done, hStarted, hLength, hReplies, _⟩
  rw [answered_eq_zip hStarted hLength]
  exact hReplies

------------------------------------------------------------
-- Waiting
------------------------------------------------------------

/-
  A request that came before any request to stop has been
  started since, or it still waits in front of one.
-/
theorem Runs.started_or_waits
    (hRuns : Runs (.ofCoordinator c) log t)
    {r : Request}
    (hLog : log = past ++ .received r :: future)
    (hFirst : .shutdown ∉ received past)
    (hScan : r ≠ .shutdown) :
    r ∈ started future ∨
      (t.isOver = false ∧ r ∈ t.queue.beforeStop) := by
  induction hRuns generalizing future with
  | start => simp at hLog
  | @step log n t u hRuns hMoves ih =>
      rcases List.eq_nil_or_concat future with
        rfl | ⟨front, last, rfl⟩
      · -- The request is the newest one.
        rcases List.append_inj' hLog rfl with ⟨rfl, hNote⟩
        cases hNote
        cases hMoves.effect with
        | received hOn =>
            have hNoStop : .shutdown ∉ t.queue.pending := by
              intro hMem
              exact hFirst (hRuns.sublist_received.subset
                (List.mem_append_right _ hMem))
            exact Or.inr ⟨hOn,
              RequestQueue.mem_beforeStop_push_self hNoStop
                hScan⟩
      · rw [List.concat_eq_append, ← List.cons_append,
          ← List.append_assoc] at hLog
        rcases List.append_inj' hLog rfl with ⟨hEarlier, hNote⟩
        cases hNote
        rw [List.concat_eq_append, started_concat]
        have hOn := hRuns.isOver_eq_false hMoves
        rcases ih hEarlier with hStarted | ⟨_, hWaits⟩
        · exact Or.inl (List.mem_append_left _ hStarted)
        · cases hMoves.effect with
          | received =>
              exact Or.inr ⟨hOn,
                RequestQueue.mem_beforeStop_push hWaits _⟩
          | closed => exact Or.inr ⟨hOn, hWaits⟩
          | started _ _ hTurn hNext =>
              rw [RequestQueue.beforeStop_of_turn hTurn hNext,
                List.mem_cons] at hWaits
              rcases hWaits with rfl | hLater
              · exact Or.inl (by simp)
              · exact Or.inr ⟨hOn, hLater⟩
          | stopped _ _ hTurn =>
              simp [RequestQueue.beforeStop, hTurn] at hWaits
          | drained _ _ hTurn =>
              simp [RequestQueue.beforeStop, hTurn] at hWaits
          | replied => exact Or.inr ⟨hOn, hWaits⟩

/- In a loop that is over, such a request was started. -/
theorem Runs.started_of_isOver
    (hRuns : Runs (.ofCoordinator c) log t)
    (hOver : t.isOver = true)
    {r : Request}
    (hLog : log = past ++ .received r :: future)
    (hFirst : .shutdown ∉ received past)
    (hScan : r ≠ .shutdown) :
    r ∈ started future := by
  rcases hRuns.started_or_waits hLog hFirst hScan with
    hStarted | ⟨hOn, _⟩
  · exact hStarted
  · rw [hOver] at hOn
    cases hOn

end

------------------------------------------------------------
-- No Request Is Lost
------------------------------------------------------------

/- The greeting of a loop that starts. -/
theorem of_greet
    {a : Analyzer}
    {d : Disk}
    {greeting : Response}
    {s : Service}
    (hGreet : greet a d = (greeting, some s)) :
    greeting = .ready ∧ s = ofCoordinator s.coordinator := by
  unfold greet Coordinator.start at hGreet
  cases hLoad : (Coordinator.fresh a).analyzer.loadProject d with
  | error f => simp [hLoad] at hGreet
  | ok p =>
      simp only [hLoad, Prod.mk.injEq, Option.some.injEq]
        at hGreet
      rcases hGreet with ⟨rfl, rfl⟩
      exact ⟨rfl, rfl⟩

theorem greet_of_start
    {a : Analyzer}
    {d : Disk}
    (hStarted :
      ((Coordinator.fresh a).start d).1 = .ok .ready) :
    greet a d =
      ( .ready,
        some (ofCoordinator
          ((Coordinator.fresh a).start d).2) ) := by
  unfold greet
  split
  · next greeting c hStart =>
      rw [hStart] at hStarted ⊢
      cases hStarted
      rfl
  · next f c hStart =>
      rw [hStart] at hStarted
      cases hStarted

/-
  In every run of a worker's loop, at most one scan is running
  at any moment.  Requests are started in the order in which
  they arrived, and each of them gets one reply, in that order.
  When the loop is over, an equal request was started after
  each request that arrived, or, if it was asked to stop, after
  each request that arrived before it was first asked to.
-/
theorem runs_serve_every_request
    {a : Analyzer}
    {d : Disk}
    {greeting : Response}
    {s t : Service}
    {log : List Note}
    (hGreet : greet a d = (greeting, some s))
    (hRuns : Runs s log t) :
    greeting = .ready ∧
      (∀ past future,
        log = past ++ future →
          (replies past).length ≤ (started past).length ∧
            (started past).length ≤
              (replies past).length + 1 ∧
            (started past).Sublist (received past)) ∧
      (replies log).map Prod.snd =
        s.coordinator.answers (answered log) ∧
      (t.running = none →
        (replies log).length = (started log).length) ∧
      (t.isOver = true →
        t.running = none ∧
          (.drained ∈ log ∨ .stopped ∈ log)) ∧
      (.drained ∈ log →
        .closed ∈ log ∧
          ∀ past r future,
            log = past ++ .received r :: future →
              r ∈ started future) ∧
      (.stopped ∈ log →
        ∀ past r future,
          log = past ++ .received r :: future →
            .shutdown ∉ received past →
              r ≠ .shutdown →
                r ∈ started future) := by
  rcases of_greet hGreet with ⟨hReady, hStart⟩
  rw [hStart] at hRuns
  have hCount := hRuns.length_started
  have hOver := hRuns.isOver_iff
  refine ⟨hReady, ?_, hRuns.replies_eq, ?_, ?_, ?_, ?_⟩
  · rintro past future rfl
    rcases hRuns.of_append with ⟨u, hPast⟩
    have hPastCount := hPast.length_started
    have hOne : u.running.toList.length ≤ 1 := by
      cases u.running <;> simp
    refine ⟨by omega, by omega, ?_⟩
    exact (List.sublist_append_left _ _).trans
      hPast.sublist_received
  · intro hIdle
    simpa [hIdle] using hCount.symm
  · intro hEnd
    exact ⟨hOver.2 hEnd, (hOver.1.mp hEnd).symm⟩
  · intro hDrained
    rcases hRuns.of_drained_mem hDrained with
      ⟨hClosed, hNoStop⟩
    refine ⟨hClosed, ?_⟩
    rintro past r future rfl
    simp only [received, List.filterMap_append,
      List.filterMap_cons, Note.received?, List.mem_append,
      List.mem_cons, not_or] at hNoStop
    exact hRuns.started_of_isOver
      (hOver.1.mpr (Or.inr hDrained)) rfl hNoStop.1
      (Ne.symm hNoStop.2.1)
  · intro hStopped past r future hLog hFirst hScan
    exact hRuns.started_of_isOver
      (hOver.1.mpr (Or.inl hStopped)) hLog hFirst hScan

/-
  A full scan is asked for again while one is running, and
  then nothing more arrives.  A second scan follows the first.
-/
theorem runs_rescan_after_hangUp :
    let d : Disk :=
      ⟨.directory [("r", .directory [])]⟩
    ∃ a s p q t,
      greet a d = (.ready, some s) ∧
        Runs s
          [ .received .fullScan, .started .fullScan,
            .received .fullScan, .closed, .replied d p,
            .started .fullScan, .replied d q, .drained ]
          t ∧
        .fullScan ∈
          started
            [ .closed, .replied d p, .started .fullScan,
              .replied d q, .drained ] := by
  intro d
  rcases Analyzer.exists_withRegistry "/r" with
    ⟨a, hMade, _⟩
  rcases Analyzer.of_withRegistry hMade with
    ⟨hRoot, hSelector⟩
  have hTidy : d.root.Tidy := by
    refine .directory (by decide) (by decide +kernel) ?_
    simp only [List.mem_singleton, forall_eq]
    exact Entry.tidy_empty
  have hFiles : d.filesBelow sourceWalk "/r" = [] := by
    decide +kernel
  have hReadable : a.Readable d := by
    refine ⟨?_, ?_⟩
    · rw [hRoot]
      decide +kernel
    · rw [hRoot, hFiles]
      simp
  have hGreet :=
    greet_of_start
      (Coordinator.start_eq_ok hSelector hTidy hReadable)
  generalize ((Coordinator.fresh a).start d).2 = c at hGreet
  let c₁ := (c.handle d .fullScan).2
  let c₂ := (c₁.handle d .fullScan).2
  have hFirst :
      Runs (ofCoordinator c)
        [.received .fullScan, .started .fullScan]
        ⟨c, ⟨[]⟩, some .fullScan, true, false⟩ :=
    (Runs.start.step (.arrive rfl)).step (.begin rfl)
  have hAgain :
      Runs (ofCoordinator c)
        [ .received .fullScan, .started .fullScan,
          .received .fullScan, .closed ]
        ⟨c, ⟨[.fullScan]⟩, some .fullScan, false, false⟩ :=
    (hFirst.step (.arrive rfl)).step (.hangUp rfl)
  have hSecond :
      Runs (ofCoordinator c)
        [ .received .fullScan, .started .fullScan,
          .received .fullScan, .closed,
          .replied d (c.handle d .fullScan).1,
          .started .fullScan ]
        ⟨c₁, ⟨[]⟩, some .fullScan, false, false⟩ :=
    (hAgain.step (.finish (finish_of_running rfl d))).step
      (.begin rfl)
  have hRuns :
      Runs (ofCoordinator c)
        [ .received .fullScan, .started .fullScan,
          .received .fullScan, .closed,
          .replied d (c.handle d .fullScan).1,
          .started .fullScan,
          .replied d (c₁.handle d .fullScan).1, .drained ]
        ⟨c₂.stop, ⟨[]⟩, none, false, true⟩ :=
    (hSecond.step (.finish (finish_of_running rfl d))).step
      (.begin rfl)
  rcases runs_serve_every_request hGreet hRuns with
    ⟨_, _, _, _, _, hDrained, _⟩
  refine ⟨a, ofCoordinator c, (c.handle d .fullScan).1,
    (c₁.handle d .fullScan).1, _, hGreet, hRuns, ?_⟩
  exact (hDrained (by simp)).2
    [.received .fullScan, .started .fullScan] .fullScan _
    rfl

end Service

end ModuleLint
