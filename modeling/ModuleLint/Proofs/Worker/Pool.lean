import Mathlib.Data.List.Infix
import Mathlib.Data.List.Pairwise
import ModuleLint.Worker.Pool

/-
  The innermost root above a path.

  Roots above one path lie above each other, so two of them
  with equally many parts are the same path.  Since no path is
  registered twice, the deepest root above a path is unique,
  and looking for it leads to the same slot in any order.

  Main declarations:
    * `Pool.Arises`, `Pool.Keeps`, `Pool.Arises.keeps`
    * `Pool.Innermost`, `Pool.Innermost.unique`
    * `Pool.slotFor?_eq_some_iff`, `Pool.slotFor?_of_perm`
    * `Pool.slotFor?_innermost`
-/

namespace ModuleLint

/- The first path is a proper ancestor of the second one. -/
def Path.IsAbove
    (a b : RawText) : Prop :=
  partsOf a <+: partsOf b ∧ partsOf a ≠ partsOf b

theorem Slot.covers_iff
    {α : Type}
    {s : Slot α}
    {path : RawText} :
    s.covers path = true ↔ s.parts <+: Path.partsOf path :=
  List.isPrefixOf_iff_prefix

namespace Pool

variable {α : Type}
variable {p q : Pool α}
variable {roots others : List RawText}

------------------------------------------------------------
-- Registered Roots
------------------------------------------------------------

/-
  The pool in which these roots have been registered, one after
  another.  What is kept for them may change at any time.
-/
inductive Arises : List RawText → Pool α → Prop where
  | empty : Arises [] empty
  | register
      {roots : List RawText}
      {p : Pool α}
      (root : RawText)
      (content : α) :
      Arises roots p →
        Arises (roots ++ [root]) (p.register root content)
  | refill
      {roots : List RawText}
      {p : Pool α}
      (content : Slot α → α) :
      Arises roots p →
        Arises roots
          ⟨p.slots.map (fun s => { s with content := content s })⟩

/- Every root has one slot, however often it was registered. -/
structure Keeps
    (roots : List RawText)
    (p : Pool α) : Prop where
  distinct :
    p.slots.Pairwise (fun s t => s.parts ≠ t.parts)
  registered : ∀ s ∈ p.slots, s.root ∈ roots
  kept : ∀ r ∈ roots, ∃ s ∈ p.slots, s.parts = Path.partsOf r

theorem keeps_empty :
    Keeps [] (empty : Pool α) := by
  refine ⟨List.Pairwise.nil, ?_, ?_⟩
  · intro s hMem
    cases hMem
  · intro r hMem
    cases hMem

theorem Keeps.register
    (hKeeps : Keeps roots p)
    (root : RawText)
    (content : α) :
    Keeps (roots ++ [root]) (p.register root content) := by
  unfold Pool.register
  cases hFound : p.slot? root with
  | some s =>
      have hMem := List.mem_of_find?_eq_some hFound
      have hParts : s.parts = Path.partsOf root :=
        eq_of_beq (List.find?_some hFound :)
      refine ⟨hKeeps.distinct, ?_, ?_⟩
      · intro t hT
        exact List.mem_append_left [root] (hKeeps.registered t hT)
      · intro r hR
        rcases List.mem_append.mp hR with hOld | hNew
        · exact hKeeps.kept r hOld
        · rw [List.mem_singleton.mp hNew]
          exact ⟨s, hMem, hParts⟩
  | none =>
      have hFresh :
          ∀ s ∈ p.slots, s.parts ≠ Path.partsOf root := by
        intro s hMem hSame
        exact List.find?_eq_none.mp hFound s hMem
          (beq_iff_eq.mpr hSame)
      refine ⟨?_, ?_, ?_⟩
      · rw [List.pairwise_append]
        refine ⟨hKeeps.distinct, List.pairwise_singleton _ _, ?_⟩
        intro s hMem t hT
        rw [List.mem_singleton.mp hT]
        exact hFresh s hMem
      · intro s hMem
        rcases List.mem_append.mp hMem with hOld | hNew
        · exact List.mem_append_left [root]
            (hKeeps.registered s hOld)
        · rw [List.mem_singleton.mp hNew]
          exact List.mem_append_right roots
            (List.mem_singleton_self root)
      · intro r hR
        rcases List.mem_append.mp hR with hOld | hNew
        · rcases hKeeps.kept r hOld with ⟨s, hMem, hParts⟩
          exact ⟨s, List.mem_append_left _ hMem, hParts⟩
        · rw [List.mem_singleton.mp hNew]
          exact ⟨⟨root, content⟩,
            List.mem_append_right _ (List.mem_singleton_self _),
            rfl⟩

theorem Keeps.refill
    (hKeeps : Keeps roots p)
    (content : Slot α → α) :
    Keeps roots
      ⟨p.slots.map (fun s => { s with content := content s })⟩ := by
  refine ⟨?_, ?_, ?_⟩
  · rw [List.pairwise_map]
    exact hKeeps.distinct
  · intro s hMem
    rcases List.mem_map.mp hMem with ⟨t, hT, rfl⟩
    exact hKeeps.registered t hT
  · intro r hR
    rcases hKeeps.kept r hR with ⟨s, hMem, hParts⟩
    exact ⟨_, List.mem_map_of_mem hMem, hParts⟩

theorem Arises.keeps
    (hArises : Arises roots p) :
    Keeps roots p := by
  induction hArises with
  | empty => exact keeps_empty
  | register root content _ ih => exact ih.register root content
  | refill content _ ih => exact ih.refill content

------------------------------------------------------------
-- The Deepest Slot
------------------------------------------------------------

/- Of some slots, one with the most parts is left. -/
theorem exists_foldl_deeper
    (best : Slot α)
    (ss : List (Slot α)) :
    ∃ s,
      ss.foldl deeper (some best) = some s ∧
        s ∈ best :: ss ∧
          ∀ t ∈ best :: ss,
            t.parts.length ≤ s.parts.length := by
  induction ss generalizing best with
  | nil =>
      refine ⟨best, rfl, List.mem_singleton_self best, ?_⟩
      intro t hT
      rw [List.mem_singleton.mp hT]
  | cons next ss ih =>
      by_cases hDeeper : best.parts.length < next.parts.length
      · rcases ih next with ⟨s, hFold, hMem, hMost⟩
        refine ⟨s, ?_, List.mem_cons_of_mem best hMem, ?_⟩
        · rw [List.foldl_cons, deeper, if_pos hDeeper, hFold]
        · intro t hT
          rcases List.mem_cons.mp hT with rfl | hLater
          · exact hDeeper.le.trans (hMost next List.mem_cons_self)
          · exact hMost t hLater
      · rcases ih best with ⟨s, hFold, hMem, hMost⟩
        refine ⟨s, ?_, ?_, ?_⟩
        · rw [List.foldl_cons, deeper, if_neg hDeeper, hFold]
        · exact List.cons_subset_cons best
            (List.subset_cons_self next ss) hMem
        · intro t hT
          rcases List.mem_cons.mp hT with rfl | hLater
          · exact hMost t List.mem_cons_self
          · rcases List.mem_cons.mp hLater with rfl | hLast
            · exact (Nat.not_lt.mp hDeeper).trans
                (hMost best List.mem_cons_self)
            · exact hMost t (List.mem_cons_of_mem best hLast)

/- The slot of a root that lies below all others above a path. -/
structure Innermost
    (p : Pool α)
    (path : RawText)
    (s : Slot α) : Prop where
  mem : s ∈ p.slots
  above : s.parts <+: Path.partsOf path
  below :
    ∀ t ∈ p.slots, t.parts <+: Path.partsOf path →
      t.parts <+: s.parts

/- Roots above one path with equally many parts are the same. -/
theorem Innermost.unique
    {path : RawText}
    {s t : Slot α}
    (hDistinct :
      p.slots.Pairwise (fun s t => s.parts ≠ t.parts))
    (hS : p.Innermost path s)
    (hT : p.Innermost path t) :
    s = t := by
  have hParts : s.parts = t.parts :=
    List.IsPrefix.eq_of_length (hT.below s hS.mem hS.above)
      (Nat.le_antisymm
        (hT.below s hS.mem hS.above).length_le
        (hS.below t hT.mem hT.above).length_le)
  have : Std.Symm (fun s t : Slot α => s.parts ≠ t.parts) :=
    ⟨fun _ _ => Ne.symm⟩
  by_contra hNe
  exact hDistinct.forall hS.mem hT.mem hNe hParts

/- There is no slot, or one of an innermost root. -/
theorem slotFor?_cases
    (p : Pool α)
    (path : RawText) :
    (p.slotFor? path = none ∧
        ∀ s ∈ p.slots, ¬ s.parts <+: Path.partsOf path) ∨
      ∃ s, p.slotFor? path = some s ∧ p.Innermost path s := by
  unfold slotFor?
  cases hAbove : p.slots.filter (fun s => s.covers path) with
  | nil =>
      left
      refine ⟨rfl, ?_⟩
      intro s hMem hPrefix
      exact List.filter_eq_nil_iff.mp hAbove s hMem
        (Slot.covers_iff.mpr hPrefix)
  | cons first ss =>
      right
      have hMem :
          ∀ s, s ∈ first :: ss ↔
            s ∈ p.slots ∧ s.parts <+: Path.partsOf path := by
        intro s
        rw [← hAbove, List.mem_filter, Slot.covers_iff]
      rcases exists_foldl_deeper first ss with
        ⟨s, hFold, hS, hMost⟩
      refine ⟨s, hFold, ((hMem s).mp hS).1, ((hMem s).mp hS).2, ?_⟩
      intro t hT hPrefix
      exact List.prefix_of_prefix_length_le hPrefix
        ((hMem s).mp hS).2 (hMost t ((hMem t).mpr ⟨hT, hPrefix⟩))

theorem slotFor?_eq_some_iff
    (hKeeps : Keeps roots p)
    {path : RawText}
    {s : Slot α} :
    p.slotFor? path = some s ↔ p.Innermost path s := by
  rcases p.slotFor?_cases path with
    ⟨hNone, hNo⟩ | ⟨t, hSome, hInnermost⟩
  · rw [hNone]
    constructor
    · intro hFound
      cases hFound
    · intro hInnermost
      exact absurd hInnermost.above (hNo s hInnermost.mem)
  · rw [hSome, Option.some_inj]
    constructor
    · rintro rfl
      exact hInnermost
    · intro hOther
      exact hInnermost.unique hKeeps.distinct hOther

theorem slotFor?_eq_none_iff
    {path : RawText} :
    p.slotFor? path = none ↔
      ∀ s ∈ p.slots, ¬ s.parts <+: Path.partsOf path := by
  rcases p.slotFor?_cases path with
    ⟨hNone, hNo⟩ | ⟨s, hSome, hInnermost⟩
  · exact iff_of_true hNone hNo
  · rw [hSome]
    refine iff_of_false (Option.some_ne_none s) ?_
    intro hNo
    exact hNo s hInnermost.mem hInnermost.above

/- Slots in another order lead to the same slot. -/
theorem slotFor?_of_perm
    (hKeeps : Keeps roots p)
    {slots : List (Slot α)}
    (hPerm : slots.Perm p.slots)
    (path : RawText) :
    (Pool.mk slots).slotFor? path = p.slotFor? path := by
  have hOther : Keeps roots (Pool.mk slots) := by
    refine ⟨?_, ?_, ?_⟩
    · exact (hPerm.pairwise_iff (fun hST => hST.symm)).mpr
        hKeeps.distinct
    · intro s hMem
      exact hKeeps.registered s (hPerm.mem_iff.mp hMem)
    · intro r hR
      rcases hKeeps.kept r hR with ⟨s, hMem, hParts⟩
      exact ⟨s, hPerm.mem_iff.mpr hMem, hParts⟩
  apply Option.ext
  intro s
  rw [slotFor?_eq_some_iff hOther, slotFor?_eq_some_iff hKeeps]
  constructor
  · intro hS
    exact ⟨hPerm.mem_iff.mp hS.mem, hS.above,
      fun t hT => hS.below t (hPerm.mem_iff.mpr hT)⟩
  · intro hS
    exact ⟨hPerm.mem_iff.mpr hS.mem, hS.above,
      fun t hT => hS.below t (hPerm.mem_iff.mp hT)⟩

------------------------------------------------------------
-- Any Order
------------------------------------------------------------

theorem Keeps.exists_slot_iff
    (hKeeps : Keeps roots p)
    {parts : List Part} :
    (∃ s ∈ p.slots, s.parts = parts) ↔
      parts ∈ roots.map Path.partsOf := by
  rw [List.mem_map]
  constructor
  · rintro ⟨s, hMem, hParts⟩
    exact ⟨s.root, hKeeps.registered s hMem, hParts⟩
  · rintro ⟨r, hR, rfl⟩
    exact hKeeps.kept r hR

/- The innermost root is innermost in a pool of the same roots. -/
theorem Innermost.parts_eq
    {path : RawText}
    {s t : Slot α}
    (hSame :
      ∀ parts,
        (∃ s ∈ p.slots, s.parts = parts) ↔
          ∃ t ∈ q.slots, t.parts = parts)
    (hS : p.Innermost path s)
    (hT : q.Innermost path t) :
    s.parts = t.parts := by
  rcases (hSame s.parts).mp ⟨s, hS.mem, rfl⟩ with
    ⟨s', hS', hPartsS⟩
  rcases (hSame t.parts).mpr ⟨t, hT.mem, rfl⟩ with
    ⟨t', hT', hPartsT⟩
  have hST : s.parts <+: t.parts := by
    rw [← hPartsS]
    exact hT.below s' hS' (hPartsS ▸ hS.above)
  have hTS : t.parts <+: s.parts := by
    rw [← hPartsT]
    exact hS.below t' hT' (hPartsT ▸ hT.above)
  exact hST.eq_of_length
    (Nat.le_antisymm hST.length_le hTS.length_le)

/- Only the paths that are registered matter. -/
theorem rel_slotFor?
    (hP : Keeps roots p)
    (hQ : Keeps others q)
    (hSame :
      ∀ parts,
        parts ∈ roots.map Path.partsOf ↔
          parts ∈ others.map Path.partsOf)
    (path : RawText) :
    Option.Rel (fun s t => s.parts = t.parts)
      (p.slotFor? path) (q.slotFor? path) := by
  have hSlots :
      ∀ parts,
        (∃ s ∈ p.slots, s.parts = parts) ↔
          ∃ t ∈ q.slots, t.parts = parts := by
    intro parts
    rw [hP.exists_slot_iff, hQ.exists_slot_iff, hSame]
  rcases p.slotFor?_cases path with
    ⟨hNone, hNo⟩ | ⟨s, hSome, hS⟩
  · have hNoneQ : q.slotFor? path = none := by
      rw [slotFor?_eq_none_iff]
      intro t hMem hAbove
      rcases (hSlots t.parts).mpr ⟨t, hMem, rfl⟩ with
        ⟨s, hS, hParts⟩
      exact hNo s hS (hParts ▸ hAbove)
    rw [hNone, hNoneQ]
    exact .none
  · rcases q.slotFor?_cases path with
      ⟨_, hNo⟩ | ⟨t, hSomeQ, hT⟩
    · rcases (hSlots s.parts).mp ⟨s, hS.mem, rfl⟩ with
        ⟨t, hT, hParts⟩
      exact absurd hS.above (hParts ▸ hNo t hT)
    · rw [hSome, hSomeQ]
      exact .some (hS.parts_eq hSlots hT)

/-
  A path has no slot just if no registered root is above it or
  the path itself.  Otherwise it has the slot of such a root,
  and all other such roots are proper ancestors of that one.
  The order in which the slots are gone through says nothing,
  and neither does the order in which, or how often, the roots
  were registered: only the paths that the roots are matter.
-/
theorem slotFor?_innermost
    (hArises : Arises roots p)
    (path : RawText) :
    (p.slotFor? path = none ↔
        ∀ r ∈ roots,
          ¬ Path.partsOf r <+: Path.partsOf path) ∧
      (∀ s, p.slotFor? path = some s →
        s ∈ p.slots ∧ s.root ∈ roots ∧
          Path.partsOf s.root <+: Path.partsOf path ∧
            ∀ r ∈ roots,
              Path.partsOf r <+: Path.partsOf path →
                Path.partsOf r ≠ Path.partsOf s.root →
                  Path.IsAbove r s.root) ∧
      (∀ slots, slots.Perm p.slots →
        (Pool.mk slots).slotFor? path = p.slotFor? path) ∧
      ∀ others (q : Pool α),
        Arises others q →
          (∀ parts,
            parts ∈ roots.map Path.partsOf ↔
              parts ∈ others.map Path.partsOf) →
            Option.Rel (fun s t => s.parts = t.parts)
              (p.slotFor? path) (q.slotFor? path) := by
  have hKeeps := hArises.keeps
  refine ⟨?_, ?_, ?_, ?_⟩
  · rw [slotFor?_eq_none_iff]
    constructor
    · intro hNo r hR hAbove
      rcases hKeeps.kept r hR with ⟨s, hMem, hParts⟩
      exact hNo s hMem (hParts ▸ hAbove)
    · intro hNo s hMem
      exact hNo s.root (hKeeps.registered s hMem)
  · intro s hFound
    have hInnermost := (slotFor?_eq_some_iff hKeeps).mp hFound
    refine ⟨hInnermost.mem,
      hKeeps.registered s hInnermost.mem, hInnermost.above, ?_⟩
    intro r hR hAbove hOther
    rcases hKeeps.kept r hR with ⟨t, hMem, hParts⟩
    have hBelow :=
      hInnermost.below t hMem (hParts ▸ hAbove)
    exact ⟨hParts ▸ hBelow, hOther⟩
  · intro slots hPerm
    exact slotFor?_of_perm hKeeps hPerm path
  · intro others q hOthers hSame
    exact rel_slotFor? hKeeps hOthers.keeps hSame path

/- A root within another one, and one with a similar name. -/
theorem slotFor?_innermost_nested :
    let roots : List RawText :=
      ["/ws", "/ws/api/", "/ws2", "/ws/./api"]
    let pool (rs : List RawText) : Pool Unit :=
      rs.foldl (fun p r => p.register r ()) empty
    let path : RawText := "/ws/api/src/a.ts"
    Arises roots (pool roots) ∧
      (pool roots).slotFor? path = some ⟨"/ws/api/", ()⟩ ∧
      Path.IsAbove "/ws" "/ws/api/" ∧
      (pool roots).slotFor? "/ws3/a.ts" = none ∧
      Option.Rel (fun s t => s.parts = t.parts)
        ((pool roots).slotFor? path)
        ((pool roots.reverse).slotFor? path) := by
  intro roots pool path
  have hArises : ∀ rs : List RawText, Arises rs (pool rs) := by
    intro rs
    induction rs using List.reverseRecOn with
    | nil => exact .empty
    | append_singleton rs r ih =>
        simp only [pool, List.foldl_concat]
        exact .register r () ih
  have hFound :
      (pool roots).slotFor? path = some ⟨"/ws/api/", ()⟩ := by
    decide +kernel
  rcases slotFor?_innermost (hArises roots) path with
    ⟨_, hInnermost, _, hOrder⟩
  rcases slotFor?_innermost (hArises roots) "/ws3/a.ts" with
    ⟨hNone, _⟩
  refine ⟨hArises roots, hFound, ?_, ?_, ?_⟩
  · exact (hInnermost _ hFound).2.2.2 "/ws"
      (by decide) (by decide +kernel) (by decide +kernel)
  · exact hNone.mpr (by decide +kernel)
  · exact hOrder roots.reverse (pool roots.reverse)
      (hArises roots.reverse) (by simp)

end Pool

end ModuleLint
