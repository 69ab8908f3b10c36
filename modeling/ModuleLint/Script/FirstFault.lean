import ModuleLint.Script.TreeCursor

/-
  The first place where a text does not fit the grammar.

  A cursor goes through a tree in document order.  It goes down
  only into trees that say they hold a fault.

  Key definitions include:
    * `TreeCursor.descend?`, `TreeCursor.advance?`
    * `TreeCursor.seek`
    * `Tree.firstFault?`
-/

namespace ModuleLint

namespace Script

------------------------------------------------------------
-- Measures
------------------------------------------------------------

/- A tree has one node more than the trees below it. -/
theorem Tree.size_eq
    (t : Tree) :
    t.size = 1 + total (t.children.map size) := by
  cases t with
  | node l cs => simp [size, children]

namespace TreeCursor

------------------------------------------------------------
-- Steps
------------------------------------------------------------

/- Down into a tree that says it holds a fault. -/
def descend?
    (c : TreeCursor) : Option TreeCursor :=
  if c.node.damaged then c.firstChild? else none

/- Down if that can be done, and else on. -/
def advance?
    (c : TreeCursor) : Option TreeCursor :=
  match c.descend? with
  | some d => some d
  | none => c.leave?

/- A step either goes below the node or passes over its tree. -/
theorem advance?_cases
    {c d : TreeCursor}
    (hStep : c.advance? = some d) :
    (c.node.damaged = true ∧
        d.ahead = c.node.children ++ c.waiting) ∨
      (c.descend? = none ∧ d.ahead = c.waiting) := by
  unfold advance? at hStep
  split at hStep
  · next hDown =>
      cases hStep
      unfold descend? at hDown
      split at hDown
      · next hDamaged =>
          exact Or.inl ⟨hDamaged, ahead_of_firstChild? hDown⟩
      · cases hDown
  · next hDown => exact Or.inr ⟨hDown, ahead_of_leave? hStep⟩

/- Each step leaves fewer nodes ahead. -/
theorem weight_of_advance?
    {c d : TreeCursor}
    (hStep : c.advance? = some d) :
    d.weight < c.weight := by
  have hSize := Tree.size_eq c.node
  unfold weight
  rcases advance?_cases hStep with ⟨_, hAhead⟩ | ⟨_, hAhead⟩
  · rw [hAhead, ahead, List.map_append, total_append,
      List.map_cons, total_cons]
    omega
  · rw [hAhead, ahead, List.map_cons, total_cons]
    omega

------------------------------------------------------------
-- Search
------------------------------------------------------------

/- The first faulty node from the cursor on. -/
def seek
    (c : TreeCursor) : Option Tree :=
  if c.node.faulty then some c.node
  else
    match hStep : c.advance? with
    | some d =>
        have := weight_of_advance? hStep
        d.seek
    | none => none
termination_by c.weight

end TreeCursor

/- The first faulty node of a tree. -/
def Tree.firstFault?
    (t : Tree) : Option Tree :=
  (TreeCursor.ofTree t).seek

end Script

end ModuleLint
