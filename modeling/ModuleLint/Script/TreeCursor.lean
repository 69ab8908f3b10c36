import ModuleLint.Script.Tree

/-
  Cursors in a tree.

  A cursor stands at a node.  It knows the siblings behind the
  node, and the nodes above it with the siblings behind each of
  them, so that it can go on from where it stands without
  leaving the tree that it was set on.

  Key definitions include:
    * `TreeCursor`, `TreeCursor.ofTree`
    * `TreeCursor.firstChild?`, `TreeCursor.nextSibling?`,
      `TreeCursor.parent?`
    * `TreeCursor.ahead`, `TreeCursor.weight`
    * `TreeCursor.leave?`
-/

namespace ModuleLint

namespace Script

/- A node, what is behind it, and the nodes above it. -/
structure TreeCursor where
  node : Tree
  later : List Tree
  above : List (Tree × List Tree)
deriving Repr, Inhabited

namespace TreeCursor

------------------------------------------------------------
-- Moves
------------------------------------------------------------

/- A cursor at the root of a tree. -/
def ofTree
    (t : Tree) : TreeCursor :=
  ⟨t, [], []⟩

/- Down to the first child. -/
def firstChild?
    (c : TreeCursor) : Option TreeCursor :=
  match c.node.children with
  | [] => none
  | t :: ts => some ⟨t, ts, (c.node, c.later) :: c.above⟩

/- On to the next sibling. -/
def nextSibling?
    (c : TreeCursor) : Option TreeCursor :=
  match c.later with
  | [] => none
  | t :: ts => some { c with node := t, later := ts }

/- Up to the parent. -/
def parent?
    (c : TreeCursor) : Option TreeCursor :=
  match c.above with
  | [] => none
  | (t, later) :: above => some ⟨t, later, above⟩

------------------------------------------------------------
-- What Lies Ahead
------------------------------------------------------------

/- The trees behind that of the node, in document order. -/
def waiting
    (c : TreeCursor) : List Tree :=
  c.later ++ c.above.flatMap Prod.snd

/- The tree of the node and those behind it. -/
def ahead
    (c : TreeCursor) : List Tree :=
  c.node :: c.waiting

/- The number of nodes that lie ahead. -/
def weight
    (c : TreeCursor) : Nat :=
  total (c.ahead.map Tree.size)

@[simp] theorem waiting_ofTree
    (t : Tree) :
    (ofTree t).waiting = [] := rfl

/- Below a node come its children, then what was behind it. -/
theorem ahead_of_firstChild?
    {c d : TreeCursor}
    (hMove : c.firstChild? = some d) :
    d.ahead = c.node.children ++ c.waiting := by
  unfold firstChild? at hMove
  split at hMove
  · cases hMove
  · next t ts hChildren =>
      cases hMove
      simp [ahead, waiting, hChildren]

theorem ahead_of_nextSibling?
    {c d : TreeCursor}
    (hMove : c.nextSibling? = some d) :
    d.ahead = c.waiting := by
  unfold nextSibling? at hMove
  split at hMove
  · cases hMove
  · next t ts hLater =>
      cases hMove
      simp [ahead, waiting, hLater]

theorem later_of_nextSibling?
    {c : TreeCursor}
    (hMove : c.nextSibling? = none) :
    c.later = [] := by
  unfold nextSibling? at hMove
  split at hMove
  · assumption
  · cases hMove

/- Behind the parent of a last child is what is behind the child. -/
theorem waiting_of_parent?
    {c d : TreeCursor}
    (hLater : c.later = [])
    (hMove : c.parent? = some d) :
    d.waiting = c.waiting := by
  unfold parent? at hMove
  split at hMove
  · cases hMove
  · next t later above hAbove =>
      cases hMove
      simp [waiting, hLater, hAbove]

theorem length_above_of_parent?
    {c d : TreeCursor}
    (hMove : c.parent? = some d) :
    d.above.length < c.above.length := by
  unfold parent? at hMove
  split at hMove
  · cases hMove
  · next t later above hAbove =>
      cases hMove
      simp [hAbove]

theorem above_of_parent?
    {c : TreeCursor}
    (hMove : c.parent? = none) :
    c.above = [] := by
  unfold parent? at hMove
  split at hMove
  · assumption
  · cases hMove

------------------------------------------------------------
-- Leaving a Tree
------------------------------------------------------------

/-
  On to the next sibling of the node, or of the nearest node
  above it that has one.
-/
def leave?
    (c : TreeCursor) : Option TreeCursor :=
  match c.nextSibling? with
  | some d => some d
  | none =>
      match hMove : c.parent? with
      | some d =>
          have := length_above_of_parent? hMove
          d.leave?
      | none => none
termination_by c.above.length

/- A node is left for what is behind it, if there is anything. -/
theorem waiting_eq_leave?
    (c : TreeCursor) :
    c.waiting = (c.leave?.map ahead).getD [] := by
  fun_induction leave? c with
  | case1 c d hNext =>
      exact (ahead_of_nextSibling? hNext).symm
  | case2 c hNext d hMove _ ih =>
      rw [← waiting_of_parent? (later_of_nextSibling? hNext)
        hMove]
      exact ih
  | case3 c hNext hMove =>
      simp [waiting, later_of_nextSibling? hNext,
        above_of_parent? hMove]

theorem ahead_of_leave?
    {c d : TreeCursor}
    (hMove : c.leave? = some d) :
    d.ahead = c.waiting := by
  rw [waiting_eq_leave?, hMove]
  rfl

theorem waiting_of_leave?
    {c : TreeCursor}
    (hMove : c.leave? = none) :
    c.waiting = [] := by
  rw [waiting_eq_leave?, hMove]
  rfl

end TreeCursor

end Script

end ModuleLint
