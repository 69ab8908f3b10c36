import ModuleLint.Rules.Builtin.Correctness
import ModuleLint.Rules.Engine

/-
  The search for the first fault finds it.

  What lies ahead of a cursor are the nodes that the search has
  neither looked at nor passed over.  A step passes over a tree
  only where no node of it is faulty, so that the first faulty
  node ahead stays the same.

  Main declarations:
    * `TreeCursor.nodes`, `TreeCursor.Marked`
    * `TreeCursor.find?_of_advance?`
    * `TreeCursor.seek_eq_find?`
    * `Builtin.syntaxFault_reports_first`
-/

namespace ModuleLint

namespace Script

------------------------------------------------------------
-- Marked Trees
------------------------------------------------------------

namespace Tree

theorem Marked.of_child
    {t c : Tree}
    (hMarked : t.Marked)
    (hChild : c ∈ t.children) :
    c.Marked :=
  fun n hMem => hMarked n (mem_preorder_of_child hChild hMem)

/- A marked tree is damaged just when a node of it is faulty. -/
theorem Marked.damaged_eq_false_iff
    {t : Tree}
    (hMarked : t.Marked) :
    t.damaged = false ↔ ∀ n ∈ t.preorder, n.faulty = false := by
  rw [← Bool.not_eq_true, hMarked t t.self_mem_preorder]
  simp

end Tree

------------------------------------------------------------
-- One Step
------------------------------------------------------------

namespace TreeCursor

/- The nodes that lie ahead, in document order. -/
def nodes
    (c : TreeCursor) : List Tree :=
  c.ahead.flatMap Tree.preorder

/- The trees that lie ahead are marked. -/
def Marked
    (c : TreeCursor) : Prop :=
  ∀ t ∈ c.ahead, t.Marked

theorem nodes_eq
    (c : TreeCursor) :
    c.nodes =
      c.node.preorder ++ c.waiting.flatMap Tree.preorder := by
  rw [nodes, ahead, List.flatMap_cons]

theorem children_of_firstChild?
    {c : TreeCursor}
    (hMove : c.firstChild? = none) :
    c.node.children = [] := by
  unfold firstChild? at hMove
  split at hMove
  · assumption
  · cases hMove

/- A tree is passed over only if no node of it is faulty. -/
theorem sound_of_descend?
    {c : TreeCursor}
    (hMarked : c.Marked)
    (hSound : c.node.faulty = false)
    (hDown : c.descend? = none) :
    ∀ n ∈ c.node.preorder, n.faulty = false := by
  unfold descend? at hDown
  split at hDown
  · rw [Tree.preorder_eq, children_of_firstChild? hDown]
    simpa using hSound
  · next hWhole =>
      exact (hMarked c.node List.mem_cons_self)
        |>.damaged_eq_false_iff.mp
          (Bool.eq_false_iff.mpr hWhole)

theorem Marked.of_advance?
    {c d : TreeCursor}
    (hMarked : c.Marked)
    (hStep : c.advance? = some d) :
    d.Marked := by
  rw [Marked, ahead, List.forall_mem_cons] at hMarked
  rcases hMarked with ⟨hNode, hWaiting⟩
  rcases advance?_cases hStep with ⟨_, hAhead⟩ | ⟨_, hAhead⟩
  · rw [Marked, hAhead, List.forall_mem_append]
    exact ⟨fun t hChild => hNode.of_child hChild, hWaiting⟩
  · rw [Marked, hAhead]
    exact hWaiting

/- A step from a sound node does not miss a faulty one. -/
theorem find?_of_advance?
    {c d : TreeCursor}
    (hMarked : c.Marked)
    (hSound : c.node.faulty = false)
    (hStep : c.advance? = some d) :
    d.nodes.find? Tree.faulty = c.nodes.find? Tree.faulty := by
  rcases advance?_cases hStep with ⟨_, hAhead⟩ | ⟨hDown, hAhead⟩
  · have hNodes : c.nodes = c.node :: d.nodes := by
      rw [nodes_eq, Tree.preorder_eq, nodes, hAhead,
        List.flatMap_append, List.cons_append]
    rw [hNodes, List.find?_cons_of_neg (by simp [hSound])]
  · have hPassed : c.node.preorder.find? Tree.faulty = none :=
      List.find?_eq_none.mpr
        (by simpa using sound_of_descend? hMarked hSound hDown)
    rw [c.nodes_eq, List.find?_append, hPassed, Option.none_or,
      nodes, hAhead]

/- Where no step can be made, all that is ahead is sound. -/
theorem find?_of_advance?_eq_none
    {c : TreeCursor}
    (hMarked : c.Marked)
    (hSound : c.node.faulty = false)
    (hEnd : c.advance? = none) :
    c.nodes.find? Tree.faulty = none := by
  unfold advance? at hEnd
  split at hEnd
  · cases hEnd
  · next hDown =>
      rw [nodes_eq, waiting_of_leave? hEnd, List.flatMap_nil,
        List.append_nil, List.find?_eq_none]
      simpa using sound_of_descend? hMarked hSound hDown

------------------------------------------------------------
-- The Whole Search
------------------------------------------------------------

/- The search gives the first faulty node that lies ahead. -/
theorem seek_eq_find?
    {c : TreeCursor}
    (hMarked : c.Marked) :
    c.seek = c.nodes.find? Tree.faulty := by
  fun_induction seek c with
  | case1 c hFaulty =>
      rw [nodes_eq, Tree.preorder_eq, List.cons_append,
        List.find?_cons_of_pos hFaulty]
  | case2 c hFaulty d hStep _ ih =>
      rw [ih (hMarked.of_advance? hStep)]
      exact find?_of_advance? hMarked
        (Bool.eq_false_iff.mpr hFaulty) hStep
  | case3 c hFaulty hEnd =>
      exact (find?_of_advance?_eq_none hMarked
        (Bool.eq_false_iff.mpr hFaulty) hEnd).symm

end TreeCursor

theorem Tree.Marked.firstFault?_eq_find?
    {t : Tree}
    (hMarked : t.Marked) :
    t.firstFault? = t.preorder.find? Tree.faulty := by
  have hCursor : (TreeCursor.ofTree t).Marked := by
    rintro n (_ | ⟨_, hMem⟩)
    · exact hMarked
    · cases hMem
  rw [firstFault?, TreeCursor.seek_eq_find? hCursor, TreeCursor.nodes_eq,
    TreeCursor.waiting_ofTree, List.flatMap_nil, List.append_nil]
  rfl

end Script

------------------------------------------------------------
-- The Rule
------------------------------------------------------------

namespace Builtin

open Script

/- What the rule reports about a file with a fault at a node. -/
def faultAt
    (u : SourceUnit)
    (n : Tree) : Diagnostic :=
  syntaxFault.diagnose
    { filePath := u.relativePath
      line := n.line
      column := n.column
      message := "Syntax error" }

theorem runFile_syntaxFault
    (settings : RuleSettings)
    {u : SourceUnit}
    {n : Tree}
    (hDamaged : u.facts.damaged = true)
    (hFirst : u.tree.firstFault? = some n) :
    syntaxFault.runFile settings u = ⟨[faultAt u n], []⟩ := by
  simp [Rule.runFile, syntaxFault, findSyntaxFault, hDamaged,
    hFirst, Outcome.inFile, Rule.settle, faultAt, Rule.diagnose]

/-
  In a marked tree the search finds the first faulty node in
  document order, and nothing only where no node is faulty.  So
  a file with a fault gets one diagnostic, which stands at that
  node, and a file without one gets none.
-/
theorem syntaxFault_reports_first
    {t : Tree}
    (hMarked : t.Marked) :
    t.firstFault? = t.preorder.find? Tree.faulty ∧
      (t.firstFault? = none ↔
        ∀ n ∈ t.preorder, n.faulty = false) ∧
      ∀ (settings : RuleSettings) (u : SourceUnit),
        u.tree = t →
          u.facts = FileFacts.ofTree t →
            (t.damaged = true →
                ∃ n,
                  t.firstFault? = some n ∧
                    syntaxFault.runFile settings u =
                      ⟨[faultAt u n], []⟩) ∧
              (t.damaged = false →
                syntaxFault.runFile settings u = {}) := by
  have hSearch := hMarked.firstFault?_eq_find?
  have hNone :
      t.firstFault? = none ↔
        ∀ n ∈ t.preorder, n.faulty = false := by
    rw [hSearch, List.find?_eq_none]
    simp
  refine ⟨hSearch, hNone, ?_⟩
  rintro settings u rfl hFacts
  have hFlag : u.facts.damaged = u.tree.damaged := by
    rw [hFacts]
    rfl
  refine ⟨?_, ?_⟩
  · intro hDamaged
    cases hFirst : u.tree.firstFault? with
    | none =>
        have hWhole :=
          hMarked.damaged_eq_false_iff.mpr (hNone.mp hFirst)
        rw [hDamaged] at hWhole
        cases hWhole
    | some n =>
        exact ⟨n, rfl,
          runFile_syntaxFault settings (hFlag.trans hDamaged)
            hFirst⟩
  · intro hWhole
    rw [← hFlag] at hWhole
    simp [Rule.runFile, syntaxFault, findSyntaxFault, hWhole,
      Outcome.inFile, Rule.settle]

/-
  A node out of place behind a sound tree and a sound sibling,
  and in front of a missing token.
-/
theorem syntaxFault_reports_first_nested :
    let tree (standing : Standing) (damaged : Bool) (line : Nat)
        (children : List Tree) : Tree :=
      .node
        ⟨"", true, none, standing, damaged, "", ⟨0, line, 1⟩,
          .origin⟩
        children
    let stray := tree .misplaced true 2 []
    let t :=
      tree .sound true 1
        [ tree .sound false 1 [tree .sound false 1 []],
          tree .sound true 2 [tree .sound false 2 [], stray],
          tree .missing true 3 [] ]
    let u : SourceUnit :=
      ⟨"/r/a.ts", "a.ts", "", t, FileFacts.ofTree t⟩
    t.Marked ∧
      t.damaged = true ∧
        t.firstFault? = some stray ∧
          syntaxFault.runFile {} u =
            ⟨[faultAt u stray], []⟩ := by
  intro tree stray t u
  have hMarked : t.Marked := by
    simp [Tree.Marked, t, stray, tree, Tree.preorder,
      Tree.damaged, Tree.faulty, Tree.label]
  rcases syntaxFault_reports_first hMarked with
    ⟨hSearch, _, hRule⟩
  have hFirst : t.firstFault? = some stray := by
    rw [hSearch]
    simp [t, stray, tree, Tree.preorder, Tree.faulty, Tree.label]
  rcases (hRule {} u rfl rfl).1 rfl with ⟨n, hNode, hRun⟩
  rw [hFirst, Option.some.injEq] at hNode
  rw [← hNode] at hRun
  exact ⟨hMarked, rfl, hFirst, hRun⟩

end Builtin

end ModuleLint
