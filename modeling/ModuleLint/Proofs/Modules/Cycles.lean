import ModuleLint.Rules.Builtin.Architecture
import ModuleLint.Rules.Engine
import ModuleLint.Proofs.Modules.Search
import ModuleLint.Proofs.Modules.Wiring

/-
  The cycles that are reported.

  Every cycle of a graph runs over an import that closes a
  reported cycle.  Every reported cycle is one of the graph
  that holds no module twice, and each has its own set of
  modules.

  Main declarations:
    * `ModuleGraph.Uncut`
    * `ModuleGraph.cycles_cut_imports`
    * `ModuleGraph.cycles_elementary`
-/

namespace ModuleLint

open Relation

------------------------------------------------------------
-- Chains
------------------------------------------------------------

section

variable {α : Type}
variable {r : α → α → Prop}

theorem reflTransGen_of_head?
    {xs : List α}
    (hChain : xs.IsChain r)
    {a b : α}
    (hHead : xs.head? = some a)
    (hMem : b ∈ xs) :
    ReflTransGen r a b := by
  induction xs generalizing a with
  | nil => cases hMem
  | cons x xs ih =>
      cases hHead
      rcases List.mem_cons.mp hMem with rfl | hLater
      · exact .refl
      · cases xs with
        | nil => cases hLater
        | cons y ys =>
            rcases List.isChain_cons_cons.mp hChain with
              ⟨hStep, hRest⟩
            exact .head hStep (ih hRest rfl hLater)

theorem reflTransGen_of_getLast?
    {xs : List α}
    (hChain : xs.IsChain r)
    {a b : α}
    (hLast : xs.getLast? = some a)
    (hMem : b ∈ xs) :
    ReflTransGen r b a := by
  induction xs generalizing b with
  | nil => cases hMem
  | cons x xs ih =>
      cases xs with
      | nil =>
          cases hLast
          cases List.mem_singleton.mp hMem
          exact .refl
      | cons y ys =>
          rcases List.isChain_cons_cons.mp hChain with
            ⟨hStep, hRest⟩
          rw [List.getLast?_cons_cons] at hLast
          rcases List.mem_cons.mp hMem with rfl | hLater
          · exact .head hStep
              (ih hRest hLast List.mem_cons_self)
          · exact ih hRest hLast hLater

end

namespace Cycle

variable {g : ModuleGraph}
variable {c : Cycle}

theorem IsIn.exists_closes
    (hIsIn : c.IsIn g) :
    ∃ a b, c.Closes a b := by
  refine ⟨c.modules.getLast hIsIn.notEmpty,
    c.modules.head hIsIn.notEmpty, ?_, ?_⟩
  · exact List.getLast?_eq_some_getLast hIsIn.notEmpty
  · exact List.head?_eq_some_head hIsIn.notEmpty

/- Modules of a cycle reach each other. -/
theorem IsIn.reflTransGen
    (hIsIn : c.IsIn g)
    {a b m : String}
    (hCloses : c.Closes a b)
    (hMem : m ∈ c.modules) :
    ReflTransGen g.Imports b m ∧
      ReflTransGen g.Imports m a :=
  ⟨reflTransGen_of_head? hIsIn.linked hCloses.2 hMem,
    reflTransGen_of_getLast? hIsIn.linked hCloses.1 hMem⟩

/- A cycle whose last module is its first has no other. -/
theorem IsIn.eq_singleton
    (hIsIn : c.IsIn g)
    {a : String}
    (hCloses : c.Closes a a) :
    c = ⟨[a]⟩ := by
  rcases c with ⟨modules⟩
  rcases hCloses with ⟨hLast, hHead⟩
  cases modules with
  | nil => cases hHead
  | cons m ms =>
      cases hHead
      cases ms with
      | nil => rfl
      | cons n ms =>
          have hMem : a ∈ n :: ms := by
            rw [List.getLast?_cons_cons] at hLast
            exact List.mem_of_getLast? hLast
          exact absurd hMem
            (List.nodup_cons.mp hIsIn.nodup).1

end Cycle

------------------------------------------------------------
-- Modules That Have Been Left
------------------------------------------------------------

namespace CycleSearch

variable {g : ModuleGraph}
variable {cyclic left : List String}
variable {found : List Cycle}

/- An import within the modules on cycles that closes none. -/
def Open
    (g : ModuleGraph)
    (cyclic : List String)
    (found : List Cycle)
    (a b : String) : Prop :=
  g.Imports a b ∧ b ∈ cyclic ∧ ∀ c ∈ found, ¬ c.Closes a b

theorem Settled.mem_of_open
    (hSettled : Settled g cyclic found left)
    {a b : String}
    (hMem : a ∈ left)
    (hOpen : Open g cyclic found a b) :
    b ∈ left := by
  induction hSettled with
  | nil => cases hMem
  | @cons x left hImports _ ih =>
      apply List.mem_cons_of_mem
      rcases List.mem_cons.mp hMem with rfl | hLater
      · rcases hImports b hOpen.1 hOpen.2.1 with
          hLeft | ⟨c, hC, hCloses⟩
        · exact hLeft
        · exact absurd hCloses (hOpen.2.2 c hC)
      · exact ih hLater

theorem Settled.mem_of_reflTransGen
    (hSettled : Settled g cyclic found left)
    {a b : String}
    (hMem : a ∈ left)
    (hReach : ReflTransGen (Open g cyclic found) a b) :
    b ∈ left := by
  induction hReach with
  | refl => exact hMem
  | tail _ hOpen ih => exact hSettled.mem_of_open ih hOpen

/-
  Imports lead from what was left later to what was left
  before, so they do not lead back.
-/
theorem Settled.not_transGen
    (hSettled : Settled g cyclic found left)
    {a : String}
    (hMem : a ∈ left) :
    ¬ TransGen (Open g cyclic found) a a := by
  induction hSettled with
  | nil => cases hMem
  | @cons x left hImports hLeft ih =>
      by_cases hLater : a ∈ left
      · exact ih hLater
      · intro hLoop
        have hHead : a = x := by
          rcases List.mem_cons.mp hMem with hEq | hIn
          · exact hEq
          · exact absurd hIn hLater
        subst hHead
        rcases TransGen.head'_iff.mp hLoop with
          ⟨b, hOpen, hReach⟩
        rcases hImports b hOpen.1 hOpen.2.1 with
          hB | ⟨c, hC, hCloses⟩
        · exact hLater
            (hLeft.mem_of_reflTransGen hB hReach)
        · exact hOpen.2.2 c hC hCloses

/- An import of itself closes a cycle. -/
theorem Settled.exists_closes_self
    (hSettled : Settled g cyclic found left)
    (hNodup : left.Nodup)
    {a : String}
    (hMem : a ∈ left)
    (hImports : g.Imports a a)
    (hCyclic : a ∈ cyclic) :
    ∃ c ∈ found, c.Closes a a := by
  induction hSettled with
  | nil => cases hMem
  | cons hAll _ ih =>
      rw [List.nodup_cons] at hNodup
      rcases List.mem_cons.mp hMem with rfl | hLater
      · rcases hAll a hImports hCyclic with hLeft | hFound
        · exact absurd hLeft hNodup.1
        · exact hFound
      · exact ih hNodup.2 hLater

end CycleSearch

------------------------------------------------------------
-- Imports That Close Cycles
------------------------------------------------------------

namespace ModuleGraph

variable {g : ModuleGraph}

theorem mem_cycles_iff
    {c : Cycle} :
    c ∈ g.cycles ↔ c ∈ (CycleSearch.run g).found :=
  List.mem_reverse

theorem isIn_of_mem_cycles
    {c : Cycle}
    (hMem : c ∈ g.cycles) :
    c.IsIn g := by
  rcases CycleSearch.valid_run g with ⟨left, _, hValid⟩
  exact (hValid.found c (mem_cycles_iff.mp hMem)).2

/- An import that does not close a reported cycle. -/
def Uncut
    (g : ModuleGraph)
    (a b : String) : Prop :=
  g.Imports a b ∧ ∀ c ∈ g.cycles, ¬ c.Closes a b

theorem transGen_of_uncut
    {x y : String}
    (hReach : TransGen g.Uncut x y) :
    TransGen g.Imports x y :=
  TransGen.mono (fun _ _ hStep => hStep.1) x y hReach

/- A way back to its start stays among modules on cycles. -/
theorem transGen_open_of_uncut
    {x y : String}
    (hReach : TransGen g.Uncut x y)
    (hBack : ReflTransGen g.Imports y x) :
    TransGen
      (CycleSearch.Open g g.cyclic (CycleSearch.run g).found)
      x y := by
  have hOpen :
      ∀ {a b}, g.Uncut a b →
        TransGen g.Imports b b →
          CycleSearch.Open g g.cyclic
            (CycleSearch.run g).found a b := by
    intro a b hStep hLoop
    refine ⟨hStep.1, mem_cyclic_iff.mpr hLoop, ?_⟩
    intro c hC
    exact hStep.2 c (mem_cycles_iff.mpr hC)
  induction hReach with
  | single hStep =>
      exact .single
        (hOpen hStep (TransGen.tail' hBack hStep.1))
  | tail hFront hStep ih =>
      have hLoop :=
        TransGen.trans_right hBack
          ((transGen_of_uncut hFront).tail hStep.1)
      exact .tail (ih (.head hStep.1 hBack))
        (hOpen hStep hLoop)

/- Without the imports that close them, there are no cycles. -/
theorem not_transGen_uncut
    (g : ModuleGraph)
    (x : String) :
    ¬ TransGen g.Uncut x x := by
  intro hLoop
  rcases CycleSearch.valid_run g with
    ⟨left, hCyclic, hValid⟩
  have hImports := transGen_of_uncut hLoop
  exact hValid.settled.not_transGen
    (hCyclic x (mem_cyclic_iff.mpr hImports))
    (transGen_open_of_uncut hLoop .refl)

/-
  A way either is free of imports that close cycles, or runs
  over one of them.
-/
theorem transGen_uncut_or_closes
    {x y : String}
    (hReach : TransGen g.Imports x y) :
    TransGen g.Uncut x y ∨
      ∃ c ∈ g.cycles, ∃ a b,
        c.Closes a b ∧ ReflTransGen g.Imports x a ∧
          ReflTransGen g.Imports b y := by
  have hStep :
      ∀ {a b}, g.Imports a b →
        g.Uncut a b ∨ ∃ c ∈ g.cycles, c.Closes a b := by
    intro a b hImports
    by_cases hCut : ∃ c ∈ g.cycles, c.Closes a b
    · exact Or.inr hCut
    · refine Or.inl ⟨hImports, ?_⟩
      intro c hC hCloses
      exact hCut ⟨c, hC, hCloses⟩
  induction hReach with
  | single hImports =>
      rcases hStep hImports with hUncut | ⟨c, hC, hCloses⟩
      · exact Or.inl (.single hUncut)
      · exact Or.inr ⟨c, hC, _, _, hCloses, .refl, .refl⟩
  | tail hFront hImports ih =>
      rcases ih with hUncut | ⟨c, hC, a, b, hCloses, hA, hB⟩
      · rcases hStep hImports with hLast | ⟨c, hC, hCloses⟩
        · exact Or.inl (hUncut.tail hLast)
        · exact Or.inr
            ⟨c, hC, _, _, hCloses, hFront.to_reflTransGen,
              .refl⟩
      · exact Or.inr
          ⟨c, hC, a, b, hCloses, hA, hB.tail hImports⟩

/- A module on a cycle has a reported cycle around it. -/
theorem exists_cycle_of_transGen
    {x : String}
    (hLoop : TransGen g.Imports x x) :
    ∃ c ∈ g.cycles,
      ∀ m ∈ c.modules,
        ReflTransGen g.Imports x m ∧
          ReflTransGen g.Imports m x := by
  rcases transGen_uncut_or_closes hLoop with
    hUncut | ⟨c, hC, a, b, hCloses, hA, hB⟩
  · exact absurd hUncut (not_transGen_uncut g x)
  · refine ⟨c, hC, ?_⟩
    intro m hMem
    have hIsIn := isIn_of_mem_cycles hC
    have hBack : ReflTransGen g.Imports a b :=
      .single (hIsIn.closed a b hCloses)
    rcases hIsIn.reflTransGen hCloses hMem with
      ⟨hFirst, hLast⟩
    exact ⟨hA.trans (hBack.trans hFirst),
      hLast.trans (hBack.trans hB)⟩

theorem cycles_eq_nil_iff
    (g : ModuleGraph) :
    g.cycles = [] ↔ ∀ x, ¬ TransGen g.Imports x x := by
  constructor
  · intro hNil x hLoop
    rcases exists_cycle_of_transGen hLoop with ⟨c, hC, _⟩
    rw [hNil] at hC
    cases hC
  · intro hAcyclic
    rw [List.eq_nil_iff_forall_not_mem]
    intro c hC
    have hIsIn := isIn_of_mem_cycles hC
    rcases hIsIn.exists_closes with ⟨a, b, hCloses⟩
    have hMem : a ∈ c.modules :=
      List.mem_of_getLast? hCloses.1
    exact hAcyclic a
      (.head' (hIsIn.closed a b hCloses)
        (hIsIn.reflTransGen hCloses hMem).1)

theorem singleton_mem_cycles
    {x : String}
    (hImports : g.Imports x x) :
    ⟨[x]⟩ ∈ g.cycles := by
  rcases CycleSearch.valid_run g with
    ⟨left, hCyclic, hValid⟩
  have hMem : x ∈ g.cyclic :=
    mem_cyclic_iff.mpr (.single hImports)
  have hNodup : left.Nodup :=
    hValid.visited.nodup_iff.mp hValid.nodup
  rcases hValid.settled.exists_closes_self hNodup
      (hCyclic x hMem) hImports hMem with
    ⟨c, hC, hCloses⟩
  rw [← (hValid.found c hC).2.eq_singleton hCloses]
  exact mem_cycles_iff.mpr hC

/-
  Reported cycles cut every cycle of the imports: no cycle is
  left without the imports that close them.  So there are none
  exactly if no module imports itself through others, a module
  that imports itself directly is a cycle of its own, and each
  component with a cycle contains a reported one.
-/
theorem cycles_cut_imports
    (ns : List ModuleNode) :
    (∀ x, ¬ TransGen (ofNodes ns).Uncut x x) ∧
      ((ofNodes ns).cycles = [] ↔
        ∀ x, ¬ TransGen (ofNodes ns).Imports x x) ∧
      (∀ x,
        (ofNodes ns).Imports x x →
          ⟨[x]⟩ ∈ (ofNodes ns).cycles) ∧
      ∀ x,
        TransGen (ofNodes ns).Imports x x →
          ∃ c ∈ (ofNodes ns).cycles,
            ∀ m ∈ c.modules,
              ReflTransGen (ofNodes ns).Imports x m ∧
                ReflTransGen (ofNodes ns).Imports m x :=
  ⟨not_transGen_uncut _, cycles_eq_nil_iff _,
    fun _ hImports => singleton_mem_cycles hImports,
    fun _ hLoop => exists_cycle_of_transGen hLoop⟩

/- Two modules that import each other, and one itself. -/
theorem cycles_cut_pair_and_self :
    let ns : List ModuleNode :=
      [⟨"A", "a.ts", 1, 1, [], ["B", "B", "X"], [], []⟩,
        ⟨"B", "b.ts", 1, 1, [], ["A"], [], []⟩,
        ⟨"C", "c.ts", 1, 1, [], ["A", "C"], [], []⟩]
    (ofNodes ns).Imports "C" "C" ∧
      ⟨["C"]⟩ ∈ (ofNodes ns).cycles ∧
      TransGen (ofNodes ns).Imports "A" "A" ∧
      ∃ c ∈ (ofNodes ns).cycles,
        ∀ m ∈ c.modules,
          ReflTransGen (ofNodes ns).Imports "A" m ∧
            ReflTransGen (ofNodes ns).Imports m "A" := by
  intro ns
  have hSelf : (ofNodes ns).Imports "C" "C" := by
    decide +kernel
  have hThere : (ofNodes ns).Imports "A" "B" := by
    decide +kernel
  have hBack : (ofNodes ns).Imports "B" "A" := by
    decide +kernel
  have hLoop : TransGen (ofNodes ns).Imports "A" "A" :=
    .tail (.single hThere) hBack
  rcases cycles_cut_imports ns with
    ⟨_, _, hSingleton, hComponent⟩
  exact ⟨hSelf, hSingleton "C" hSelf, hLoop,
    hComponent "A" hLoop⟩

------------------------------------------------------------
-- Reports of Cycles
------------------------------------------------------------

/- Two reported cycles differ in some module. -/
theorem pairwise_cycles
    (g : ModuleGraph) :
    g.cycles.Pairwise
      (fun c d =>
        ¬ ∀ m, m ∈ c.modules ↔ m ∈ d.modules) := by
  rcases CycleSearch.valid_run g with ⟨left, _, hValid⟩
  have hDistinct :
      g.cycles.Pairwise
        (fun c d => ¬ c.modules.Perm d.modules) := by
    refine List.pairwise_reverse.mpr
      (hValid.distinct.imp ?_)
    intro c d hNe hPerm
    exact hNe hPerm.symm
  refine hDistinct.imp_of_mem ?_
  intro c d hC hD hNe hSame
  exact hNe ((List.perm_ext_iff_of_nodup
    (isIn_of_mem_cycles hC).nodup
    (isIn_of_mem_cycles hD).nodup).mpr hSame)

/-
  A diagnostic for a cycle, at the first of the declarations
  of its first module.
-/
def Reports
    (ns : List ModuleNode)
    (c : Cycle)
    (d : Diagnostic) : Prop :=
  ∃ m n,
    c.modules.head? = some m ∧
      ns.find? (fun n => n.name == m) = some n ∧
      d.filePath = n.filePath ∧
      d.line = n.line ∧
      d.column = n.column ∧
      d.message = "Circular module import: " ++ c.text

/- The first module of a cycle has a declaration. -/
theorem exists_node_of_mem_cycles
    {ns : List ModuleNode}
    {c : Cycle}
    (hMem : c ∈ (ofNodes ns).cycles) :
    ∃ n,
      c.modules.head? = some c.anchor ∧
        (ofNodes ns).node? c.anchor = some n ∧
        ns.find? (fun n => n.name == c.anchor) = some n := by
  have hIsIn := isIn_of_mem_cycles hMem
  rcases List.exists_cons_of_ne_nil hIsIn.notEmpty with
    ⟨m, ms, hModules⟩
  have hAnchor : c.anchor = m := by
    rw [Cycle.anchor, hModules]
    rfl
  have hKnown := hIsIn.known m (by simp [hModules])
  rcases contains_iff.mp hKnown with ⟨n, hNode⟩
  refine ⟨n, ?_, ?_, ?_⟩
  · rw [hModules, hAnchor]
    rfl
  · rw [hAnchor]
    exact hNode
  · rw [hAnchor, ← node?_ofNodes]
    exact hNode

/- No cycle is passed over when diagnostics are made. -/
theorem forall₂_reports
    {ns : List ModuleNode}
    {cs : List Cycle}
    (hMem : ∀ c ∈ cs, c ∈ (ofNodes ns).cycles)
    (sources : SourceSet) :
    List.Forall₂ (Reports ns) cs
      ((Builtin.findCycles
          ⟨sources, ofNodes ns, cs⟩).map
        Builtin.circularModules.diagnose) := by
  induction cs with
  | nil => exact .nil
  | cons c cs ih =>
      rcases List.forall_mem_cons.mp hMem with
        ⟨hHead, hTail⟩
      rcases exists_node_of_mem_cycles hHead with
        ⟨n, hFirst, hNode, hDeclared⟩
      unfold Builtin.findCycles at ih ⊢
      simp only [List.filterMap_cons, hNode, Option.map_some,
        List.map_cons]
      refine .cons ?_ (ih hTail)
      exact ⟨c.anchor, n, hFirst, hDeclared, rfl, rfl, rfl, rfl⟩

/-
  Every reported cycle runs through modules of the graph, each
  once, from import to import and back to its first module.
  No two have the same modules.  The rule about cycles makes
  one diagnostic for each of them, in their order, where its
  first module is declared.
-/
theorem cycles_elementary
    (ns : List ModuleNode) :
    (∀ c ∈ (ofNodes ns).cycles,
        c.modules ≠ [] ∧
          c.modules.Nodup ∧
          (∀ m ∈ c.modules,
            (ofNodes ns).contains m = true) ∧
          c.modules.IsChain
            (fun a b => (ofNodes ns).hasEdge a b = true) ∧
          ∀ a b,
            c.modules.getLast? = some a →
              c.modules.head? = some b →
                (ofNodes ns).hasEdge a b = true) ∧
      (ofNodes ns).cycles.Pairwise
        (fun c d =>
          ¬ ∀ m, m ∈ c.modules ↔ m ∈ d.modules) ∧
      ∀ (t : RuleSettings) (sources : SourceSet),
        (Builtin.circularModules.runProject t
            ⟨sources, ofNodes ns,
              (ofNodes ns).cycles⟩).failures =
            [] ∧
          List.Forall₂ (Reports ns) (ofNodes ns).cycles
            (Builtin.circularModules.runProject t
              ⟨sources, ofNodes ns,
                (ofNodes ns).cycles⟩).diagnostics := by
  refine ⟨?_, pairwise_cycles _, ?_⟩
  · intro c hMem
    have hIsIn := isIn_of_mem_cycles hMem
    refine ⟨hIsIn.notEmpty, hIsIn.nodup, hIsIn.known, ?_, ?_⟩
    · exact hIsIn.linked.imp (fun _ _ => hasEdge_iff.mpr)
    · intro a b hLast hHead
      exact hasEdge_iff.mpr (hIsIn.closed a b ⟨hLast, hHead⟩)
  · intro t sources
    exact ⟨rfl, forall₂_reports (fun _ hMem => hMem) sources⟩

/- The cycle of two modules that import each other. -/
theorem cycles_elementary_pair :
    let ns : List ModuleNode :=
      [⟨"B", "b.ts", 7, 1, [], ["A"], [], []⟩,
        ⟨"A", "a.ts", 1, 1, [], ["B", "B", "X"], [], []⟩,
        ⟨"A", "c.ts", 1, 1, [], ["C"], [], []⟩]
    (ofNodes ns).cycles = [⟨["A", "B"]⟩] ∧
      ["A", "B"].Nodup ∧
      (ofNodes ns).hasEdge "B" "A" = true := by
  intro ns
  have hCycles : (ofNodes ns).cycles = [⟨["A", "B"]⟩] := by
    decide +kernel
  have hMem : ⟨["A", "B"]⟩ ∈ (ofNodes ns).cycles := by
    rw [hCycles]
    exact List.mem_cons_self
  rcases (cycles_elementary ns).1 _ hMem with
    ⟨_, hNodup, _, _, hClosed⟩
  exact ⟨hCycles, hNodup, hClosed "B" "A" rfl rfl⟩

end ModuleGraph

end ModuleLint
