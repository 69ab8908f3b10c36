import ModuleLint.Proofs.Modules.Search
import ModuleLint.Proofs.Text.Keyed

/-
  Modules that are on no cycle.

  The search for cycles passes over them.  So two graphs have
  the same cycles, found in the same order and from the same
  first modules, if the same modules lie on cycles in both, and
  each lists the others among its imports in the same order.

  Main declarations:
    * `ModuleGraph.OnCycle`, `ModuleGraph.core`
    * `CycleSearch.visit_congr`
    * `ModuleGraph.SameCore`, `ModuleGraph.SameCore.cycles_eq`
    * `ModuleGraph.cycles_of_core`
-/

namespace ModuleLint

open Relation

------------------------------------------------------------
-- Modules on Cycles
------------------------------------------------------------

namespace ModuleGraph

variable {g h : ModuleGraph}

/- The module imports itself, maybe through others. -/
def OnCycle
    (g : ModuleGraph)
    (name : String) : Prop :=
  TransGen g.Imports name name

instance
    (g : ModuleGraph)
    (name : String) :
    Decidable (g.OnCycle name) :=
  decidable_of_iff (name ∈ g.cyclic) mem_cyclic_iff

theorem OnCycle.contains
    {name : String}
    (hOn : g.OnCycle name) :
    g.contains name = true := by
  rcases TransGen.head'_iff.mp hOn with ⟨b, hImports, _⟩
  exact hImports.contains.1

theorem contains_cyclic
    (g : ModuleGraph) :
    g.cyclic.contains = fun x => decide (g.OnCycle x) := by
  funext x
  rw [Bool.eq_iff_iff, List.contains_iff_mem,
    decide_eq_true_iff]
  exact mem_cyclic_iff

/- Imports of modules on cycles need no module to be there. -/
theorem filter_successors
    {name : String}
    {n : ModuleNode}
    (hNode : g.node? name = some n) :
    (g.successors name).filter (fun x => g.OnCycle x) =
      n.imports.filter (fun x => g.OnCycle x) := by
  unfold successors
  rw [hNode]
  simp only [List.filter_filter]
  apply List.filter_congr
  intro x _
  by_cases hOn : g.OnCycle x
  · rw [hOn.contains, Bool.and_true]
  · simp [hOn]

/- Modules on cycles are listed in the order of their names. -/
theorem pairwise_cyclic
    (hOrdered :
      g.nodes.Pairwise (fun m n => m.name < n.name)) :
    g.cyclic.Pairwise (· < ·) :=
  (List.pairwise_map.mpr hOrdered).filter _

theorem length_cyclic_le
    (g : ModuleGraph) :
    g.cyclic.length ≤ g.size := by
  have hFilter :=
    List.length_filter_le g.isCyclic (g.nodes.map (·.name))
  rwa [List.length_map] at hFilter

end ModuleGraph

------------------------------------------------------------
-- Two Searches
------------------------------------------------------------

namespace CycleSearch

section

variable {g h : ModuleGraph}
variable {cyclic : List String}

/- The search passes over modules that are on no cycle. -/
theorem foldl_look_filter
    (g : ModuleGraph)
    (depth : Nat)
    (way nexts : List String)
    (s : CycleSearch) :
    (nexts.filter cyclic.contains).foldl
        (look g cyclic depth way) s =
      nexts.foldl (look g cyclic depth way) s := by
  rw [List.foldl_filter]
  apply List.foldl_ext
  intro t next _
  unfold look
  cases cyclic.contains next with
  | true => rfl
  | false => rfl

/- Looks at an import differ only if they lead to visits. -/
theorem look_congr
    {depth depth' : Nat}
    {way : List String}
    {next : String}
    {s : CycleSearch}
    (hVisit :
      next ∈ cyclic →
        next ∉ way →
          visit g cyclic depth way next s =
            visit h cyclic depth' way next s) :
    look g cyclic depth way s next =
      look h cyclic depth' way s next := by
  unfold look
  by_cases hCyclic : next ∈ cyclic
  · by_cases hWay : next ∈ way
    · simp only [List.contains_iff_mem.mpr hWay, if_true]
    · rw [hVisit hCyclic hWay]
  · have hSkip : (!cyclic.contains next) = true := by
      simpa using hCyclic
    rw [if_pos hSkip, if_pos hSkip]

/-
  Two searches take the same steps, if imports among the
  modules on cycles are the same.  The depths may differ, as
  long as neither is less than the modules that are not on the
  way yet.
-/
theorem visit_congr
    (hImports :
      ∀ x ∈ cyclic,
        (g.successors x).filter cyclic.contains =
          (h.successors x).filter cyclic.contains)
    {depth : Nat} :
    ∀ {depth' : Nat} {way : List String} {name : String}
        (s : CycleSearch),
      (name :: way).Nodup →
        name :: way ⊆ cyclic →
          cyclic.length ≤ way.length + depth →
            cyclic.length ≤ way.length + depth' →
              visit g cyclic depth way name s =
                visit h cyclic depth' way name s := by
  induction depth with
  | zero =>
      intro depth' way name s hNodup hSubset hDepth _
      have hLength := hNodup.length_le_of_subset hSubset
      rw [List.length_cons] at hLength
      omega
  | succ depth ih =>
      intro depth' way name s hNodup hSubset hDepth hDepth'
      have hLength := hNodup.length_le_of_subset hSubset
      rw [List.length_cons] at hLength
      -- The module itself was not on the way, so neither search
      -- is at its end.
      obtain ⟨inner, rfl⟩ : ∃ inner, depth' = inner + 1 :=
        ⟨depth' - 1, by omega⟩
      have hName : name ∈ cyclic := hSubset List.mem_cons_self
      rw [visit_succ, visit_succ,
        ← foldl_look_filter g depth (name :: way)
          (g.successors name),
        ← foldl_look_filter h inner (name :: way)
          (h.successors name),
        hImports name hName]
      apply List.foldl_ext
      intro t next _
      apply look_congr
      intro hCyclic hWay
      apply ih
      · exact List.nodup_cons.mpr ⟨hWay, hNodup⟩
      · exact List.cons_subset.mpr ⟨hCyclic, hSubset⟩
      · rw [List.length_cons]
        omega
      · rw [List.length_cons]
        omega

theorem launch_congr
    (hImports :
      ∀ x ∈ cyclic,
        (g.successors x).filter cyclic.contains =
          (h.successors x).filter cyclic.contains)
    (hG : cyclic.length ≤ g.size)
    (hH : cyclic.length ≤ h.size)
    {name : String}
    (hMem : name ∈ cyclic)
    (s : CycleSearch) :
    launch g cyclic s name = launch h cyclic s name := by
  have hVisit :
      visit g cyclic g.size [] name s =
        visit h cyclic h.size [] name s := by
    apply visit_congr hImports
    · exact List.nodup_singleton name
    · simpa using hMem
    · simpa using hG
    · simpa using hH
  unfold launch
  rw [hVisit]

end

end CycleSearch

namespace ModuleGraph

variable {g h : ModuleGraph}

/-
  The same modules lie on cycles, and each of them imports the
  same ones of them in the same order.
-/
structure SameCore
    (g h : ModuleGraph) : Prop where
  onCycle : ∀ x, g.OnCycle x ↔ h.OnCycle x
  imports :
    ∀ x,
      g.OnCycle x →
        (g.successors x).filter (fun y => g.OnCycle y) =
          (h.successors x).filter (fun y => h.OnCycle y)

theorem SameCore.cyclic_eq
    (hSame : SameCore g h)
    (hG : g.nodes.Pairwise (fun m n => m.name < n.name))
    (hH : h.nodes.Pairwise (fun m n => m.name < n.name)) :
    g.cyclic = h.cyclic := by
  apply @Keyed.eq_of_mem_iff String id _ _
    (pairwise_cyclic hG) (pairwise_cyclic hH)
  intro x
  rw [mem_cyclic_iff, mem_cyclic_iff]
  exact hSame.onCycle x

/- Modules on no cycle have no say in the cycles. -/
theorem SameCore.cycles_eq
    (hSame : SameCore g h)
    (hG : g.nodes.Pairwise (fun m n => m.name < n.name))
    (hH : h.nodes.Pairwise (fun m n => m.name < n.name)) :
    g.cycles = h.cycles := by
  have hCyclic := hSame.cyclic_eq hG hH
  have hImports :
      ∀ x ∈ g.cyclic,
        (g.successors x).filter g.cyclic.contains =
          (h.successors x).filter g.cyclic.contains := by
    intro x hMem
    have hEq := hSame.imports x (mem_cyclic_iff.mp hMem)
    rw [← contains_cyclic, ← contains_cyclic, ← hCyclic] at hEq
    exact hEq
  have hDepth : g.cyclic.length ≤ h.size :=
    hCyclic ▸ length_cyclic_le h
  have hRun : CycleSearch.run g = CycleSearch.run h :=
    calc
      CycleSearch.run g
          = g.cyclic.foldl
              (CycleSearch.launch g g.cyclic) {} := rfl
      _ = g.cyclic.foldl
            (CycleSearch.launch h g.cyclic) {} := by
          apply List.foldl_ext
          intro s name hMem
          exact CycleSearch.launch_congr hImports
            (length_cyclic_le g) hDepth hMem s
      _ = CycleSearch.run h := by
          rw [hCyclic]
          rfl
  unfold cycles
  rw [hRun]

------------------------------------------------------------
-- Graphs With the Same Core
------------------------------------------------------------

/-
  Modules on cycles are declared in both graphs, with the same
  imports of modules on cycles.
-/
theorem SameCore.of_nodes
    (hOn : ∀ x, g.OnCycle x ↔ h.OnCycle x)
    (hNodes :
      ∀ x n,
        g.OnCycle x →
          g.node? x = some n →
            ∃ m,
              h.node? x = some m ∧
                m.imports.filter (fun y => g.OnCycle y) =
                  n.imports.filter (fun y => g.OnCycle y)) :
    SameCore g h where
  onCycle := hOn
  imports := by
    intro x hX
    rcases contains_iff.mp hX.contains with ⟨n, hNode⟩
    rcases hNodes x n hX hNode with ⟨m, hOther, hImports⟩
    rw [filter_successors hNode, filter_successors hOther,
      ← hImports]
    apply List.filter_congr
    intro y _
    rw [decide_eq_decide]
    exact hOn y

/- The graph of the modules on cycles alone. -/
def core
    (g : ModuleGraph) : ModuleGraph :=
  ofNodes (g.nodes.filter (fun n => g.OnCycle n.name))

theorem node?_core
    {x : String}
    (hX : g.OnCycle x) :
    g.core.node? x = g.node? x := by
  unfold core
  rw [node?_ofNodes, List.find?_filter, node?]
  congr 1
  funext n
  by_cases hName : n.name = x
  · simp [hName, hX]
  · simp [hName]

theorem contains_core_iff
    {x : String} :
    g.core.contains x = true ↔ g.OnCycle x := by
  constructor
  · intro hContains
    rcases contains_iff.mp hContains with ⟨n, hNode⟩
    unfold core at hNode
    rw [node?_ofNodes] at hNode
    have hMem := List.mem_of_find?_eq_some hNode
    have hName : n.name = x :=
      eq_of_beq (List.find?_some hNode :)
    rw [← hName]
    exact of_decide_eq_true (List.mem_filter.mp hMem).2
  · intro hX
    rw [contains_iff, node?_core hX]
    exact contains_iff.mp hX.contains

theorem imports_core_iff
    {x y : String} :
    g.core.Imports x y ↔
      g.Imports x y ∧ g.OnCycle x ∧ g.OnCycle y := by
  constructor
  · intro hImports
    have hX := contains_core_iff.mp hImports.contains.1
    have hY := contains_core_iff.mp hImports.contains.2
    rcases imports_iff.mp hImports with ⟨n, hNode, hIn, _⟩
    rw [node?_core hX] at hNode
    exact ⟨imports_iff.mpr ⟨n, hNode, hIn, hY.contains⟩, hX, hY⟩
  · rintro ⟨hImports, hX, hY⟩
    rcases imports_iff.mp hImports with ⟨n, hNode, hIn, _⟩
    rw [← node?_core hX] at hNode
    exact imports_iff.mpr
      ⟨n, hNode, hIn, contains_core_iff.mpr hY⟩

/- A way back to its start stays among modules on cycles. -/
theorem transGen_core
    {x y : String}
    (hReach : TransGen g.Imports x y)
    (hBack : ReflTransGen g.Imports y x) :
    TransGen g.core.Imports x y := by
  induction hReach with
  | single hStep =>
      exact .single (imports_core_iff.mpr
        ⟨hStep, .head' hStep hBack, .tail' hBack hStep⟩)
  | tail hFront hStep ih =>
      have hAround := TransGen.trans_right hBack hFront
      have hInner := ih (.head hStep hBack)
      exact hInner.tail (imports_core_iff.mpr
        ⟨hStep, .head hStep hAround, hAround.tail hStep⟩)

theorem onCycle_core_iff
    {x : String} :
    g.core.OnCycle x ↔ g.OnCycle x := by
  constructor
  · intro hX
    exact TransGen.mono
      (fun _ _ hStep => (imports_core_iff.mp hStep).1) x x hX
  · intro hX
    exact transGen_core hX .refl

theorem sameCore_core
    (g : ModuleGraph) :
    SameCore g g.core := by
  apply SameCore.of_nodes
  · intro x
    exact onCycle_core_iff.symm
  · intro x n hX hNode
    exact ⟨n, (node?_core hX).trans hNode, rfl⟩

end ModuleGraph

------------------------------------------------------------
-- Other Names
------------------------------------------------------------

/- A declaration with other names for modules. -/
def ModuleNode.rename
    (f : String → String)
    (n : ModuleNode) : ModuleNode :=
  { n with name := f n.name, imports := n.imports.map f }

namespace ModuleGraph

section

variable {ns : List ModuleNode}
variable {f : String → String}

/- Modules on cycles keep their names, and no other has them. -/
theorem node?_rename
    (hFixed : ∀ x, (ofNodes ns).OnCycle x → f x = x)
    (hApart :
      ∀ x,
        ¬ (ofNodes ns).OnCycle x →
          ¬ (ofNodes ns).OnCycle (f x))
    {x : String}
    (hX : (ofNodes ns).OnCycle x) :
    (ofNodes (ns.map (.rename f))).node? x =
      ((ofNodes ns).node? x).map (.rename f) := by
  rw [node?_ofNodes, node?_ofNodes, List.find?_map]
  congr 2
  funext n
  by_cases hOn : (ofNodes ns).OnCycle n.name
  · simp [ModuleNode.rename, hFixed _ hOn]
  · have hNe : n.name ≠ x := fun hName => hOn (hName ▸ hX)
    have hOther : f n.name ≠ x :=
      fun hName => hApart _ hOn (hName ▸ hX)
    simp [ModuleNode.rename, hNe, hOther]

theorem filter_map_rename
    (hFixed : ∀ x, (ofNodes ns).OnCycle x → f x = x)
    (hApart :
      ∀ x,
        ¬ (ofNodes ns).OnCycle x →
          ¬ (ofNodes ns).OnCycle (f x))
    (xs : List String) :
    (xs.map f).filter (fun x => (ofNodes ns).OnCycle x) =
      xs.filter (fun x => (ofNodes ns).OnCycle x) := by
  induction xs with
  | nil => rfl
  | cons x xs ih =>
      rw [List.map_cons]
      by_cases hX : (ofNodes ns).OnCycle x
      · rw [hFixed x hX, List.filter_cons_of_pos (by simpa),
          List.filter_cons_of_pos (by simpa), ih]
      · rw [List.filter_cons_of_neg (by simpa using hApart x hX),
          List.filter_cons_of_neg (by simpa using hX), ih]

theorem sameCore_rename
    (hFixed : ∀ x, (ofNodes ns).OnCycle x → f x = x)
    (hApart :
      ∀ x,
        ¬ (ofNodes ns).OnCycle x →
          ¬ (ofNodes ns).OnCycle (f x))
    (hOn :
      ∀ x,
        (ofNodes ns).OnCycle x ↔
          (ofNodes (ns.map (.rename f))).OnCycle x) :
    SameCore (ofNodes ns) (ofNodes (ns.map (.rename f))) := by
  apply SameCore.of_nodes hOn
  intro x n hX hNode
  refine ⟨n.rename f, ?_,
    filter_map_rename hFixed hApart n.imports⟩
  rw [node?_rename hFixed hApart hX, hNode]
  rfl

end

/-
  Cycles are those of the modules on cycles alone, in the same
  order and each from the same module on.  So they stay as they
  are when modules on no cycle are added or taken out, or get
  names that no module on a cycle has, as long as the same
  modules lie on cycles.
-/
theorem cycles_of_core
    (ns : List ModuleNode) :
    let g := ofNodes ns
    (ofNodes
        (g.nodes.filter (fun n => g.OnCycle n.name))).cycles =
        g.cycles ∧
      (∀ ms,
        (∀ x, g.OnCycle x ↔ (ofNodes ms).OnCycle x) →
          (∀ x,
            g.OnCycle x → (ofNodes ms).node? x = g.node? x) →
            (ofNodes ms).cycles = g.cycles) ∧
      ∀ f : String → String,
        (∀ x, g.OnCycle x → f x = x) →
          (∀ x, ¬ g.OnCycle x → ¬ g.OnCycle (f x)) →
            (∀ x,
              g.OnCycle x ↔
                (ofNodes (ns.map (.rename f))).OnCycle x) →
              (ofNodes (ns.map (.rename f))).cycles =
                g.cycles := by
  intro g
  have hOrdered := pairwise_ofNodes ns
  refine ⟨?_, ?_, ?_⟩
  · exact
      ((sameCore_core g).cycles_eq hOrdered
        (pairwise_ofNodes _)).symm
  · intro ms hOn hNodes
    have hSame : SameCore g (ofNodes ms) := by
      apply SameCore.of_nodes hOn
      intro x n hX hNode
      exact ⟨n, (hNodes x hX).trans hNode, rfl⟩
    exact (hSame.cycles_eq hOrdered (pairwise_ofNodes ms)).symm
  · intro f hFixed hApart hOn
    exact
      ((sameCore_rename hFixed hApart hOn).cycles_eq hOrdered
        (pairwise_ofNodes _)).symm

/-
  Users and orders import each other, and the first module by
  name imports both, users first.  The cycle starts at orders
  with it, without it, and after it got another name.
-/
theorem cycles_of_core_app :
    let users : ModuleNode :=
      ⟨"Users", "u.ts", 1, 1, [], ["Orders", "Mail"], [], []⟩
    let orders : ModuleNode :=
      ⟨"Orders", "o.ts", 1, 1, [], ["Users"], [], []⟩
    let app : ModuleNode :=
      ⟨"App", "a.ts", 1, 1, [], ["Users", "Orders"], [], []⟩
    let ns := [users, app, orders]
    let f := fun x => if x = "App" then "Zoo" else x
    let cs : List Cycle := [⟨["Orders", "Users"]⟩]
    (ofNodes ns).cycles = cs ∧
      (ofNodes
        ((ofNodes ns).nodes.filter
          (fun n => (ofNodes ns).OnCycle n.name))).cycles =
        cs ∧
      (ofNodes [users, orders]).cycles = cs ∧
      (ofNodes (ns.map (.rename f))).cycles = cs := by
  intro users orders app ns f cs
  have hCycles : (ofNodes ns).cycles = cs := by
    decide +kernel
  have hCyclic : (ofNodes ns).cyclic = ["Orders", "Users"] := by
    decide +kernel
  have hOn :
      ∀ {x}, (ofNodes ns).OnCycle x ↔
        x = "Orders" ∨ x = "Users" := by
    intro x
    rw [OnCycle, ← mem_cyclic_iff, hCyclic]
    simp
  have hSame :
      ∀ ms, (ofNodes ms).cyclic = ["Orders", "Users"] →
        ∀ x, (ofNodes ns).OnCycle x ↔
          (ofNodes ms).OnCycle x := by
    intro ms hMs x
    rw [OnCycle, OnCycle, ← mem_cyclic_iff, ← mem_cyclic_iff,
      hMs, hCyclic]
  have hNodes :
      ∀ x, (ofNodes ns).OnCycle x →
        (ofNodes [users, orders]).node? x =
          (ofNodes ns).node? x := by
    intro x hX
    rcases hOn.mp hX with rfl | rfl
    · decide +kernel
    · decide +kernel
  have hFixed : ∀ x, (ofNodes ns).OnCycle x → f x = x := by
    intro x hX
    rcases hOn.mp hX with rfl | rfl
    · rfl
    · rfl
  have hApart :
      ∀ x,
        ¬ (ofNodes ns).OnCycle x →
          ¬ (ofNodes ns).OnCycle (f x) := by
    intro x hX
    by_cases hApp : x = "App"
    · rw [hOn, hApp]
      decide
    · rwa [show f x = x from if_neg hApp]
  rcases cycles_of_core ns with ⟨hCore, hOthers, hRenamed⟩
  refine ⟨hCycles, hCore.trans hCycles, ?_, ?_⟩
  · exact (hOthers _ (hSame _ (by decide +kernel)) hNodes).trans
      hCycles
  · exact (hRenamed f hFixed hApart
      (hSame _ (by decide +kernel))).trans hCycles

end ModuleGraph

end ModuleLint
