import ModuleLint.Modules.Graph
import Mathlib.Logic.Relation

/-
  Graphs of modules as relations.

  Of several declarations with one name, the graph has the
  first one.  A module imports another one if that is among
  its successors.

  Main declarations:
    * `ModuleGraph.Imports`
    * `ModuleGraph.node?_ofNodes`
    * `ModuleGraph.pairwise_ofNodes`
    * `ModuleGraph.imports_iff`
-/

namespace ModuleLint

namespace ModuleGraph

------------------------------------------------------------
-- Modules
------------------------------------------------------------

theorem contains_iff
    {g : ModuleGraph}
    {name : String} :
    g.contains name = true ↔
      ∃ n, g.node? name = some n := by
  rw [← Option.isSome_iff_exists]
  simp [contains, node?]

theorem name_of_node?
    {g : ModuleGraph}
    {name : String}
    {n : ModuleNode}
    (hNode : g.node? name = some n) :
    n ∈ g.nodes ∧ n.name = name := by
  unfold node? at hNode
  have hName := List.find?_some hNode
  exact ⟨List.mem_of_find?_eq_some hNode, eq_of_beq hName⟩

theorem name_ne_of_node?
    {g : ModuleGraph}
    {name : String}
    (hNone : g.node? name = none) :
    ∀ m ∈ g.nodes, m.name ≠ name := by
  intro m hMem hSame
  rw [node?, List.find?_eq_none] at hNone
  exact hNone m hMem (beq_iff_eq.mpr hSame)

theorem mem_names_of_contains
    {g : ModuleGraph}
    {name : String}
    (hContains : g.contains name = true) :
    name ∈ g.nodes.map (·.name) := by
  rcases contains_iff.mp hContains with ⟨n, hNode⟩
  rcases name_of_node? hNode with ⟨hMem, hName⟩
  exact List.mem_map.mpr ⟨n, hMem, hName⟩

/- A module with a new name is found by it. -/
theorem find?_place
    {n : ModuleNode}
    {ms : List ModuleNode}
    (hNew : ∀ m ∈ ms, m.name ≠ n.name)
    (name : String) :
    (place n ms).find? (fun m => m.name == name) =
      if n.name = name then some n
      else ms.find? (fun m => m.name == name) := by
  induction ms with
  | nil => by_cases hName : n.name = name <;> simp [place, hName]
  | cons m ms ih =>
      rcases List.forall_mem_cons.mp hNew with
        ⟨hHead, hTail⟩
      rw [place]
      split
      · by_cases hName : n.name = name
        · simp [hName]
        · simp [hName]
      · rw [List.find?_cons, ih hTail, List.find?_cons]
        by_cases hName : n.name = name
        · have hNe : (m.name == name) = false := by
            rw [← hName]
            simpa using hHead
          simp [hName, hNe]
        · simp [hName]

theorem node?_declare
    (g : ModuleGraph)
    (n : ModuleNode)
    (name : String) :
    (g.declare n).node? name =
      (g.node? name).or
        (if n.name = name then some n else none) := by
  unfold declare
  cases hFirst : g.node? n.name with
  | some first =>
      by_cases hName : n.name = name
      · rw [← hName, hFirst]
        exact hFirst
      · simp [hName, node?]
  | none =>
      have hNew := name_ne_of_node? hFirst
      unfold node? at hFirst ⊢
      simp only [find?_place hNew]
      by_cases hName : n.name = name
      · rw [← hName, hFirst]
        simp
      · simp [hName]

/- The module of a name is its first declaration. -/
theorem node?_ofNodes
    (ns : List ModuleNode)
    (name : String) :
    (ofNodes ns).node? name =
      ns.find? (fun n => n.name == name) := by
  suffices hFold :
      ∀ g : ModuleGraph,
        (ns.foldl declare g).node? name =
          (g.node? name).or
            (ns.find? (fun n => n.name == name)) by
    exact hFold empty
  induction ns with
  | nil => simp
  | cons n ns ih =>
      intro g
      rw [List.foldl_cons, ih, node?_declare, Option.or_assoc]
      by_cases hName : n.name = name
      · simp [hName]
      · simp [hName, List.find?_cons_of_neg]

theorem mem_place_iff
    {m n : ModuleNode}
    {ms : List ModuleNode} :
    m ∈ place n ms ↔ m = n ∨ m ∈ ms := by
  induction ms with
  | nil => simp [place]
  | cons l ms ih =>
      rw [place]
      split
      · exact List.mem_cons
      · rw [List.mem_cons, ih, List.mem_cons, or_left_comm]

/- Modules stay in the order of their names. -/
theorem pairwise_place
    {n : ModuleNode}
    {ms : List ModuleNode}
    (hNew : ∀ m ∈ ms, m.name ≠ n.name)
    (hOrdered : ms.Pairwise (fun l m => l.name < m.name)) :
    (place n ms).Pairwise (fun l m => l.name < m.name) := by
  induction hOrdered with
  | nil => exact List.pairwise_singleton _ n
  | @cons l ms hAfter hOrdered ih =>
      rcases List.forall_mem_cons.mp hNew with
        ⟨hHead, hTail⟩
      rw [place]
      split
      · next hBefore =>
          refine List.pairwise_cons.mpr
            ⟨?_, List.pairwise_cons.mpr ⟨hAfter, hOrdered⟩⟩
          refine List.forall_mem_cons.mpr ⟨hBefore, ?_⟩
          intro m hMem
          exact String.lt_trans hBefore (hAfter m hMem)
      · next hBefore =>
          refine List.pairwise_cons.mpr ⟨?_, ih hTail⟩
          intro m hMem
          rcases mem_place_iff.mp hMem with rfl | hOld
          · exact Std.lt_of_le_of_ne
              (String.not_lt.mp hBefore) hHead
          · exact hAfter m hOld

theorem pairwise_declare
    {g : ModuleGraph}
    (hOrdered : g.nodes.Pairwise (fun m n => m.name < n.name))
    (n : ModuleNode) :
    (g.declare n).nodes.Pairwise
      (fun m n => m.name < n.name) := by
  unfold declare
  cases hFirst : g.node? n.name with
  | some first => exact hOrdered
  | none => exact pairwise_place (name_ne_of_node? hFirst) hOrdered

/- The modules of a graph are in the order of their names. -/
theorem pairwise_ofNodes
    (ns : List ModuleNode) :
    (ofNodes ns).nodes.Pairwise
      (fun m n => m.name < n.name) := by
  suffices hFold :
      ∀ g : ModuleGraph,
        g.nodes.Pairwise (fun m n => m.name < n.name) →
          (ns.foldl declare g).nodes.Pairwise
            (fun m n => m.name < n.name) by
    exact hFold empty .nil
  induction ns with
  | nil => exact fun _ hOrdered => hOrdered
  | cons n ns ih =>
      intro g hOrdered
      exact ih (g.declare n) (pairwise_declare hOrdered n)

------------------------------------------------------------
-- Imports
------------------------------------------------------------

/- A module imports another module. -/
def Imports
    (g : ModuleGraph)
    (a b : String) : Prop :=
  b ∈ g.successors a

instance
    (g : ModuleGraph)
    (a b : String) :
    Decidable (g.Imports a b) :=
  inferInstanceAs (Decidable (b ∈ g.successors a))

theorem imports_iff
    {g : ModuleGraph}
    {a b : String} :
    g.Imports a b ↔
      ∃ n,
        g.node? a = some n ∧ b ∈ n.imports ∧
          g.contains b = true := by
  unfold Imports successors
  cases g.node? a with
  | none => simp
  | some n => simp

theorem Imports.contains
    {g : ModuleGraph}
    {a b : String}
    (hImports : g.Imports a b) :
    g.contains a = true ∧ g.contains b = true := by
  rcases imports_iff.mp hImports with ⟨n, hNode, _, hB⟩
  exact ⟨contains_iff.mpr ⟨n, hNode⟩, hB⟩

end ModuleGraph

end ModuleLint
