import ModuleLint.Modules.Cycle
import ModuleLint.Proofs.Modules.Graph

/-
  Modules that are reached from others.

  Each step of the search for what is reached either has one
  name less to visit, or trades a module for its imports.  The
  bound on the steps is large enough, so everything is found.

  Main declarations:
    * `ModuleGraph.weight`, `ModuleGraph.reach_closed`
    * `ModuleGraph.mem_reachable_iff`
    * `ModuleGraph.mem_cyclic_iff`
-/

namespace ModuleLint

namespace ModuleGraph

open Relation

variable {g : ModuleGraph}

------------------------------------------------------------
-- Steps
------------------------------------------------------------

/- The number of imports of modules that are not seen yet. -/
def weight
    (seen : List String) : List ModuleNode → Nat
  | [] => 0
  | n :: ns =>
      (if n.name ∈ seen then 0 else n.imports.length) +
        weight seen ns

theorem weight_le
    (seen : List String)
    (ns : List ModuleNode) :
    weight seen ns ≤ (ns.flatMap (·.imports)).length := by
  induction ns with
  | nil => exact Nat.le_refl 0
  | cons n ns ih =>
      rw [weight, List.flatMap_cons, List.length_append]
      split <;> omega

theorem weight_cons_le
    (name : String)
    (seen : List String)
    (ns : List ModuleNode) :
    weight (name :: seen) ns ≤ weight seen ns := by
  induction ns with
  | nil => exact Nat.le_refl 0
  | cons n ns ih =>
      rw [weight, weight]
      by_cases hSeen : n.name ∈ seen
      · simpa [hSeen] using ih
      · rw [if_neg hSeen]
        split <;> omega

/- A module that is seen takes its imports with it. -/
theorem weight_cons_add_le
    {n : ModuleNode}
    {ns : List ModuleNode}
    (hMem : n ∈ ns)
    {seen : List String}
    (hNew : n.name ∉ seen) :
    weight (n.name :: seen) ns + n.imports.length ≤
      weight seen ns := by
  induction ns with
  | nil => cases hMem
  | cons m ns ih =>
      rw [weight, weight]
      rcases List.mem_cons.mp hMem with rfl | hLater
      · have hTail := weight_cons_le n.name seen ns
        rw [if_pos List.mem_cons_self, if_neg hNew]
        omega
      · have hTail := ih hLater
        by_cases hSeen : m.name ∈ seen
        · rw [if_pos hSeen,
            if_pos (List.mem_cons_of_mem _ hSeen)]
          omega
        · rw [if_neg hSeen]
          split <;> omega

/- Trading a name for its imports does not cost more steps. -/
theorem weight_cons_add_successors_le
    (g : ModuleGraph)
    {name : String}
    {seen : List String}
    (hNew : name ∉ seen) :
    weight (name :: seen) g.nodes +
        (g.successors name).length ≤
      weight seen g.nodes := by
  unfold successors
  cases hNode : g.node? name with
  | none => exact weight_cons_le name seen g.nodes
  | some n =>
      rcases name_of_node? hNode with ⟨hMem, rfl⟩
      have hImports := weight_cons_add_le hMem hNew
      have hFilter :=
        List.length_filter_le g.contains n.imports
      simp only
      omega

------------------------------------------------------------
-- Everything Is Found
------------------------------------------------------------

/-
  With enough steps, the names found hold all that was seen or
  was to be visited, and the imports of what was not seen.
-/
theorem reach_closed
    {fuel : Nat}
    {todo seen : List String}
    (hFuel : todo.length + weight seen g.nodes ≤ fuel) :
    (∀ x ∈ seen, x ∈ g.reach fuel todo seen) ∧
      (∀ x ∈ todo, x ∈ g.reach fuel todo seen) ∧
      ∀ x ∈ g.reach fuel todo seen,
        x ∉ seen →
          ∀ y ∈ g.successors x, y ∈ g.reach fuel todo seen := by
  fun_induction reach g fuel todo seen with
  | case1 todo seen =>
      have hTodo : todo = [] :=
        List.eq_nil_of_length_eq_zero (by omega)
      subst hTodo
      exact ⟨fun x hX => hX, by simp,
        fun x hX hNew => absurd hX hNew⟩
  | case2 fuel seen =>
      exact ⟨fun x hX => hX, by simp,
        fun x hX hNew => absurd hX hNew⟩
  | case3 fuel name rest seen hSeen ih =>
      rw [List.length_cons] at hFuel
      rcases ih (by omega) with ⟨hOld, hTodo, hClosed⟩
      have hName := hOld name (by simpa using hSeen)
      exact ⟨hOld, List.forall_mem_cons.mpr ⟨hName, hTodo⟩,
        hClosed⟩
  | case4 fuel name rest seen hSeen ih =>
      have hNew : name ∉ seen := by simpa using hSeen
      have hWeight := weight_cons_add_successors_le g hNew
      rw [List.length_cons] at hFuel
      rcases ih (by rw [List.length_append]; omega) with
        ⟨hOld, hTodo, hClosed⟩
      rcases List.forall_mem_cons.mp hOld with
        ⟨hName, hSeenKept⟩
      rcases List.forall_mem_append.mp hTodo with
        ⟨hImports, hRest⟩
      refine ⟨hSeenKept,
        List.forall_mem_cons.mpr ⟨hName, hRest⟩, ?_⟩
      intro x hX hNotSeen
      by_cases hSame : x = name
      · rw [hSame]
        exact hImports
      · exact hClosed x hX (by simp [hSame, hNotSeen])

/- What a module reaches through imports is found. -/
theorem mem_reachable_of_transGen
    {a b : String}
    (hReach : TransGen g.Imports a b) :
    b ∈ g.reachable a := by
  have hFuel :
      (g.successors a).length + weight [] g.nodes ≤
        (g.successors a).length + g.reachBound := by
    have hWeight := weight_le [] g.nodes
    unfold reachBound
    omega
  rcases reach_closed hFuel with ⟨_, hFirst, hClosed⟩
  induction hReach with
  | single hImports => exact hFirst _ hImports
  | tail _ hImports ih =>
      exact hClosed _ ih (by simp) _ hImports

/- What is found is reached from what was to be visited. -/
theorem reach_sound
    {fuel : Nat}
    {todo seen : List String}
    {x : String}
    (hMem : x ∈ g.reach fuel todo seen) :
    x ∈ seen ∨
      ∃ y ∈ todo, ReflTransGen g.Imports y x := by
  fun_induction reach g fuel todo seen with
  | case1 todo seen => exact Or.inl hMem
  | case2 fuel seen => exact Or.inl hMem
  | case3 fuel name rest seen _ ih =>
      rcases ih hMem with hSeen | ⟨y, hY, hReach⟩
      · exact Or.inl hSeen
      · exact Or.inr ⟨y, List.mem_cons_of_mem name hY, hReach⟩
  | case4 fuel name rest seen _ ih =>
      rcases ih hMem with hSeen | ⟨y, hY, hReach⟩
      · rcases List.mem_cons.mp hSeen with rfl | hOld
        · exact Or.inr ⟨x, List.mem_cons_self, .refl⟩
        · exact Or.inl hOld
      · rcases List.mem_append.mp hY with hImports | hRest
        · exact Or.inr
            ⟨name, List.mem_cons_self, .head hImports hReach⟩
        · exact Or.inr
            ⟨y, List.mem_cons_of_mem name hRest, hReach⟩

theorem mem_reachable_iff
    {a b : String} :
    b ∈ g.reachable a ↔ TransGen g.Imports a b := by
  constructor
  · intro hMem
    rcases reach_sound hMem with hNone | ⟨y, hY, hReach⟩
    · cases hNone
    · exact .head' hY hReach
  · exact mem_reachable_of_transGen

/- The modules that import themselves, maybe through others. -/
theorem mem_cyclic_iff
    {name : String} :
    name ∈ g.cyclic ↔ TransGen g.Imports name name := by
  have hCyclic :
      g.isCyclic name = true ↔
        TransGen g.Imports name name := by
    rw [isCyclic, List.contains_iff_mem, mem_reachable_iff]
  unfold cyclic
  rw [List.mem_filter, hCyclic]
  apply and_iff_right_of_imp
  intro hLoop
  rcases TransGen.head'_iff.mp hLoop with ⟨b, hImports, _⟩
  exact mem_names_of_contains hImports.contains.1

end ModuleGraph

end ModuleLint
