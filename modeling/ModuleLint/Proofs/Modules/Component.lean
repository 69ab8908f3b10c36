import ModuleLint.Proofs.Modules.Reach
import ModuleLint.Proofs.Modules.Wiring

/-
  Components of linked modules.

  Numbers that lead to each other through links make up a
  component.  A module lies on a cycle just if its component
  has more than one number, or if it is linked to itself.  So
  what is known from following imports by name is also known
  from the components of the links.

  Main declarations:
    * `Wiring.Together`, `Wiring.Components`
    * `Wiring.exists_components`
    * `Wiring.looping`, `Wiring.Components.mem_looping_iff`
    * `ModuleGraph.mem_cyclic_iff_looping`
-/

namespace ModuleLint

open Relation

namespace Wiring

variable {w : Wiring}

------------------------------------------------------------
-- Components
------------------------------------------------------------

/- There is a link from one number to another. -/
def Linked
    (w : Wiring)
    (i j : Nat) : Prop :=
  (i, j) ∈ w.links

/- The numbers lead to each other. -/
def Together
    (w : Wiring)
    (i j : Nat) : Prop :=
  ReflTransGen w.Linked i j ∧ ReflTransGen w.Linked j i

/-
  The numbers of all names divided into components.  With each
  of its numbers a component has just those that lead to it and
  back.
-/
structure Components
    (w : Wiring)
    (cs : List (List Nat)) : Prop where
  nodup : ∀ c ∈ cs, c.Nodup
  covers : ∀ i < w.names.length, ∃ c ∈ cs, i ∈ c
  together :
    ∀ c ∈ cs, ∀ i ∈ c,
      ∀ j, j ∈ c ↔ j < w.names.length ∧ w.Together i j

/- Numbers can always be divided like that. -/
theorem exists_components
    (w : Wiring) :
    ∃ cs, w.Components cs := by
  classical
  let numbers := List.range w.names.length
  let around (i : Nat) : List Nat :=
    numbers.filter (fun j => decide (w.Together i j))
  have hAround :
      ∀ i j,
        j ∈ around i ↔ j < w.names.length ∧ w.Together i j := by
    intro i j
    simp [around, numbers]
  refine ⟨numbers.map around, ?_, ?_, ?_⟩
  · intro c hMem
    rcases List.mem_map.mp hMem with ⟨i, _, rfl⟩
    exact List.nodup_range.filter _
  · intro i hLt
    exact ⟨around i,
      List.mem_map.mpr ⟨i, List.mem_range.mpr hLt, rfl⟩,
      (hAround i i).mpr ⟨hLt, .refl, .refl⟩⟩
  · intro c hMem i hI j
    rcases List.mem_map.mp hMem with ⟨k, _, rfl⟩
    rcases (hAround k i).mp hI with ⟨_, hThere, hBack⟩
    rw [hAround]
    apply and_congr_right
    intro _
    constructor
    · exact fun h => ⟨hBack.trans h.1, h.2.trans hThere⟩
    · exact fun h => ⟨hThere.trans h.1, h.2.trans hBack⟩

------------------------------------------------------------
-- Numbers on Loops
------------------------------------------------------------

/- The component has several numbers, or one linked to itself. -/
def isLoop
    (w : Wiring)
    (c : List Nat) : Bool :=
  1 < c.length || c.any (fun i => w.isLinked i i)

/- The numbers of the components that are loops. -/
def looping
    (w : Wiring)
    (cs : List (List Nat)) : List Nat :=
  (cs.filter w.isLoop).flatten

/- Several numbers are one and another one. -/
theorem one_lt_length_iff
    {c : List Nat}
    (hNodup : c.Nodup)
    {i : Nat}
    (hMem : i ∈ c) :
    1 < c.length ↔ ∃ j ∈ c, j ≠ i := by
  rcases c with _ | ⟨a, _ | ⟨b, rest⟩⟩
  · cases hMem
  · simpa using Eq.symm (List.mem_singleton.mp hMem)
  · have hApart : a ≠ b := by
      intro hSame
      exact (List.nodup_cons.mp hNodup).1 (hSame ▸ .head _)
    refine iff_of_true (by simp) ?_
    by_cases hFirst : a = i
    · exact ⟨b, by simp, fun hSecond =>
        hApart (hFirst.trans hSecond.symm)⟩
    · exact ⟨a, by simp, hFirst⟩

/- What lies on a loop is what leads back to itself. -/
theorem Components.mem_looping_iff
    {cs : List (List Nat)}
    (hComponents : w.Components cs)
    (hBound : ∀ i j, w.Linked i j → j < w.names.length)
    {i : Nat}
    (hLt : i < w.names.length) :
    i ∈ w.looping cs ↔ TransGen w.Linked i i := by
  constructor
  · intro hMem
    rcases List.mem_flatten.mp hMem with ⟨c, hLoop, hI⟩
    rcases List.mem_filter.mp hLoop with ⟨hC, hLoop⟩
    have hTogether := hComponents.together c hC i hI
    by_cases hSeveral : 1 < c.length
    · rcases (one_lt_length_iff (hComponents.nodup c hC) hI).mp
        hSeveral with ⟨j, hJ, hNe⟩
      rcases ((hTogether j).mp hJ).2 with ⟨hThere, hBack⟩
      rcases reflTransGen_iff_eq_or_transGen.mp hThere with
        hSame | hThere
      · exact absurd hSame hNe
      · exact hThere.trans_left hBack
    · -- The only number of the component is linked to itself.
      simp only [isLoop, hSeveral, decide_false, Bool.false_or,
        List.any_eq_true] at hLoop
      rcases hLoop with ⟨j, hJ, hLinked⟩
      have hSame : j = i := by
        by_contra hNe
        exact hSeveral
          ((one_lt_length_iff (hComponents.nodup c hC) hI).mpr
            ⟨j, hJ, hNe⟩)
      rw [hSame] at hLinked
      exact .single (List.contains_iff_mem.mp hLinked)
  · intro hReturns
    rcases hComponents.covers i hLt with ⟨c, hC, hI⟩
    refine List.mem_flatten.mpr
      ⟨c, List.mem_filter.mpr ⟨hC, ?_⟩, hI⟩
    rcases TransGen.head'_iff.mp hReturns with
      ⟨j, hLinked, hBack⟩
    have hJ : j ∈ c :=
      (hComponents.together c hC i hI j).mpr
        ⟨hBound i j hLinked, .single hLinked, hBack⟩
    by_cases hSame : j = i
    · rw [hSame] at hLinked
      have hSelf : w.isLinked i i = true :=
        List.contains_iff_mem.mpr hLinked
      simp only [isLoop, Bool.or_eq_true, List.any_eq_true]
      exact .inr ⟨i, hI, hSelf⟩
    · have hSeveral :=
        (one_lt_length_iff (hComponents.nodup c hC) hI).mpr
          ⟨j, hJ, hSame⟩
      simp [isLoop, hSeveral]

end Wiring

namespace ModuleGraph

------------------------------------------------------------
-- Modules on Cycles
------------------------------------------------------------

variable {ns : List ModuleNode}

theorem lt_of_number?
    {a : String}
    {i : Nat}
    (hNumber : (ofNodes ns).wiring.number? a = some i) :
    i < (ofNodes ns).wiring.names.length := by
  rw [numbered_wiring] at hNumber
  exact (List.getElem?_eq_some_iff.mp hNumber).1

/- Ways along imports are ways along links. -/
theorem transGen_linked_iff
    {a b : String}
    {i j : Nat}
    (hA : (ofNodes ns).wiring.number? a = some i)
    (hB : (ofNodes ns).wiring.number? b = some j) :
    TransGen (ofNodes ns).wiring.Linked i j ↔
      TransGen (ofNodes ns).Imports a b := by
  constructor
  · intro hWay
    induction hWay generalizing b with
    | single hLinked =>
        rcases mem_links_iff.mp hLinked with
          ⟨a', b', hImports, hA', hB'⟩
        rw [number?_inj hA hA', number?_inj hB hB']
        exact .single hImports
    | tail _ hLinked ih =>
        rcases mem_links_iff.mp hLinked with
          ⟨a', b', hImports, hA', hB'⟩
        rw [number?_inj hB hB']
        exact (ih hA').tail hImports
  · intro hWay
    induction hWay generalizing j with
    | single hImports =>
        exact .single (mem_links_iff.mpr
          ⟨a, _, hImports, hA, hB⟩)
    | tail _ hImports ih =>
        rcases exists_number?_iff.mpr hImports.contains.1 with
          ⟨k, hK⟩
        exact (ih hK).tail (mem_links_iff.mpr
          ⟨_, _, hImports, hK, hB⟩)

/-
  The modules on cycles are those whose numbers lie on loops,
  however the numbers are divided into components.
-/
theorem mem_cyclic_iff_looping
    {cs : List (List Nat)}
    (hComponents : (ofNodes ns).wiring.Components cs)
    {name : String} :
    name ∈ (ofNodes ns).cyclic ↔
      ∃ i ∈ (ofNodes ns).wiring.looping cs,
        (ofNodes ns).wiring.names[i]? = some name := by
  have hBound :
      ∀ i j, (ofNodes ns).wiring.Linked i j →
        j < (ofNodes ns).wiring.names.length := by
    intro i j hLinked
    rcases mem_links_iff.mp hLinked with ⟨_, _, _, _, hB⟩
    exact lt_of_number? hB
  have hOn :
      ∀ i, (ofNodes ns).wiring.number? name = some i →
        (i ∈ (ofNodes ns).wiring.looping cs ↔
          name ∈ (ofNodes ns).cyclic) := by
    intro i hI
    rw [hComponents.mem_looping_iff hBound (lt_of_number? hI),
      transGen_linked_iff hI hI, mem_cyclic_iff]
  constructor
  · intro hCyclic
    rcases TransGen.head'_iff.mp (mem_cyclic_iff.mp hCyclic) with
      ⟨_, hImports, _⟩
    rcases exists_number?_iff.mpr hImports.contains.1 with
      ⟨i, hI⟩
    exact ⟨i, (hOn i hI).mpr hCyclic,
      (numbered_wiring ns name i).mp hI⟩
  · rintro ⟨i, hLoop, hName⟩
    exact (hOn i ((numbered_wiring ns name i).mpr hName)).mp hLoop

end ModuleGraph

end ModuleLint
