import Mathlib.Data.Set.Card
import ModuleLint.Proofs.Modules.Graph
import ModuleLint.Proofs.Text.Keyed
import ModuleLint.Proofs.Text.Listed

/-
  Imports by name and links by number.

  A module is linked to another one if and only if it imports
  it, and there is one link for each pair of such modules.
  Each import of a module either leads to a module or is on
  record as leading to none.

  Main declarations:
    * `Wiring.Numbered`, `Wiring.Gains`
    * `ModuleGraph.dangling_ofNodes`
    * `ModuleGraph.hasEdge_iff`, `ModuleGraph.mem_edges_iff`
    * `ModuleGraph.imports_linked_or_dangling`
-/

namespace ModuleLint

namespace Wiring

------------------------------------------------------------
-- Numbers
------------------------------------------------------------

/- A name has the number of its place among the names. -/
def Numbered
    (w : Wiring) : Prop :=
  ∀ name i, w.number? name = some i ↔ w.names[i]? = some name

theorem number?_enter
    (w : Wiring)
    (name other : String) :
    (w.enter name).number? other =
      if other = name then some w.names.length
      else w.number? other := by
  unfold enter number?
  rw [List.lookup_cons]
  split <;> simp_all

/- A new name gets a number of its own. -/
theorem Numbered.enter
    {w : Wiring}
    (hNumbered : w.Numbered)
    {name : String}
    (hNew : name ∉ w.names) :
    (w.enter name).Numbered := by
  intro other i
  have hNames : (w.enter name).names = w.names ++ [name] := rfl
  rw [number?_enter, hNames, getElem?_concat_eq_some_iff,
    ← hNumbered]
  by_cases hSame : other = name
  · have hNone : w.number? other ≠ some i := by
      intro hNumber
      rw [hNumbered, hSame] at hNumber
      exact hNew (List.mem_of_getElem? hNumber)
    simp [hSame, hSame ▸ hNone, eq_comm]
  · simp [hSame, Ne.symm hSame]

/- Names that differ are numbered one after the other. -/
theorem numbered_foldl_enter
    {names : List String}
    {w : Wiring}
    (hNumbered : w.Numbered)
    (hNodup : (w.names ++ names).Nodup) :
    (names.foldl enter w).Numbered ∧
      (names.foldl enter w).names = w.names ++ names ∧
      (names.foldl enter w).links = w.links ∧
      (names.foldl enter w).loose = w.loose := by
  induction names generalizing w with
  | nil => exact ⟨hNumbered, (List.append_nil _).symm, rfl, rfl⟩
  | cons name names ih =>
      have hSplit :
          (w.enter name).names ++ names =
            w.names ++ name :: names :=
        List.append_assoc w.names [name] names
      have hNew : name ∉ w.names := by
        intro hMem
        exact (List.nodup_append.mp hNodup).2.2
          name hMem name List.mem_cons_self rfl
      rw [← hSplit] at hNodup ⊢
      exact ih (hNumbered.enter hNew) hNodup

------------------------------------------------------------
-- Links
------------------------------------------------------------

/-
  What a wiring has gained: numbers stay, the given links are
  there, each once, and the given imports are loose.
-/
structure Gains
    (w : Wiring)
    (links : List (Nat × Nat))
    (loose : List DanglingImport)
    (w' : Wiring) : Prop where
  names : w'.names = w.names
  numbers : w'.numbers = w.numbers
  loose : w'.loose = w.loose ++ loose
  links : ∀ p, p ∈ w'.links ↔ p ∈ w.links ∨ p ∈ links
  nodup : w.links.Nodup → w'.links.Nodup

namespace Gains

variable {w w' w'' : Wiring}
variable {links links' : List (Nat × Nat)}
variable {loose loose' : List DanglingImport}

theorem refl
    (w : Wiring) :
    Gains w [] [] w :=
  ⟨rfl, rfl, (List.append_nil _).symm, by simp, id⟩

theorem trans
    (hFirst : Gains w links loose w')
    (hThen : Gains w' links' loose' w'') :
    Gains w (links ++ links') (loose ++ loose') w'' where
  names := hThen.names.trans hFirst.names
  numbers := hThen.numbers.trans hFirst.numbers
  loose := by
    rw [hThen.loose, hFirst.loose, List.append_assoc]
  links p := by
    rw [hThen.links, hFirst.links, List.mem_append, or_assoc]
  nodup hNodup := hThen.nodup (hFirst.nodup hNodup)

theorem number?
    (hGains : Gains w links loose w') :
    w'.number? = w.number? := by
  funext name
  rw [Wiring.number?, Wiring.number?, hGains.numbers]

/- Step after step, as numbers do not change on the way. -/
theorem foldl
    {α : Type}
    {step : Wiring → α → Wiring}
    {linksOf : (String → Option Nat) → α → List (Nat × Nat)}
    {looseOf :
      (String → Option Nat) → α → List DanglingImport}
    (hStep : ∀ w a,
      Gains w (linksOf w.number? a) (looseOf w.number? a)
        (step w a))
    (as : List α)
    (w : Wiring) :
    Gains w (as.flatMap (linksOf w.number?))
      (as.flatMap (looseOf w.number?)) (as.foldl step w) := by
  induction as generalizing w with
  | nil => exact refl w
  | cons a as ih =>
      have hRest := ih (step w a)
      rw [(hStep w a).number?] at hRest
      exact (hStep w a).trans hRest

end Gains

/- The link of an import, if it leads to a number. -/
def importLinks
    (i : Nat)
    (number? : String → Option Nat)
    (target : String) : List (Nat × Nat) :=
  (number? target).toList.map (fun j => (i, j))

/- The record of an import that leads to no number. -/
def importLoose
    (source : String)
    (number? : String → Option Nat)
    (target : String) : List DanglingImport :=
  match number? target with
  | some _ => []
  | none => [⟨source, target⟩]

theorem gains_link
    (w : Wiring)
    (i j : Nat) :
    Gains w [(i, j)] [] (w.link i j) := by
  unfold link isLinked
  split
  · next hLinked =>
      refine ⟨rfl, rfl, (List.append_nil _).symm, ?_, id⟩
      intro p
      refine ⟨.inl, ?_⟩
      rintro (hOld | hNew)
      · exact hOld
      · rw [List.mem_singleton.mp hNew]
        exact List.contains_iff_mem.mp hLinked
  · next hFree =>
      refine ⟨rfl, rfl, (List.append_nil _).symm,
        fun p => List.mem_append, ?_⟩
      intro hNodup
      have hNew : (i, j) ∉ w.links := by
        intro hMem
        exact hFree (List.contains_iff_mem.mpr hMem)
      rw [← List.concat_eq_append]
      exact hNodup.concat hNew

theorem gains_addImport
    (source : String)
    (i : Nat)
    (w : Wiring)
    (target : String) :
    Gains w (importLinks i w.number? target)
      (importLoose source w.number? target)
      (addImport source i w target) := by
  unfold addImport importLinks importLoose
  cases w.number? target with
  | some j => exact gains_link w i j
  | none => exact ⟨rfl, rfl, rfl, by simp, id⟩

/- The links of a module that has a number. -/
def moduleLinks
    (number? : String → Option Nat)
    (n : ModuleNode) : List (Nat × Nat) :=
  match number? n.name with
  | some i => n.imports.flatMap (importLinks i number?)
  | none => []

/- The loose imports of a module that has a number. -/
def moduleLoose
    (number? : String → Option Nat)
    (n : ModuleNode) : List DanglingImport :=
  match number? n.name with
  | some _ => n.imports.flatMap (importLoose n.name number?)
  | none => []

theorem gains_addModule
    (w : Wiring)
    (n : ModuleNode) :
    Gains w (moduleLinks w.number? n)
      (moduleLoose w.number? n) (w.addModule n) := by
  unfold addModule moduleLinks moduleLoose
  cases w.number? n.name with
  | some i => exact .foldl (gains_addImport n.name i) _ w
  | none => exact .refl w

end Wiring

namespace ModuleGraph

------------------------------------------------------------
-- Numbered Modules
------------------------------------------------------------

/- Each name is the name of one module. -/
theorem nodup_names
    (ns : List ModuleNode) :
    ((ofNodes ns).nodes.map (·.name)).Nodup := by
  refine List.pairwise_map.mpr ?_
  exact (pairwise_ofNodes ns).imp (fun hLt => String.ne_of_lt hLt)

theorem node?_eq_some_iff
    {ns : List ModuleNode}
    {name : String}
    {n : ModuleNode} :
    (ofNodes ns).node? name = some n ↔
      n ∈ (ofNodes ns).nodes ∧ n.name = name :=
  Keyed.find?_eq_some_iff (pairwise_ofNodes ns)

/-
  Modules are numbered in their order.  The rest of the wiring
  is what their imports add.
-/
theorem exists_numbered
    (ns : List ModuleNode) :
    ∃ w : Wiring,
      w.Numbered ∧
        w.names = (ofNodes ns).nodes.map (·.name) ∧
        w.links = [] ∧
        w.loose = [] ∧
        w.Gains
          ((ofNodes ns).nodes.flatMap
            (Wiring.moduleLinks w.number?))
          ((ofNodes ns).nodes.flatMap
            (Wiring.moduleLoose w.number?))
          (ofNodes ns).wiring := by
  have hEmpty : ({} : Wiring).Numbered := by
    intro name i
    simp [Wiring.number?]
  rcases Wiring.numbered_foldl_enter hEmpty (nodup_names ns) with
    ⟨hNumbered, hNames, hLinks, hLoose⟩
  exact ⟨_, hNumbered, hNames, hLinks, hLoose,
    .foldl Wiring.gains_addModule _ _⟩

theorem numbered_wiring
    (ns : List ModuleNode) :
    (ofNodes ns).wiring.Numbered := by
  rcases exists_numbered ns with ⟨w, hNumbered, _, _, _, hGains⟩
  intro name i
  rw [hGains.number?, hGains.names]
  exact hNumbered name i

theorem names_wiring
    (ns : List ModuleNode) :
    (ofNodes ns).wiring.names =
      (ofNodes ns).nodes.map (·.name) := by
  rcases exists_numbered ns with ⟨w, _, hNames, _, _, hGains⟩
  rw [hGains.names, hNames]

theorem nodup_links
    (ns : List ModuleNode) :
    (ofNodes ns).wiring.links.Nodup := by
  rcases exists_numbered ns with ⟨w, _, _, hLinks, _, hGains⟩
  exact hGains.nodup (hLinks ▸ .nil)

/- The names with a number are those of modules. -/
theorem exists_number?_iff
    {ns : List ModuleNode}
    {name : String} :
    (∃ i, (ofNodes ns).wiring.number? name = some i) ↔
      (ofNodes ns).contains name = true := by
  simp only [numbered_wiring ns name, names_wiring,
    ← List.mem_iff_getElem?]
  simp [contains]

/- Two names with the same number are the same. -/
theorem number?_inj
    {ns : List ModuleNode}
    {a b : String}
    {i : Nat}
    (hA : (ofNodes ns).wiring.number? a = some i)
    (hB : (ofNodes ns).wiring.number? b = some i) :
    a = b := by
  rw [numbered_wiring] at hA hB
  exact Option.some.inj (hA.symm.trans hB)

------------------------------------------------------------
-- Linked Modules
------------------------------------------------------------

/- Links are those of imports. -/
theorem mem_links_iff
    {ns : List ModuleNode}
    {i j : Nat} :
    (i, j) ∈ (ofNodes ns).wiring.links ↔
      ∃ a b,
        (ofNodes ns).Imports a b ∧
          (ofNodes ns).wiring.number? a = some i ∧
          (ofNodes ns).wiring.number? b = some j := by
  rcases exists_numbered ns with ⟨w, _, _, hLinks, _, hGains⟩
  rw [hGains.links, hLinks, hGains.number?]
  -- From here on everything is said by numbers.
  simp only [imports_iff, node?_eq_some_iff,
    ← exists_number?_iff, hGains.number?]
  constructor
  · rintro (hNone | hLink)
    · cases hNone
    · rcases List.mem_flatMap.mp hLink with ⟨n, hMem, hOf⟩
      unfold Wiring.moduleLinks at hOf
      split at hOf
      · next i' hI =>
          rcases List.mem_flatMap.mp hOf with ⟨b, hB, hLink⟩
          simp only [Wiring.importLinks, List.mem_map,
            Option.mem_toList, Prod.mk.injEq] at hLink
          rcases hLink with ⟨j', hJ, rfl, rfl⟩
          exact ⟨n.name, b, ⟨n, ⟨hMem, rfl⟩, hB, j', hJ⟩,
            hI, hJ⟩
      · cases hOf
  · rintro ⟨a, b, ⟨n, ⟨hMem, rfl⟩, hB, _⟩, hI, hJ⟩
    refine .inr (List.mem_flatMap.mpr ⟨n, hMem, ?_⟩)
    simp only [Wiring.moduleLinks, hI]
    refine List.mem_flatMap.mpr ⟨b, hB, ?_⟩
    simp [Wiring.importLinks, hJ]

/- Modules are linked just if one imports the other. -/
theorem hasEdge_iff
    {ns : List ModuleNode}
    {a b : String} :
    (ofNodes ns).hasEdge a b = true ↔
      (ofNodes ns).Imports a b := by
  have hHas :
      (ofNodes ns).hasEdge a b = true ↔
        ∃ i j,
          (ofNodes ns).wiring.number? a = some i ∧
            (ofNodes ns).wiring.number? b = some j ∧
            (i, j) ∈ (ofNodes ns).wiring.links := by
    simp only [hasEdge, Wiring.isLinked]
    cases (ofNodes ns).wiring.number? a <;>
      cases (ofNodes ns).wiring.number? b <;> simp
  rw [hHas]
  constructor
  · rintro ⟨i, j, hA, hB, hLink⟩
    rcases mem_links_iff.mp hLink with
      ⟨a', b', hImports, hA', hB'⟩
    rw [number?_inj hA hA', number?_inj hB hB']
    exact hImports
  · intro hImports
    rcases exists_number?_iff.mpr hImports.contains.1 with
      ⟨i, hA⟩
    rcases exists_number?_iff.mpr hImports.contains.2 with
      ⟨j, hB⟩
    exact ⟨i, j, hA, hB,
      mem_links_iff.mpr ⟨a, b, hImports, hA, hB⟩⟩

/- A number stands for the name that has it. -/
theorem getD_names_wiring
    {ns : List ModuleNode}
    {a : String}
    {i : Nat}
    (hNumber : (ofNodes ns).wiring.number? a = some i) :
    (ofNodes ns).wiring.names.getD i "" = a := by
  rw [numbered_wiring] at hNumber
  rw [List.getD_eq_getElem?_getD, hNumber]
  rfl

/- The pairs of linked modules. -/
theorem mem_edges_iff
    {ns : List ModuleNode}
    {a b : String} :
    (a, b) ∈ (ofNodes ns).edges ↔
      (ofNodes ns).hasEdge a b = true := by
  rw [hasEdge_iff, edges, List.mem_map]
  constructor
  · rintro ⟨⟨i, j⟩, hLink, hNames⟩
    rcases mem_links_iff.mp hLink with
      ⟨a', b', hImports, hA, hB⟩
    simp only [getD_names_wiring hA, getD_names_wiring hB,
      Prod.mk.injEq] at hNames
    rw [← hNames.1, ← hNames.2]
    exact hImports
  · intro hImports
    rcases exists_number?_iff.mpr hImports.contains.1 with
      ⟨i, hA⟩
    rcases exists_number?_iff.mpr hImports.contains.2 with
      ⟨j, hB⟩
    refine ⟨(i, j), mem_links_iff.mpr
      ⟨a, b, hImports, hA, hB⟩, ?_⟩
    simp only [getD_names_wiring hA, getD_names_wiring hB]

/- No pair of modules is linked twice. -/
theorem nodup_edges
    (ns : List ModuleNode) :
    (ofNodes ns).edges.Nodup := by
  -- Links are distinct as pairs of numbers, so it remains to
  -- tell the numbers from the names.
  refine List.Nodup.map_on ?_ (nodup_links ns)
  rintro ⟨i, j⟩ hLink ⟨i', j'⟩ hLink' hNames
  rcases mem_links_iff.mp hLink with ⟨a, b, _, hA, hB⟩
  rcases mem_links_iff.mp hLink' with ⟨a', b', _, hA', hB'⟩
  simp only [getD_names_wiring hA, getD_names_wiring hB,
    getD_names_wiring hA', getD_names_wiring hB',
    Prod.mk.injEq] at hNames
  rcases hNames with ⟨rfl, rfl⟩
  rw [hA] at hA'
  rw [hB] at hB'
  rw [Option.some.inj hA', Option.some.inj hB']

/- There are as many links as pairs of linked modules. -/
theorem length_links
    (ns : List ModuleNode) :
    ((ofNodes ns).wiring.links.length : ℕ∞) =
      {p : String × String |
        (ofNodes ns).hasEdge p.1 p.2 = true}.encard := by
  have hSet :
      {p : String × String |
          (ofNodes ns).hasEdge p.1 p.2 = true} =
        ((ofNodes ns).edges.toFinset : Set _) := by
    ext ⟨a, b⟩
    simpa using mem_edges_iff.symm
  have hLength :
      (ofNodes ns).edges.length =
        (ofNodes ns).wiring.links.length :=
    List.length_map _
  rw [hSet, Set.encard_coe_eq_coe_finsetCard,
    List.toFinset_card_of_nodup (nodup_edges ns), hLength]

------------------------------------------------------------
-- Dangling Imports
------------------------------------------------------------

/- The imports of a module that lead to no module. -/
def danglingOf
    (g : ModuleGraph)
    (n : ModuleNode) : List DanglingImport :=
  (n.imports.filter (fun t => !g.contains t)).map
    (fun t => ⟨n.name, t⟩)

theorem moduleLoose_eq_danglingOf
    {ns : List ModuleNode}
    {n : ModuleNode}
    (hMem : n ∈ (ofNodes ns).nodes) :
    Wiring.moduleLoose (ofNodes ns).wiring.number? n =
      (ofNodes ns).danglingOf n := by
  have hNumber :
      ∀ t,
        ((ofNodes ns).wiring.number? t).isSome =
          (ofNodes ns).contains t := by
    intro t
    rw [Bool.eq_iff_iff, Option.isSome_iff_exists]
    exact exists_number?_iff
  have hContains : (ofNodes ns).contains n.name = true :=
    contains_iff.mpr ⟨n, node?_eq_some_iff.mpr ⟨hMem, rfl⟩⟩
  rcases exists_number?_iff.mpr hContains with ⟨i, hI⟩
  simp only [Wiring.moduleLoose, hI, danglingOf, ← hNumber]
  induction n.imports with
  | nil => rfl
  | cons t ts ih =>
      rw [List.flatMap_cons, ih, Wiring.importLoose]
      cases hT : (ofNodes ns).wiring.number? t <;> simp [hT]

/- Dangling imports are recorded module by module. -/
theorem dangling_ofNodes
    (ns : List ModuleNode) :
    (ofNodes ns).dangling =
      (ofNodes ns).nodes.flatMap (ofNodes ns).danglingOf := by
  rcases exists_numbered ns with ⟨w, _, _, _, hLoose, hGains⟩
  rw [dangling, hGains.loose, hLoose, List.nil_append,
    ← hGains.number?]
  apply List.flatMap_congr
  intro n hMem
  exact moduleLoose_eq_danglingOf hMem

/- The dangling imports of one module. -/
theorem filter_dangling
    {ns : List ModuleNode}
    {n : ModuleNode}
    (hMem : n ∈ (ofNodes ns).nodes) :
    (ofNodes ns).dangling.filter (fun d => d.source == n.name) =
      (ofNodes ns).danglingOf n := by
  have hNames :
      (ofNodes ns).nodes.Pairwise
        (fun m n => m.name ≠ n.name) :=
    (pairwise_ofNodes ns).imp (fun hLt => String.ne_of_lt hLt)
  have hAgree :
      ∀ m ∈ (ofNodes ns).nodes,
        ∀ d ∈ (ofNodes ns).danglingOf m,
          (d.source == n.name) = (m.name == n.name) := by
    intro m _ d hD
    rcases List.mem_map.mp hD with ⟨t, _, rfl⟩
    rfl
  rw [dangling_ofNodes, filter_flatMap_of_agree hAgree,
    Keyed.filter_eq_singleton hNames hMem,
    List.flatMap_singleton]

/-
  A dangling import, at the place of a module's name and a
  place among the module's imports.
-/
def DanglesAt
    (g : ModuleGraph)
    (place : String × Nat)
    (d : DanglingImport) : Prop :=
  ∃ n,
    g.node? place.1 = some n ∧
      n.imports[place.2]? = some d.target ∧
      g.node? d.target = none ∧
      d.source = place.1

/- Dangling imports are in the order of their places. -/
theorem listed_dangling
    (ns : List ModuleNode) :
    Listed (Prod.Lex (· < ·) (· < ·))
      (DanglesAt (ofNodes ns)) (ofNodes ns).dangling := by
  rw [dangling_ofNodes]
  have hListed := Listed.flatMap (pairwise_ofNodes ns)
    (fun n => listed_map_filter
      (fun t => !(ofNodes ns).contains t)
      (fun t => (⟨n.name, t⟩ : DanglingImport)) n.imports)
  refine hListed.congr ?_
  rintro ⟨name, i⟩ ⟨source, target⟩
  have hNone :
      ∀ t,
        (!(ofNodes ns).contains t) = true ↔
          (ofNodes ns).node? t = none := by
    intro t
    rw [Bool.not_eq_true', ← Bool.not_eq_true, contains_iff,
      ← Option.isSome_iff_exists, Option.not_isSome_iff_eq_none]
  simp only [DanglesAt, node?_eq_some_iff, hNone,
    DanglingImport.mk.injEq]
  constructor
  · rintro ⟨n, hMem, hName, t, hAt, hLost, hSource, rfl⟩
    exact ⟨n, ⟨hMem, hName⟩, hAt, hLost,
      hSource.symm.trans hName⟩
  · rintro ⟨n, ⟨hMem, hName⟩, hAt, hLost, hSource⟩
    exact ⟨n, hMem, hName, target, hAt, hLost,
      hName.trans hSource.symm, rfl⟩

------------------------------------------------------------
-- Imports
------------------------------------------------------------

/- Imports are those of modules and those that dangle. -/
theorem interleaves_imports
    {ns : List ModuleNode}
    {a : String}
    {n : ModuleNode}
    (hNode : (ofNodes ns).node? a = some n) :
    Interleaves ((ofNodes ns).successors a)
      (((ofNodes ns).dangling.filter
        (fun d => d.source == a)).map (·.target))
      n.imports := by
  rcases node?_eq_some_iff.mp hNode with ⟨hMem, rfl⟩
  have hTargets :
      ((ofNodes ns).danglingOf n).map (·.target) =
        n.imports.filter (fun t => !(ofNodes ns).contains t) := by
    simp [danglingOf, Function.comp_def]
  rw [filter_dangling hMem, hTargets, successors, hNode]
  exact interleaves_filter _ n.imports

/-
  A module is linked to another one just if that is among its
  successors, which is so just if both are modules and the one
  imports the other.  The imports of a module are, in order,
  its successors and its dangling imports.  Dangling imports
  are recorded by module and by place among its imports, and
  there is one link for each pair of linked modules.
-/
theorem imports_linked_or_dangling
    (ns : List ModuleNode) :
    (∀ a b,
        ((ofNodes ns).hasEdge a b = true ↔
            b ∈ (ofNodes ns).successors a) ∧
          (b ∈ (ofNodes ns).successors a ↔
            ∃ m n,
              (ofNodes ns).node? a = some m ∧
                (ofNodes ns).node? b = some n ∧
                b ∈ m.imports)) ∧
      (∀ a n,
        (ofNodes ns).node? a = some n →
          Interleaves ((ofNodes ns).successors a)
            (((ofNodes ns).dangling.filter
              (fun d => d.source == a)).map (·.target))
            n.imports) ∧
      Listed (Prod.Lex (· < ·) (· < ·))
        (DanglesAt (ofNodes ns)) (ofNodes ns).dangling ∧
      ((ofNodes ns).wiring.links.length : ℕ∞) =
        {p : String × String |
          (ofNodes ns).hasEdge p.1 p.2 = true}.encard := by
  refine ⟨?_, ?_, listed_dangling ns, length_links ns⟩
  · intro a b
    refine ⟨hasEdge_iff, imports_iff.trans ?_⟩
    simp only [contains_iff]
    constructor
    · rintro ⟨m, hA, hB, n, hNode⟩
      exact ⟨m, n, hA, hNode, hB⟩
    · rintro ⟨m, n, hA, hNode, hB⟩
      exact ⟨m, hA, hB, n, hNode⟩
  · intro a n hNode
    exact interleaves_imports hNode

/- Imports twice, of itself and of what does not exist. -/
theorem imports_linked_or_dangling_mixed :
    let ns : List ModuleNode :=
      [⟨"B", "b.ts", 7, 1, [], ["A", "X"], [], []⟩,
        ⟨"A", "a.ts", 1, 1, [], ["B", "X", "B", "A", "Y"],
          [], []⟩,
        ⟨"A", "c.ts", 1, 1, [], ["C"], [], []⟩]
    (ofNodes ns).dangling =
        [⟨"A", "X"⟩, ⟨"A", "Y"⟩, ⟨"B", "X"⟩] ∧
      (ofNodes ns).wiring.links = [(0, 1), (0, 0), (1, 0)] ∧
      Interleaves ["B", "B", "A"] ["X", "Y"]
        ["B", "X", "B", "A", "Y"] := by
  intro ns
  have hDangling :
      (ofNodes ns).dangling =
        [⟨"A", "X"⟩, ⟨"A", "Y"⟩, ⟨"B", "X"⟩] := by
    decide +kernel
  have hSuccessors :
      (ofNodes ns).successors "A" = ["B", "B", "A"] := by
    decide +kernel
  have hNode : (ofNodes ns).node? "A" = ns[1]? := by
    decide +kernel
  have hImports :=
    (imports_linked_or_dangling ns).2.1 "A" _ hNode
  rw [hDangling, hSuccessors] at hImports
  exact ⟨hDangling, by decide +kernel, hImports⟩

end ModuleGraph

end ModuleLint
