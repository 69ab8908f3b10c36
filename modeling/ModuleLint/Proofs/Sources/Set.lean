import ModuleLint.Sources.Unit
import ModuleLint.Proofs.Text.Keyed

/-
  Sets of units as maps from paths to units.

  Main declarations:
    * `SourceSet.get?_eq_some_iff`
    * `SourceSet.mem_insert_iff`, `SourceSet.mem_remove_iff`
    * `SourceSet.eq_of_mem_iff`
-/

namespace ModuleLint

namespace SourceSet

------------------------------------------------------------
-- Units by Their Paths
------------------------------------------------------------

theorem get?_eq_some_iff
    (s : SourceSet)
    {path : String}
    {u : SourceUnit} :
    s.get? path = some u ↔
      u ∈ s.units ∧ u.relativePath = path :=
  Keyed.find?_eq_some_iff s.ordered

/- A set is determined by its root and its units. -/
theorem eq_of_mem_iff
    {s t : SourceSet}
    (hRoot : s.root = t.root)
    (hMem : ∀ u, u ∈ s.units ↔ u ∈ t.units) :
    s = t :=
  SourceSet.ext hRoot
    (Keyed.eq_of_mem_iff s.ordered t.ordered hMem)

------------------------------------------------------------
-- Changes
------------------------------------------------------------

@[simp] theorem insert_root
    (s : SourceSet)
    (u : SourceUnit) :
    (s.insert u).root = s.root := rfl

@[simp] theorem remove_root
    (s : SourceSet)
    (path : RawText) :
    (s.remove path).root = s.root := rfl

theorem mem_place_self
    (u : SourceUnit)
    (vs : List SourceUnit) :
    u ∈ place u vs := by
  fun_induction place u vs <;> simp_all

theorem mem_place_of_ne
    {u w : SourceUnit}
    {vs : List SourceUnit}
    (hMem : w ∈ vs)
    (hNe : w.relativePath ≠ u.relativePath) :
    w ∈ place u vs := by
  fun_induction place u vs <;> grind

/- A unit takes the place of the one of its path. -/
theorem mem_insert_iff
    (s : SourceSet)
    (u w : SourceUnit) :
    w ∈ (s.insert u).units ↔
      w = u ∨
        (w ∈ s.units ∧ w.relativePath ≠ u.relativePath) := by
  have hSelf : u ∈ (s.insert u).units :=
    mem_place_self u s.units
  constructor
  · intro hMem
    by_cases hPath : w.relativePath = u.relativePath
    · exact Or.inl
        (Keyed.eq_of_key_eq (s.insert u).ordered
          hMem hSelf hPath)
    · rcases eq_or_mem_of_mem_place hMem with hNew | hOld
      · exact Or.inl hNew
      · exact Or.inr ⟨hOld, hPath⟩
  · rintro (rfl | ⟨hOld, hPath⟩)
    · exact hSelf
    · exact mem_place_of_ne hOld hPath

theorem mem_remove_iff
    (s : SourceSet)
    (path : RawText)
    (w : SourceUnit) :
    w ∈ (s.remove path).units ↔
      w ∈ s.units ∧
        w.relativePath ≠ Path.relative s.root path := by
  simp [remove]

theorem get?_insert_self
    (s : SourceSet)
    (u : SourceUnit) :
    (s.insert u).get? u.relativePath = some u :=
  (get?_eq_some_iff _).mpr ⟨mem_place_self u s.units, rfl⟩

theorem get?_insert_of_ne
    (s : SourceSet)
    {u : SourceUnit}
    {path : String}
    (hNe : path ≠ u.relativePath) :
    (s.insert u).get? path = s.get? path := by
  apply Option.ext
  intro w
  rw [get?_eq_some_iff, get?_eq_some_iff, mem_insert_iff]
  constructor
  · rintro ⟨rfl | ⟨hMem, _⟩, hPath⟩
    · exact absurd hPath.symm hNe
    · exact ⟨hMem, hPath⟩
  · rintro ⟨hMem, hPath⟩
    exact ⟨Or.inr ⟨hMem, hPath ▸ hNe⟩, hPath⟩

end SourceSet

end ModuleLint
