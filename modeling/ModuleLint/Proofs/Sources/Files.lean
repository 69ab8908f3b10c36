import Mathlib.Data.List.Perm.Basic
import ModuleLint.Proofs.Path.Relative
import ModuleLint.Proofs.Scan.Load

/-
  Files and the units made of them.

  Since different paths are seen differently from a root, no
  unit takes the place of another file's unit, so every file
  that is read has a unit of its own.

  Main declarations:
    * `SourceSet.Holds`
    * `SourceSet.exists_ingest_holds`
-/

namespace ModuleLint

namespace SourceSet

/-
  Every file has a unit under its path as seen from the root,
  with the text of the file.  If the files are different, there
  are as many units as files.
-/
structure Holds
    (d : Disk)
    (paths : List RawText)
    (s : SourceSet) : Prop where
  unit :
    ∀ p ∈ paths, ∃ u ∈ s.units,
      u.relativePath = Path.relative s.root p ∧
        Path.partsOf u.path = Path.partsOf p ∧
          d.read u.path = .ok u.source
  size :
    paths.Pairwise
        (fun p q => Path.partsOf p ≠ Path.partsOf q) →
      s.size = paths.length

/- A unit comes from a file with the same path. -/
theorem partsOf_of_relativePath_eq
    {d : Disk}
    {root : RawText}
    (hRoot : Path.isAbsolute root = true)
    {paths : List RawText}
    (hPlain : ∀ p ∈ paths, Path.IsPlain root p)
    {us : List SourceUnit}
    (hUnits : paths.mapM (SourceUnit.load d root) = .ok us)
    {u : SourceUnit}
    (hMem : u ∈ us)
    {p : RawText}
    (hP : p ∈ paths)
    (hSame : u.relativePath = Path.relative root p) :
    Path.partsOf u.path = Path.partsOf p ∧
      d.read u.path = .ok u.source := by
  rcases (mem_iff_of_mapM_eq_ok hUnits).mp hMem with
    ⟨q, hQ, hLoad⟩
  rcases SourceUnit.load_eq_ok_iff.mp hLoad with
    ⟨text, hRead, rfl⟩
  exact ⟨Path.partsOf_eq_of_relative_eq hRoot (hPlain q hQ)
    (hPlain p hP) hSame, hRead⟩

/- Units of different paths all stay. -/
theorem length_foldl_insert
    {root : RawText}
    {us : List SourceUnit}
    (hPaths : (us.map (·.relativePath)).Nodup) :
    (us.foldl insert (empty root)).units.length = us.length := by
  have hUnits : us.Nodup := hPaths.of_map
  have hSet :
      (us.foldl insert (empty root)).units.Nodup := by
    refine (us.foldl insert (empty root)).ordered.imp ?_
    rintro u v hBefore rfl
    exact String.lt_irrefl _ hBefore
  have hPerm :
      (us.foldl insert (empty root)).units.Perm us := by
    rw [List.perm_ext_iff_of_nodup hSet hUnits]
    intro u
    rw [mem_foldl_insert_iff]
    · simp [empty]
    · intro v hV w hW hPath
      exact List.inj_on_of_nodup_map hPaths
        (by simpa [empty] using hV) (by simpa [empty] using hW)
        hPath
  exact hPerm.length_eq

/- Files that can be read all get their units. -/
theorem exists_ingest_holds
    {d : Disk}
    {root : RawText}
    (hRoot : Path.isAbsolute root = true)
    {paths : List RawText}
    (hPlain : ∀ p ∈ paths, Path.IsPlain root p)
    (hText : ∀ p ∈ paths, ∃ text, d.read p = .ok text) :
    ∃ s,
      ingest d root paths = .ok s ∧ s.root = root ∧
        s.Holds d paths := by
  rcases SourceUnit.exists_mapM_load root hText with
    ⟨us, hUnits⟩
  have hKeys := SourceUnit.map_relativePath_of_mapM hUnits
  have hSetRoot := foldl_insert_root us (empty root)
  refine ⟨us.foldl insert (empty root), ingest_of_mapM hUnits,
    hSetRoot, ?_, ?_⟩
  · intro p hP
    rw [hSetRoot]
    have hKey : Path.relative root p ∈ us.map (·.relativePath) := by
      rw [hKeys]
      exact List.mem_map_of_mem hP
    rcases List.mem_map.mp hKey with ⟨u, hU, hPath⟩
    rcases exists_mem_foldl_insert (s := empty root)
        (Or.inr hU) with ⟨w, hW, hSame⟩
    have hMem : w ∈ us := by
      rcases mem_or_mem_of_mem_foldl_insert hW with
        hNone | hMem
      · cases hNone
      · exact hMem
    have hWPath := hSame.trans hPath
    exact ⟨w, hW, hWPath,
      partsOf_of_relativePath_eq hRoot hPlain hUnits hMem hP
        hWPath⟩
  · intro hDifferent
    have hNodup : (us.map (·.relativePath)).Nodup := by
      rw [hKeys, List.Nodup, List.pairwise_map]
      refine hDifferent.imp_of_mem ?_
      intro p q hP hQ hParts hSame
      exact hParts
        (Path.partsOf_eq_of_relative_eq hRoot (hPlain p hP)
          (hPlain q hQ) hSame)
    have hLength := congrArg List.length hKeys
    rw [List.length_map, List.length_map] at hLength
    exact (length_foldl_insert hNodup).trans hLength

end SourceSet

end ModuleLint
