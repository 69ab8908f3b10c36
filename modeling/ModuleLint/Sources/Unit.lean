import ModuleLint.Script.Parse
import ModuleLint.Facts.Walk
import ModuleLint.Disk.Basic
import ModuleLint.Sources.Fault

/-
  Source files that have been read.

  Units are kept in the order of their paths as seen from the
  root, and each path has one unit.

  Key definitions include:
    * `SourceUnit`, `SourceUnit.ofSource`, `SourceUnit.load`
    * `SourceSet`, `SourceSet.ingest`
    * `SourceSet.insert`, `SourceSet.remove`
    * `ModuleGraph.ofSources`
-/

namespace ModuleLint

------------------------------------------------------------
-- Units
------------------------------------------------------------

/- A source file: its text, its tree and its facts. -/
structure SourceUnit where
  path : RawText
  relativePath : String
  source : String
  tree : Script.Tree
  facts : FileFacts
deriving Inhabited

namespace SourceUnit

/- The unit of a text under a path. -/
def ofSource
    (root path : RawText)
    (source : String) : SourceUnit :=
  let ext := (Path.extension? path).getD "ts"
  let tree := Script.parse (.ofExtension ext) source
  { path
    relativePath := Path.relative root path
    source
    tree
    facts := FileFacts.ofTree tree }

/- The unit of a file. -/
def load
    (disk : Disk)
    (root path : RawText) : Except Fault SourceUnit :=
  match disk.read path with
  | .ok source => .ok (ofSource root path source)
  | .error cause => .error (.scan path (.unreadable cause))

end SourceUnit

------------------------------------------------------------
-- Sets of Units
------------------------------------------------------------

namespace SourceSet

/- A unit put in its place, instead of one of the same path. -/
def place
    (u : SourceUnit) : List SourceUnit → List SourceUnit
  | [] => [u]
  | v :: vs =>
      if u.relativePath < v.relativePath then u :: v :: vs
      else if u.relativePath == v.relativePath then u :: vs
      else v :: place u vs

/- Nothing else is put in. -/
theorem eq_or_mem_of_mem_place
    {u w : SourceUnit}
    {vs : List SourceUnit}
    (hMem : w ∈ place u vs) :
    w = u ∨ w ∈ vs := by
  fun_induction place u vs <;> grind

/- Units stay in the order of their paths, each path once. -/
theorem pairwise_place
    (u : SourceUnit)
    {vs : List SourceUnit}
    (hOrdered :
      vs.Pairwise
        (fun v w => v.relativePath < w.relativePath)) :
    (place u vs).Pairwise
      (fun v w => v.relativePath < w.relativePath) := by
  fun_induction place u vs with
  | case1 => exact List.pairwise_singleton _ u
  | case2 v vs hBefore =>
      refine List.pairwise_cons.mpr ⟨?_, hOrdered⟩
      intro w hMem
      rcases List.mem_cons.mp hMem with rfl | hLater
      · exact hBefore
      · exact String.lt_trans hBefore
          (List.rel_of_pairwise_cons hOrdered hLater)
  | case3 v vs _ hSame =>
      have hPath := eq_of_beq hSame
      refine List.pairwise_cons.mpr ⟨?_, hOrdered.of_cons⟩
      intro w hMem
      rw [hPath]
      exact List.rel_of_pairwise_cons hOrdered hMem
  | case4 v vs hBefore hSame ih =>
      refine List.pairwise_cons.mpr ⟨?_, ih hOrdered.of_cons⟩
      intro w hMem
      rcases eq_or_mem_of_mem_place hMem with rfl | hLater
      · have hNe : v.relativePath ≠ w.relativePath :=
          fun hPath => hSame (beq_iff_eq.mpr hPath.symm)
        exact Std.lt_of_le_of_ne
          (String.not_lt.mp hBefore) hNe
      · exact List.rel_of_pairwise_cons hOrdered hLater

end SourceSet

/-
  The units below a root, in the order of their paths, each
  path once.
-/
@[ext]
structure SourceSet where
  root : RawText
  units : List SourceUnit
  ordered :
    units.Pairwise
      (fun u v => u.relativePath < v.relativePath)

namespace SourceSet

/- No units. -/
def empty
    (root : RawText) : SourceSet :=
  ⟨root, [], .nil⟩

instance : Inhabited SourceSet :=
  ⟨empty ""⟩

/- One more unit. -/
def insert
    (s : SourceSet)
    (u : SourceUnit) : SourceSet :=
  { s with
    units := place u s.units
    ordered := pairwise_place u s.ordered }

/- The units of files, all of which have to be readable. -/
def ingest
    (disk : Disk)
    (root : RawText)
    (paths : List RawText) : Except Fault SourceSet := do
  let units ← paths.mapM (SourceUnit.load disk root)
  .ok (units.foldl insert (empty root))

/- The unit under a path as seen from the root. -/
def get?
    (s : SourceSet)
    (relativePath : String) : Option SourceUnit :=
  s.units.find? (fun u => u.relativePath == relativePath)

/- A file has a unit. -/
def contains
    (s : SourceSet)
    (path : RawText) : Bool :=
  (s.get? (Path.relative s.root path)).isSome

/- The unit of a file read once more. -/
def reload
    (s : SourceSet)
    (disk : Disk)
    (path : RawText) : Except Fault (SourceUnit × SourceSet) :=
  match SourceUnit.load disk s.root path with
  | .ok u => .ok (u, s.insert u)
  | .error f => .error f

/- The unit of a file taken out. -/
def remove
    (s : SourceSet)
    (path : RawText) : SourceSet :=
  let key := Path.relative s.root path
  { s with
    units := s.units.filter (fun u => u.relativePath != key)
    ordered := s.ordered.filter _ }

/- The number of units. -/
def size
    (s : SourceSet) : Nat :=
  s.units.length

end SourceSet

end ModuleLint
