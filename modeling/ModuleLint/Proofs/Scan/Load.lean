import ModuleLint.Scan.Analyzer
import ModuleLint.Proofs.Disk.Edit
import ModuleLint.Proofs.Sources.Set

/-
  The project that an analyzer reads from a disk.

  A project is read if the root is a directory and every file
  that belongs to the scan holds text.  It then has a unit for
  each of these files and no other unit.

  Main declarations:
    * `SourceSet.ingest_eq_ok_iff`
    * `Analyzer.Scanned`, `Analyzer.Loaded`
    * `Analyzer.loadProject_eq_ok_iff`
-/

namespace ModuleLint

------------------------------------------------------------
-- Reading Files
------------------------------------------------------------

/- The results of a function that may fail, one after another. -/
theorem mapM_eq_ok_iff
    {α β ε : Type}
    (f : α → Except ε β)
    (xs : List α)
    (ys : List β) :
    xs.mapM f = .ok ys ↔ xs.map f = ys.map .ok := by
  induction xs generalizing ys with
  | nil => cases ys <;> simp [pure, Except.pure]
  | cons x xs ih =>
      rw [List.mapM_cons, List.map_cons]
      cases f x with
      | error e =>
          cases ys <;> simp [bind, Except.bind]
      | ok y =>
          have hBind :
              (do
                let zs ← xs.mapM f
                pure (y :: zs)) = Except.ok ys ↔
                ∃ zs, xs.mapM f = .ok zs ∧ ys = y :: zs := by
            cases xs.mapM f with
            | error e => simp [bind, Except.bind]
            | ok zs =>
                simp [bind, Except.bind, pure, Except.pure,
                  eq_comm]
          refine hBind.trans ?_
          simp only [ih]
          cases ys with
          | nil => simp
          | cons z zs => simp [eq_comm, and_comm]

namespace SourceUnit

theorem load_eq_ok_iff
    {d : Disk}
    {root path : RawText}
    {u : SourceUnit} :
    load d root path = .ok u ↔
      ∃ text,
        d.read path = .ok text ∧
          u = ofSource root path text := by
  unfold load
  cases d.read path with
  | error f => simp
  | ok text => simp [eq_comm]

theorem relativePath_of_load
    {d : Disk}
    {root path : RawText}
    {u : SourceUnit}
    (hLoad : load d root path = .ok u) :
    u.relativePath = Path.relative root path := by
  rcases load_eq_ok_iff.mp hLoad with
    ⟨text, _, rfl⟩
  rfl

end SourceUnit

theorem mem_iff_of_mapM_eq_ok
    {α β ε : Type}
    {f : α → Except ε β}
    {xs : List α}
    {ys : List β}
    (hOk : xs.mapM f = .ok ys)
    {y : β} :
    y ∈ ys ↔ ∃ x ∈ xs, f x = .ok y := by
  rw [mapM_eq_ok_iff] at hOk
  rw [← List.mem_map, hOk]
  simp

theorem exists_of_mapM_eq_ok
    {α β ε : Type}
    {f : α → Except ε β}
    {xs : List α}
    {ys : List β}
    (hOk : xs.mapM f = .ok ys)
    {x : α}
    (hMem : x ∈ xs) :
    ∃ y, f x = .ok y := by
  rw [mapM_eq_ok_iff] at hOk
  have hResult : f x ∈ ys.map Except.ok := by
    rw [← hOk]
    exact List.mem_map_of_mem hMem
  rcases List.mem_map.mp hResult with ⟨y, _, hY⟩
  exact ⟨y, hY.symm⟩

theorem exists_mapM_eq_ok
    {α β ε : Type}
    {f : α → Except ε β}
    {xs : List α}
    (hOk : ∀ x ∈ xs, ∃ y, f x = .ok y) :
    ∃ ys, xs.mapM f = .ok ys := by
  induction xs with
  | nil => exact ⟨[], rfl⟩
  | cons x xs ih =>
      rcases List.forall_mem_cons.mp hOk with ⟨hHead, hTail⟩
      rcases hHead with ⟨y, hY⟩
      rcases ih hTail with ⟨ys, hYs⟩
      refine ⟨y :: ys, ?_⟩
      rw [mapM_eq_ok_iff] at hYs ⊢
      rw [List.map_cons, hY, hYs]
      rfl

/- Files that can be read have units. -/
theorem SourceUnit.exists_mapM_load
    {d : Disk}
    (root : RawText)
    {paths : List RawText}
    (hText : ∀ p ∈ paths, ∃ text, d.read p = .ok text) :
    ∃ us, paths.mapM (load d root) = .ok us := by
  apply exists_mapM_eq_ok
  intro p hMem
  rcases hText p hMem with ⟨text, hRead⟩
  exact ⟨_, load_eq_ok_iff.mpr ⟨text, hRead, rfl⟩⟩

/- Units have the paths of their files as seen from the root. -/
theorem SourceUnit.map_relativePath_of_mapM
    {d : Disk}
    {root : RawText}
    {paths : List RawText}
    {us : List SourceUnit}
    (hUnits : paths.mapM (load d root) = .ok us) :
    us.map (·.relativePath) = paths.map (Path.relative root) := by
  rw [mapM_eq_ok_iff] at hUnits
  induction paths generalizing us with
  | nil =>
      rw [List.map_nil] at hUnits
      rw [List.map_eq_nil_iff.mp hUnits.symm]
      rfl
  | cons p paths ih =>
      cases us with
      | nil => cases hUnits
      | cons u us =>
          rw [List.map_cons, List.map_cons, List.cons.injEq]
            at hUnits
          rw [List.map_cons, List.map_cons, ih hUnits.2,
            relativePath_of_load hUnits.1]

namespace SourceSet

theorem foldl_insert_root
    (us : List SourceUnit)
    (s : SourceSet) :
    (us.foldl insert s).root = s.root := by
  induction us generalizing s with
  | nil => rfl
  | cons u us ih => exact ih (s.insert u)

theorem mem_or_mem_of_mem_foldl_insert
    {us : List SourceUnit}
    {s : SourceSet}
    {u : SourceUnit}
    (hMem : u ∈ (us.foldl insert s).units) :
    u ∈ s.units ∨ u ∈ us := by
  induction us generalizing s with
  | nil => exact Or.inl hMem
  | cons v us ih =>
      rcases ih hMem with hOld | hLater
      · rcases eq_or_mem_of_mem_place hOld with rfl | hOlder
        · exact Or.inr List.mem_cons_self
        · exact Or.inl hOlder
      · exact Or.inr (List.mem_cons_of_mem v hLater)

/- No path of a unit is lost, whatever is put in later. -/
theorem exists_mem_foldl_insert
    {us : List SourceUnit}
    {s : SourceSet}
    {u : SourceUnit}
    (hMem : u ∈ s.units ∨ u ∈ us) :
    ∃ w ∈ (us.foldl insert s).units,
      w.relativePath = u.relativePath := by
  induction us generalizing s u with
  | nil =>
      rcases hMem with hOld | hNone
      · exact ⟨u, hOld, rfl⟩
      · cases hNone
  | cons v us ih =>
      rw [List.foldl_cons]
      by_cases hPath : u.relativePath = v.relativePath
      · rw [hPath]
        exact ih (Or.inl (mem_place_self v s.units))
      · apply ih
        rcases hMem with hOld | hMem
        · exact Or.inl (mem_place_of_ne hOld hPath)
        · rcases List.mem_cons.mp hMem with rfl | hLater
          · exact absurd rfl hPath
          · exact Or.inr hLater

/-
  Units put in one after another are all there, as long as no
  two of them have the same path.
-/
theorem mem_foldl_insert_iff
    {us : List SourceUnit}
    {s : SourceSet}
    (hKeys :
      ∀ u ∈ s.units ++ us, ∀ v ∈ s.units ++ us,
        u.relativePath = v.relativePath → u = v)
    (w : SourceUnit) :
    w ∈ (us.foldl insert s).units ↔ w ∈ s.units ∨ w ∈ us := by
  induction us generalizing s with
  | nil => simp
  | cons u us ih =>
      have hInsert :
          ∀ v, v ∈ (s.insert u).units ↔ v = u ∨ v ∈ s.units := by
        intro v
        rw [mem_insert_iff]
        constructor
        · rintro (hNew | ⟨hOld, _⟩)
          · exact Or.inl hNew
          · exact Or.inr hOld
        · rintro (hNew | hOld)
          · exact Or.inl hNew
          · by_cases hPath : v.relativePath = u.relativePath
            · exact Or.inl
                (hKeys v (by simp [hOld]) u (by simp) hPath)
            · exact Or.inr ⟨hOld, hPath⟩
      rw [List.foldl_cons, ih, hInsert, List.mem_cons]
      · grind
      · intro v hV z hZ
        apply hKeys
        · grind
        · grind

theorem ingest_of_mapM
    {d : Disk}
    {root : RawText}
    {paths : List RawText}
    {us : List SourceUnit}
    (hUnits : paths.mapM (SourceUnit.load d root) = .ok us) :
    ingest d root paths = .ok (us.foldl insert (empty root)) := by
  unfold ingest
  rw [hUnits]
  rfl

theorem exists_ingest_eq_ok
    {d : Disk}
    (root : RawText)
    {paths : List RawText}
    (hText : ∀ p ∈ paths, ∃ text, d.read p = .ok text) :
    ∃ s, ingest d root paths = .ok s := by
  rcases SourceUnit.exists_mapM_load root hText with ⟨us, hUs⟩
  exact ⟨_, ingest_of_mapM hUs⟩

/- The units of files are all put in. -/
theorem mem_foldl_insert_of_mapM
    {d : Disk}
    {root : RawText}
    {paths : List RawText}
    (hKeys :
      ∀ p ∈ paths, ∀ q ∈ paths,
        Path.relative root p = Path.relative root q → p = q)
    {us : List SourceUnit}
    (hUnits : paths.mapM (SourceUnit.load d root) = .ok us)
    (u : SourceUnit) :
    u ∈ (us.foldl insert (empty root)).units ↔
      ∃ p ∈ paths, SourceUnit.load d root p = .ok u := by
  rw [mem_foldl_insert_iff, ← mem_iff_of_mapM_eq_ok hUnits]
  · simp [empty]
  · intro v hV w hW hPath
    rw [empty, List.nil_append,
      mem_iff_of_mapM_eq_ok hUnits] at hV hW
    rcases hV with ⟨p, hP, hV⟩
    rcases hW with ⟨q, hQ, hW⟩
    rw [SourceUnit.relativePath_of_load hV,
      SourceUnit.relativePath_of_load hW] at hPath
    rw [hKeys p hP q hQ hPath, hW, Except.ok.injEq] at hV
    exact hV.symm

/-
  Files are taken in if all of them hold text, and then each
  of them has its unit.
-/
theorem ingest_eq_ok_iff
    {d : Disk}
    {root : RawText}
    {paths : List RawText}
    (hKeys :
      ∀ p ∈ paths, ∀ q ∈ paths,
        Path.relative root p = Path.relative root q → p = q)
    {s : SourceSet} :
    ingest d root paths = .ok s ↔
      (∀ p ∈ paths, ∃ text, d.read p = .ok text) ∧
        s.root = root ∧
        ∀ u,
          u ∈ s.units ↔
            ∃ p ∈ paths, SourceUnit.load d root p = .ok u := by
  cases hUnits : paths.mapM (SourceUnit.load d root) with
  | error f =>
      have hIngest : ingest d root paths = .error f := by
        unfold ingest
        rw [hUnits]
        rfl
      constructor
      · intro hOk
        rw [hIngest] at hOk
        cases hOk
      · rintro ⟨hText, _⟩
        rcases exists_ingest_eq_ok root hText with ⟨t, hOk⟩
        rw [hIngest] at hOk
        cases hOk
  | ok us =>
      have hMem := mem_foldl_insert_of_mapM hKeys hUnits
      have hRoot :
          (us.foldl insert (empty root)).root = root :=
        foldl_insert_root us (empty root)
      rw [ingest_of_mapM hUnits]
      constructor
      · intro hOk
        cases hOk
        refine ⟨?_, hRoot, hMem⟩
        intro p hP
        rcases exists_of_mapM_eq_ok hUnits hP with ⟨u, hU⟩
        rcases SourceUnit.load_eq_ok_iff.mp hU with
          ⟨text, hRead, _⟩
        exact ⟨text, hRead⟩
      · rintro ⟨_, hRoot', hMem'⟩
        have hEq : us.foldl insert (empty root) = s := by
          apply eq_of_mem_iff
          · rw [hRoot, hRoot']
          · intro u
            rw [hMem, hMem']
        rw [hEq]

end SourceSet

------------------------------------------------------------
-- Files of a Scan
------------------------------------------------------------

namespace Analyzer

/- The unit is that of a file that belongs to the scan. -/
def Scanned
    (a : Analyzer)
    (d : Disk)
    (u : SourceUnit) : Prop :=
  ∃ names text,
    names ∈ d.filesBelow sourceWalk a.root ∧
      a.accepts (Path.below a.root names) = true ∧
      d.read (Path.below a.root names) = .ok text ∧
      u =
        .ofSource a.root (Path.below a.root names) text

/- Every file that belongs to the scan can be read. -/
structure Readable
    (a : Analyzer)
    (d : Disk) : Prop where
  directory : d.isDirectory a.root = true
  files :
    ∀ names ∈ d.filesBelow sourceWalk a.root,
      a.accepts (Path.below a.root names) = true →
        ∃ text,
          d.read (Path.below a.root names) = .ok text

/- The units are those of the files of the scan. -/
structure Loaded
    (a : Analyzer)
    (d : Disk)
    (s : SourceSet) : Prop where
  readable : a.Readable d
  root : s.root = a.root
  units : ∀ u, u ∈ s.units ↔ a.Scanned d u

/- The files that belong to the scan. -/
def scanFiles
    (a : Analyzer)
    (d : Disk) : List RawText :=
  ((d.filesBelow sourceWalk a.root).map
      (Path.below a.root)).filter
    (fun p => a.accepts p)

theorem mem_scanFiles_iff
    {a : Analyzer}
    {d : Disk}
    {p : RawText} :
    p ∈ a.scanFiles d ↔
      ∃ names ∈ d.filesBelow sourceWalk a.root,
        a.accepts (Path.below a.root names) = true ∧
          p = Path.below a.root names := by
  simp only [scanFiles, List.mem_filter, List.mem_map]
  grind

theorem Readable.scanFiles
    {a : Analyzer}
    {d : Disk}
    (hReadable : a.Readable d) :
    ∀ p ∈ a.scanFiles d, ∃ text, d.read p = .ok text := by
  intro p hP
  rcases mem_scanFiles_iff.mp hP with
    ⟨names, hMem, hAccepts, rfl⟩
  exact hReadable.files names hMem hAccepts

theorem sourceFiles_eq_ok
    {a : Analyzer}
    (hSelector : Selector.ofConfig a.config = .ok a.selector)
    (d : Disk) :
    d.sourceFiles a.root a.config = .ok (a.scanFiles d) := by
  unfold Disk.sourceFiles
  rw [hSelector]
  rfl

/- Files of a scan have different paths as seen from the root. -/
theorem eq_of_mem_scanFiles
    {a : Analyzer}
    {d : Disk}
    (hTidy : d.root.Tidy)
    (hRoot : d.isDirectory a.root = true)
    {p q : RawText}
    (hP : p ∈ a.scanFiles d)
    (hQ : q ∈ a.scanFiles d)
    (hPath :
      Path.relative a.root p = Path.relative a.root q) :
    p = q := by
  rcases mem_scanFiles_iff.mp hP with ⟨ns, hNs, _, rfl⟩
  rcases mem_scanFiles_iff.mp hQ with ⟨ks, hKs, _, rfl⟩
  have hNsPlain :=
    Disk.arePlain_of_mem_filesBelow hTidy hRoot hNs
  have hKsPlain :=
    Disk.arePlain_of_mem_filesBelow hTidy hRoot hKs
  rw [Path.relative_below _ hNsPlain,
    Path.relative_below _ hKsPlain] at hPath
  rw [hNsPlain.eq_of_toText_eq hKsPlain hPath]

theorem ingest_scanFiles_eq_ok_iff
    {a : Analyzer}
    {d : Disk}
    (hTidy : d.root.Tidy)
    (hRoot : d.isDirectory a.root = true)
    {s : SourceSet} :
    SourceSet.ingest d a.root (a.scanFiles d) = .ok s ↔
      a.Loaded d s := by
  have hScanned :
      ∀ u,
        (∃ p ∈ a.scanFiles d,
            SourceUnit.load d a.root p = .ok u) ↔
          a.Scanned d u := by
    intro u
    simp only [mem_scanFiles_iff, SourceUnit.load_eq_ok_iff,
      Scanned]
    constructor
    · rintro ⟨p, ⟨names, hMem, hAccepts, rfl⟩,
        text, hRead, hU⟩
      exact ⟨names, text, hMem, hAccepts, hRead, hU⟩
    · rintro ⟨names, text, hMem, hAccepts, hRead, hU⟩
      exact ⟨_, ⟨names, hMem, hAccepts, rfl⟩, text, hRead, hU⟩
  rw [SourceSet.ingest_eq_ok_iff
    (fun p hP q hQ => eq_of_mem_scanFiles hTidy hRoot hP hQ)]
  simp only [hScanned]
  constructor
  · rintro ⟨hText, hSetRoot, hUnits⟩
    refine ⟨⟨hRoot, ?_⟩, hSetRoot, hUnits⟩
    intro names hMem hAccepts
    exact hText _
      (mem_scanFiles_iff.mpr ⟨names, hMem, hAccepts, rfl⟩)
  · rintro ⟨hReadable, hSetRoot, hUnits⟩
    exact ⟨hReadable.scanFiles, hSetRoot, hUnits⟩

/- If every file can be read, there is a project. -/
theorem Readable.exists_loaded
    {a : Analyzer}
    {d : Disk}
    (hReadable : a.Readable d)
    (hTidy : d.root.Tidy) :
    ∃ s, a.Loaded d s := by
  rcases SourceSet.exists_ingest_eq_ok a.root
      hReadable.scanFiles with
    ⟨s, hIngest⟩
  rw [ingest_scanFiles_eq_ok_iff hTidy hReadable.directory]
    at hIngest
  exact ⟨s, hIngest⟩

/- A project is read by reading the files of the scan. -/
theorem loadProject_eq_ok_iff_ingest
    {a : Analyzer}
    (hSelector : Selector.ofConfig a.config = .ok a.selector)
    {d : Disk}
    {p : Project} :
    a.loadProject d = .ok p ↔
      d.isDirectory a.root = true ∧
        ∃ s,
          SourceSet.ingest d a.root (a.scanFiles d) = .ok s ∧
            p = .ofSources s := by
  unfold loadProject
  by_cases hRoot : d.isDirectory a.root = true
  · simp only [hRoot, if_true, sourceFiles_eq_ok hSelector,
      true_and]
    cases SourceSet.ingest d a.root (a.scanFiles d) with
    | error f => simp
    | ok s => simp [eq_comm]
  · simp [hRoot]

/- The project that is read is that of the files of the scan. -/
theorem loadProject_eq_ok_iff
    {a : Analyzer}
    (hSelector : Selector.ofConfig a.config = .ok a.selector)
    {d : Disk}
    (hTidy : d.root.Tidy)
    {p : Project} :
    a.loadProject d = .ok p ↔
      ∃ s, a.Loaded d s ∧ p = .ofSources s := by
  rw [loadProject_eq_ok_iff_ingest hSelector]
  constructor
  · rintro ⟨hRoot, s, hIngest, hP⟩
    exact ⟨s,
      (ingest_scanFiles_eq_ok_iff hTidy hRoot).mp hIngest, hP⟩
  · rintro ⟨s, hLoaded, hP⟩
    have hRoot := hLoaded.readable.directory
    exact ⟨hRoot, s,
      (ingest_scanFiles_eq_ok_iff hTidy hRoot).mpr hLoaded, hP⟩

/- An analyzer that was made selects files by its settings. -/
theorem of_withRegistry
    {root : RawText}
    {c : Config}
    {g : Registry}
    {a : Analyzer}
    (hMade : withRegistry root c g = .ok a) :
    a.root = root ∧
      Selector.ofConfig a.config = .ok a.selector := by
  unfold withRegistry at hMade
  cases hValid : c.validate with
  | error f => simp [hValid, bind, Except.bind] at hMade
  | ok _ =>
      cases hSelector : Selector.ofConfig c with
      | error f =>
          simp [hValid, hSelector, bind, Except.bind] at hMade
      | ok selector =>
          cases hFilter : Filter.ofLists c.ignore with
          | error f =>
              simp [hValid, hSelector, hFilter, bind,
                Except.bind] at hMade
          | ok filter =>
              simp only [hValid, hSelector, hFilter, bind,
                Except.bind, Except.ok.injEq] at hMade
              rw [← hMade]
              exact ⟨rfl, hSelector⟩

theorem exists_eq_ok_of_isOk
    {ε α : Type}
    {x : Except ε α}
    (hOk : x.isOk = true) :
    ∃ y, x = .ok y := by
  cases x with
  | error e => cases hOk
  | ok y => exact ⟨y, rfl⟩

/- There is an analyzer for the settings by default. -/
theorem exists_withRegistry
    (root : RawText) :
    ∃ a,
      withRegistry root {} ⟨[], [], []⟩ = .ok a ∧
        a.config = {} := by
  have hValid : ({} : Config).validate.isOk = true := by
    decide +kernel
  have hSelects : (Selector.ofConfig {}).isOk = true := by
    decide +kernel
  have hDrops :
      (Filter.ofLists ({} : Config).ignore).isOk = true := by
    decide +kernel
  rcases exists_eq_ok_of_isOk hValid with ⟨_, hValid⟩
  rcases exists_eq_ok_of_isOk hSelects with
    ⟨selector, hSelector⟩
  rcases exists_eq_ok_of_isOk hDrops with ⟨filter, hFilter⟩
  unfold withRegistry
  rw [hValid, hSelector, hFilter]
  exact ⟨_, rfl, rfl⟩

end Analyzer

end ModuleLint
