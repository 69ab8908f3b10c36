import ModuleLint.Worker.Coordinator
import ModuleLint.Proofs.Scan.Load

/-
  A worker's project and the files on disk.

  Files change one at a time, and the worker is told of each
  change before the next one.  In between, its project differs
  from the disk in at most the file it has not been told of.
  The request about that file makes up for the difference,
  whatever has happened to the file.

  Names are texts here.  A name that is none may be replaced by
  the name of another file, and then worker and disk part.

  Main declarations:
    * `Analyzer.Stale`, `Analyzer.Loaded.stale`
    * `Coordinator.loaded_fileChanged`
    * `Coordinator.Reached`
    * `Coordinator.handle_project_eq_loadProject`
    * `Coordinator.handle_new_file_replaces_other`
-/

namespace ModuleLint

------------------------------------------------------------
-- One File Behind
------------------------------------------------------------

namespace Analyzer

/-
  The units are those of the files of the scan, except maybe
  for one file, which is gone or can be read.
-/
structure Stale
    (a : Analyzer)
    (d : Disk)
    (names : List RawText)
    (s : SourceSet) : Prop where
  plain : Path.ArePlain names
  readable : a.Readable d
  root : s.root = a.root
  others :
    ∀ u, u.relativePath ≠ (RawText.ofSteps names).toText →
      (u ∈ s.units ↔ a.Scanned d u)
  accepted :
    ∀ u ∈ s.units,
      u.relativePath = (RawText.ofSteps names).toText →
        a.accepts (Path.below a.root names) = true
  file :
    d.isFile (Path.below a.root names) = false ∨
      (names ∈ d.filesBelow sourceWalk a.root ∧
        ∃ text,
          d.read (Path.below a.root names) = .ok text)

section

variable {a : Analyzer}
variable {d d' : Disk}
variable {names : List RawText}
variable {s : SourceSet}

/- The unit of the file that the names lead to. -/
theorem scanned_iff_of_relativePath_eq
    (hTidy : d.root.Tidy)
    (hRoot : d.isDirectory a.root = true)
    (hPlain : Path.ArePlain names)
    {u : SourceUnit}
    (hPath : u.relativePath = (RawText.ofSteps names).toText) :
    a.Scanned d u ↔
      names ∈ d.filesBelow sourceWalk a.root ∧
        a.accepts (Path.below a.root names) = true ∧
        SourceUnit.load d a.root (Path.below a.root names) =
          .ok u := by
  rw [SourceUnit.load_eq_ok_iff]
  constructor
  · rintro ⟨ks, text, hMem, hAccepts, hRead, hU⟩
    have hKs :=
      Disk.arePlain_of_mem_filesBelow hTidy hRoot hMem
    have hRelative : u.relativePath = (RawText.ofSteps ks).toText := by
      rw [hU]
      exact Path.relative_below a.root hKs
    have hSame : ks = names :=
      hKs.eq_of_toText_eq hPlain (hRelative.symm.trans hPath)
    subst hSame
    exact ⟨hMem, hAccepts, text, hRead, hU⟩
  · rintro ⟨hMem, hAccepts, text, hRead, hU⟩
    exact ⟨names, text, hMem, hAccepts, hRead, hU⟩

/- Units of other files are the same after an edit. -/
theorem scanned_iff_of_edit
    (hTidy : d.root.Tidy)
    (hRoot : d.isDirectory a.root = true)
    (hEdit : Disk.Edit sourceWalk a.root names d d')
    {u : SourceUnit}
    (hPath : u.relativePath ≠ (RawText.ofSteps names).toText) :
    a.Scanned d' u ↔ a.Scanned d u := by
  rcases Disk.exists_entry_of_isDirectory hRoot with
    ⟨top, hTop, hDirectory⟩
  unfold Scanned
  apply exists_congr
  intro ks
  apply exists_congr
  intro text
  by_cases hSame : ks = names
  · subst hSame
    have hNot :
        ∀ t, u ≠ .ofSource a.root (Path.below a.root ks) t := by
      rintro t rfl
      exact hPath (Path.relative_below a.root hEdit.plain)
    simp [hNot]
  · rw [hEdit.mem_filesBelow_iff hTidy hTop hDirectory hSame]
    apply and_congr_right
    intro hMem
    rw [hEdit.read_below_eq_ok_iff hTop hDirectory
      (Disk.arePlain_of_mem_filesBelow hTidy hRoot hMem) hSame]

/- After an edit, every file of the scan can be read. -/
theorem Readable.of_edit
    (hReadable : a.Readable d)
    (hTidy : d.root.Tidy)
    (hEdit : Disk.Edit sourceWalk a.root names d d') :
    a.Readable d' := by
  rcases Disk.exists_entry_of_isDirectory
      hReadable.directory with
    ⟨top, hTop, hDirectory⟩
  rcases hEdit.entry_root hTop hDirectory with
    ⟨top', hTop', hDirectory', _⟩
  have hTidy' := hEdit.tidy hTidy hTop hDirectory
  refine ⟨?_, ?_⟩
  · unfold Disk.isDirectory
    rw [hTop']
    exact hDirectory'
  · intro ks hMem hAccepts
    by_cases hSame : ks = names
    · subst hSame
      rw [Disk.mem_filesBelow_iff hTidy' hTop' hDirectory']
        at hMem
      rcases hEdit.at?_after hTop' hDirectory' with
        hGone | ⟨_, text, hText⟩
      · rcases hMem with ⟨⟨c, hAt⟩, _⟩
        rw [hGone] at hAt
        cases hAt
      · exact ⟨text,
          (Disk.read_below_eq_ok_iff hTop' hDirectory'
            hEdit.plain).mpr hText⟩
    · rw [hEdit.mem_filesBelow_iff hTidy hTop hDirectory hSame]
        at hMem
      rcases hReadable.files ks hMem hAccepts with
        ⟨text, hRead⟩
      exact ⟨text,
        (hEdit.read_below_eq_ok_iff hTop hDirectory
          (Disk.arePlain_of_mem_filesBelow hTidy
            hReadable.directory hMem) hSame).mpr hRead⟩

/- After an edit, the units are one file behind. -/
theorem Loaded.stale
    (hLoaded : a.Loaded d s)
    (hTidy : d.root.Tidy)
    (hEdit : Disk.Edit sourceWalk a.root names d d') :
    a.Stale d' names s := by
  have hRoot := hLoaded.readable.directory
  rcases Disk.exists_entry_of_isDirectory hRoot with
    ⟨top, hTop, hDirectory⟩
  rcases hEdit.entry_root hTop hDirectory with
    ⟨top', hTop', hDirectory', _⟩
  have hTidy' := hEdit.tidy hTidy hTop hDirectory
  refine
    { plain := hEdit.plain
      readable := hLoaded.readable.of_edit hTidy hEdit
      root := hLoaded.root
      others := ?_
      accepted := ?_
      file := ?_ }
  · intro u hPath
    rw [scanned_iff_of_edit hTidy hRoot hEdit hPath]
    exact hLoaded.units u
  · intro u hMem hPath
    rw [hLoaded.units, scanned_iff_of_relativePath_eq hTidy
      hRoot hEdit.plain hPath] at hMem
    exact hMem.2.1
  · rw [← Bool.not_eq_true,
      Disk.isFile_below_iff hTop' hDirectory' hEdit.plain,
      Disk.mem_filesBelow_iff hTidy' hTop' hDirectory']
    rcases hEdit.at?_after hTop' hDirectory' with
      hGone | ⟨hShows, text, hText⟩
    · left
      rintro ⟨c, hAt⟩
      rw [hGone] at hAt
      cases hAt
    · right
      refine ⟨⟨⟨_, hText⟩, hShows⟩, text, ?_⟩
      exact (Disk.read_below_eq_ok_iff hTop' hDirectory'
        hEdit.plain).mpr hText

/- Units that are read anew are not behind. -/
theorem Stale.reloaded
    (hStale : a.Stale d names s)
    {t : SourceSet}
    (hTidy : d.root.Tidy)
    (hLoaded : a.Loaded d t) :
    a.Stale d names t := by
  refine
    { plain := hStale.plain
      readable := hStale.readable
      root := hLoaded.root
      others := fun u _ => hLoaded.units u
      accepted := ?_
      file := hStale.file }
  intro u hMem hPath
  rw [hLoaded.units, scanned_iff_of_relativePath_eq hTidy
    hStale.readable.directory hStale.plain hPath] at hMem
  exact hMem.2.1

/-
  Units that have caught up: the others as before, and that of
  the file as it is on disk.
-/
theorem Stale.loaded
    (hStale : a.Stale d names s)
    {t : SourceSet}
    (hRoot : t.root = a.root)
    (hOthers :
      ∀ u, u.relativePath ≠ (RawText.ofSteps names).toText →
        (u ∈ t.units ↔ u ∈ s.units))
    (hFile :
      ∀ u, u.relativePath = (RawText.ofSteps names).toText →
        (u ∈ t.units ↔ a.Scanned d u)) :
    a.Loaded d t := by
  refine ⟨hStale.readable, hRoot, ?_⟩
  intro u
  by_cases hPath : u.relativePath = (RawText.ofSteps names).toText
  · exact hFile u hPath
  · rw [hOthers u hPath]
    exact hStale.others u hPath

------------------------------------------------------------
-- Catching Up
------------------------------------------------------------

theorem Stale.contains_iff
    (hStale : a.Stale d names s) :
    s.contains (Path.below a.root names) = true ↔
      ∃ u ∈ s.units,
        u.relativePath = (RawText.ofSteps names).toText := by
  unfold SourceSet.contains
  rw [hStale.root, Path.relative_below a.root hStale.plain,
    Option.isSome_iff_exists]
  simp only [SourceSet.get?_eq_some_iff]

/- A file that is gone is caught up with by taking it out. -/
theorem Stale.loaded_remove
    (hStale : a.Stale d names s)
    (hTidy : d.root.Tidy)
    (hGone : d.isFile (Path.below a.root names) = false) :
    a.Loaded d (s.remove (Path.below a.root names)) := by
  have hKey :
      Path.relative s.root (Path.below a.root names) =
        (RawText.ofSteps names).toText := by
    rw [hStale.root]
    exact Path.relative_below a.root hStale.plain
  apply hStale.loaded
  · exact hStale.root
  · intro u hPath
    rw [SourceSet.mem_remove_iff, hKey]
    exact and_iff_left hPath
  · intro u hPath
    rw [SourceSet.mem_remove_iff, hKey,
      scanned_iff_of_relativePath_eq hTidy
        hStale.readable.directory hStale.plain hPath]
    constructor
    · rintro ⟨_, hNe⟩
      exact absurd hPath hNe
    · rintro ⟨_, _, hLoad⟩
      rcases SourceUnit.load_eq_ok_iff.mp hLoad with
        ⟨text, hRead, _⟩
      rw [Disk.isFile_of_read hRead] at hGone
      cases hGone

/- Nothing has to be taken out if the file has no unit. -/
theorem Stale.remove_eq_self
    (hStale : a.Stale d names s)
    (hNew : s.contains (Path.below a.root names) ≠ true) :
    s.remove (Path.below a.root names) = s := by
  apply SourceSet.eq_of_mem_iff
  · rfl
  · intro u
    rw [SourceSet.mem_remove_iff, hStale.root,
      Path.relative_below a.root hStale.plain]
    apply and_iff_left_of_imp
    intro hMem hPath
    exact hNew (hStale.contains_iff.mpr ⟨u, hMem, hPath⟩)

/- A file that does not belong to the scan has no unit. -/
theorem Stale.loaded_of_not_accepts
    (hStale : a.Stale d names s)
    (hTidy : d.root.Tidy)
    (hRefused :
      a.accepts (Path.below a.root names) ≠ true) :
    a.Loaded d s := by
  apply hStale.loaded hStale.root (fun u _ => Iff.rfl)
  intro u hPath
  constructor
  · intro hMem
    exact absurd (hStale.accepted u hMem hPath) hRefused
  · intro hScanned
    rw [scanned_iff_of_relativePath_eq hTidy
      hStale.readable.directory hStale.plain hPath] at hScanned
    exact absurd hScanned.2.1 hRefused

/- A file that belongs to the scan is caught up with by reading it. -/
theorem Stale.loaded_insert
    (hStale : a.Stale d names s)
    (hTidy : d.root.Tidy)
    (hThere : d.isFile (Path.below a.root names) = true)
    (hAccepts : a.accepts (Path.below a.root names) = true) :
    ∃ u,
      SourceUnit.load d a.root (Path.below a.root names) =
          .ok u ∧
        a.Loaded d (s.insert u) := by
  rcases hStale.file with hGone | ⟨hMem, text, hRead⟩
  · rw [hThere] at hGone
    cases hGone
  · have hLoad :
        SourceUnit.load d a.root (Path.below a.root names) =
          .ok
            (.ofSource a.root (Path.below a.root names)
              text) :=
      SourceUnit.load_eq_ok_iff.mpr ⟨text, hRead, rfl⟩
    refine ⟨_, hLoad, ?_⟩
    have hNewPath := SourceUnit.relativePath_of_load hLoad
    rw [Path.relative_below a.root hStale.plain] at hNewPath
    apply hStale.loaded
    · exact hStale.root
    · intro u hPath
      rw [SourceSet.mem_insert_iff, hNewPath]
      constructor
      · rintro (rfl | ⟨hOld, _⟩)
        · exact absurd hNewPath hPath
        · exact hOld
      · intro hOld
        exact Or.inr ⟨hOld, hPath⟩
    · intro u hPath
      rw [SourceSet.mem_insert_iff, hNewPath,
        scanned_iff_of_relativePath_eq hTidy
          hStale.readable.directory hStale.plain hPath, hLoad]
      constructor
      · rintro (rfl | ⟨_, hNe⟩)
        · exact ⟨hMem, hAccepts, rfl⟩
        · exact absurd hPath hNe
      · rintro ⟨_, _, hU⟩
        cases hU
        exact Or.inl rfl

end

end Analyzer

------------------------------------------------------------
-- Requests
------------------------------------------------------------

namespace Coordinator

section

variable {a : Analyzer}
variable {c : Coordinator}
variable {d : Disk}
variable {names : List RawText}
variable {s : SourceSet}

/- Whatever has happened to the file, the worker catches up. -/
theorem loaded_fileChanged
    (hStale : a.Stale d names s)
    (hTidy : d.root.Tidy)
    (hAnalyzer : c.analyzer = a)
    (hProject : c.project = some (.ofSources s))
    {path : String}
    (hPath : Path.join a.root path = Path.below a.root names) :
    ∃ t,
      (c.fileChanged d path).2.project =
          some (.ofSources t) ∧
        (c.fileChanged d path).2.analyzer = a ∧
        a.Loaded d t := by
  have hResolve : c.resolve path = Path.below a.root names := by
    rw [resolve, hAnalyzer, hPath]
  unfold fileChanged
  simp only [hProject, hResolve, hAnalyzer]
  by_cases hThere : d.isFile (Path.below a.root names) = true
  · by_cases hAccepts :
        a.accepts (Path.below a.root names) = true
    · rcases hStale.loaded_insert hTidy hThere hAccepts with
        ⟨u, hLoad, hLoaded⟩
      refine ⟨s.insert u, ?_⟩
      have hReload :
          s.reload d (Path.below a.root names) =
            .ok (u, s.insert u) := by
        unfold SourceSet.reload
        rw [hStale.root, hLoad]
      simp [hThere, hAccepts, readFile, Project.ofSources,
        hReload, hAnalyzer, hLoaded]
    · have hNew :
          s.contains (Path.below a.root names) ≠ true := by
        intro hContains
        rcases hStale.contains_iff.mp hContains with
          ⟨u, hMem, hKey⟩
        exact hAccepts (hStale.accepted u hMem hKey)
      refine ⟨s, ?_⟩
      simp [hThere, hAccepts, hNew, Project.ofSources,
        hProject, hAnalyzer,
        hStale.loaded_of_not_accepts hTidy hAccepts]
  · have hGone :
        d.isFile (Path.below a.root names) = false := by
      simpa using hThere
    have hLoaded := hStale.loaded_remove hTidy hGone
    refine ⟨s.remove (Path.below a.root names), ?_⟩
    by_cases hContains :
        s.contains (Path.below a.root names) = true
    · simp [hGone, dropFile, Project.ofSources, hContains,
        hAnalyzer, hLoaded]
    · rw [hStale.remove_eq_self hContains] at hLoaded ⊢
      simp [hGone, dropFile, Project.ofSources, hContains,
        hProject, hAnalyzer, hLoaded]

end

------------------------------------------------------------
-- Runs
------------------------------------------------------------

/-
  How a request may write the path of a file: as seen from the
  root, or in full if the root is a full path.
-/
inductive Spells
    (root : RawText)
    (names : List RawText) : String → Prop
| relative
    {path : String}
    (hPath : RawText.ofText path = RawText.ofSteps names) :
    Spells root names path
| full
    {path : String}
    (hRoot : Path.isAbsolute root = true)
    (hPath : RawText.ofText path = Path.below root names) :
    Spells root names path

/-
  The requests that may come, by the change that the worker has
  not been told of before and after them.
-/
inductive Takes
    (root : RawText) :
    Request → Option (List RawText) → Option (List RawText) →
      Prop
| scan
    (pending : Option (List RawText)) :
    Takes root .fullScan pending pending
| tell
    {names : List RawText}
    {path : String}
    (hSpells : Spells root names path) :
    Takes root (.fileChanged path) (some names) none

/-
  A disk and a worker that come about from a start by changes
  of files and requests, with the change that the worker has
  not been told of.
-/
inductive Reached
    (a : Analyzer) :
    Disk → Coordinator → Option (List RawText) → Prop
| start
    {d : Disk}
    {r : Response}
    (hTidy : d.root.Tidy)
    (hStarted : ((fresh a).start d).1 = .ok r) :
    Reached a d ((fresh a).start d).2 none
| edit
    {d d' : Disk}
    {c : Coordinator}
    {names : List RawText}
    (hReached : Reached a d c none)
    (hEdit : Disk.Edit sourceWalk a.root names d d') :
    Reached a d' c (some names)
| handle
    {d : Disk}
    {c : Coordinator}
    {r : Request}
    {pending pending' : Option (List RawText)}
    (hReached : Reached a d c pending)
    (hTakes : Takes a.root r pending pending') :
    Reached a d (c.handle d r).2 pending'

/- The units are those of the disk but for a pending change. -/
def Current
    (a : Analyzer)
    (d : Disk)
    (s : SourceSet) : Option (List RawText) → Prop
  | none => a.Loaded d s
  | some names => a.Stale d names s

/- What holds of a worker in every run. -/
structure InStep
    (a : Analyzer)
    (d : Disk)
    (c : Coordinator)
    (pending : Option (List RawText)) : Prop where
  tidy : d.root.Tidy
  analyzer : c.analyzer = a
  state : c.state = .ready
  project :
    ∃ s, c.project = some (.ofSources s) ∧
      Current a d s pending

section

variable {a : Analyzer}
variable {d d' : Disk}
variable {c : Coordinator}
variable {names : List RawText}
variable {pending pending' : Option (List RawText)}

theorem Spells.join_eq
    {root : RawText}
    {path : String}
    (hSpells : Spells root names path)
    (hPlain : Path.ArePlain names) :
    Path.join root path = Path.below root names := by
  cases hSpells with
  | relative hPath =>
      rw [hPath]
      exact (Path.below_eq_join root hPlain.notEmpty
        hPlain.isName).symm
  | full hRoot hPath =>
      rw [hPath]
      exact Path.join_below_of_isAbsolute hRoot
        hPlain.notEmpty hPlain.isName

theorem InStep.start
    (hSelector : Selector.ofConfig a.config = .ok a.selector)
    (hTidy : d.root.Tidy)
    {r : Response}
    (hStarted : ((fresh a).start d).1 = .ok r) :
    InStep a d ((fresh a).start d).2 none := by
  unfold Coordinator.start at hStarted ⊢
  cases hLoad : (fresh a).analyzer.loadProject d with
  | error f =>
      rw [hLoad] at hStarted
      cases hStarted
  | ok p =>
      rcases (Analyzer.loadProject_eq_ok_iff hSelector
          hTidy).mp hLoad with
        ⟨s, hLoaded, rfl⟩
      exact ⟨hTidy, rfl, rfl, s, rfl, hLoaded⟩

theorem start_eq_ok
    (hSelector : Selector.ofConfig a.config = .ok a.selector)
    (hTidy : d.root.Tidy)
    (hReadable : a.Readable d) :
    ((fresh a).start d).1 = .ok .ready := by
  rcases hReadable.exists_loaded hTidy with ⟨s, hLoaded⟩
  have hLoad :=
    (Analyzer.loadProject_eq_ok_iff hSelector hTidy).mpr
      ⟨s, hLoaded, rfl⟩
  unfold Coordinator.start fresh
  rw [hLoad]

theorem InStep.edit
    (hInStep : InStep a d c none)
    (hEdit : Disk.Edit sourceWalk a.root names d d') :
    InStep a d' c (some names) := by
  rcases hInStep.project with ⟨s, hProject, hLoaded⟩
  rcases Disk.exists_entry_of_isDirectory
      hLoaded.readable.directory with
    ⟨top, hTop, hDirectory⟩
  exact
    { tidy := hEdit.tidy hInStep.tidy hTop hDirectory
      analyzer := hInStep.analyzer
      state := hInStep.state
      project :=
        ⟨s, hProject, hLoaded.stale hInStep.tidy hEdit⟩ }

/- The answer to a request other than to stop. -/
theorem handle_eq
    (hReady : c.state = .ready)
    {r : Request}
    (hRequest : r ≠ .shutdown) :
    (c.handle d r).2 =
      { ({ c with state := .scanning }.process d r).2 with
        state := .ready } := by
  unfold handle
  rw [if_neg (not_not.mpr hReady), if_neg hRequest]

/-
  After a request, the units are those of the disk, and the
  worker is in step.
-/
theorem InStep.handle
    (hSelector : Selector.ofConfig a.config = .ok a.selector)
    (hInStep : InStep a d c pending)
    {r : Request}
    (hTakes : Takes a.root r pending pending') :
    InStep a d (c.handle d r).2 pending' ∧
      ∃ s,
        (c.handle d r).2.project = some (.ofSources s) ∧
          a.Loaded d s := by
  rcases hInStep with
    ⟨hTidy, hAnalyzer, hState, s, hProject, hCurrent⟩
  cases hTakes with
  | scan =>
      have hReadable : a.Readable d := by
        cases pending with
        | none => exact hCurrent.readable
        | some names => exact hCurrent.readable
      rcases hReadable.exists_loaded hTidy with
        ⟨t, hLoaded⟩
      have hLoad :
          a.loadProject d = .ok (.ofSources t) :=
        (Analyzer.loadProject_eq_ok_iff hSelector hTidy).mpr
          ⟨t, hLoaded, rfl⟩
      have hAfter :
          (c.handle d .fullScan).2 =
            { c with
              project := some (.ofSources t)
              state := .ready } := by
        rw [handle_eq hState (by simp)]
        simp [process, fullScan, hAnalyzer, hLoad]
      rw [hAfter]
      refine ⟨⟨hTidy, hAnalyzer, rfl, t, rfl, ?_⟩,
        t, rfl, hLoaded⟩
      cases pending with
      | none => exact hLoaded
      | some names => exact hCurrent.reloaded hTidy hLoaded
  | tell hSpells =>
      rename_i path
      rcases loaded_fileChanged
          (c := { c with state := .scanning }) hCurrent hTidy
          hAnalyzer hProject
          (hSpells.join_eq hCurrent.plain) with
        ⟨t, hAfterProject, hAfterAnalyzer, hLoaded⟩
      rw [handle_eq hState (by simp)]
      exact ⟨⟨hTidy, hAfterAnalyzer, rfl, t, hAfterProject,
        hLoaded⟩, t, hAfterProject, hLoaded⟩

/- Every run stays in step. -/
theorem Reached.inStep
    (hSelector : Selector.ofConfig a.config = .ok a.selector)
    (hReached : Reached a d c pending) :
    InStep a d c pending := by
  induction hReached with
  | start hTidy hStarted =>
      exact InStep.start hSelector hTidy hStarted
  | edit _ hEdit ih => exact ih.edit hEdit
  | handle _ hTakes ih =>
      exact (ih.handle hSelector hTakes).1

/-
  After every request of a run, the worker's sources, graph
  and cycles are those that are read from the disk anew.
-/
theorem handle_project_eq_loadProject
    {root : RawText}
    {config : Config}
    {g : Registry}
    (hMade : Analyzer.withRegistry root config g = .ok a)
    (hReached : Reached a d c pending)
    {r : Request}
    (hTakes : Takes a.root r pending pending') :
    ∃ p,
      a.loadProject d = .ok p ∧
        (c.handle d r).2.project = some p := by
  have hSelector := (Analyzer.of_withRegistry hMade).2
  have hInStep := hReached.inStep hSelector
  rcases (hInStep.handle hSelector hTakes).2 with
    ⟨s, hProject, hLoaded⟩
  refine ⟨.ofSources s, ?_, hProject⟩
  exact (Analyzer.loadProject_eq_ok_iff hSelector
    hInStep.tidy).mpr ⟨s, hLoaded, rfl⟩

end

/- A worker hears of a file in a directory that is new. -/
theorem handle_new_file_eq_loadProject :
    let before : Disk :=
      ⟨.directory
        [("r",
          .directory
            [(".gitignore", .file (.text "*.js")),
              ("b.ts", .file (.text "x"))])]⟩
    let after :=
      before.write "/r/src/a.ts" (.file (.text "y"))
    ∃ a p,
      Analyzer.withRegistry "/r" {} ⟨[], [], []⟩ = .ok a ∧
        a.loadProject after = .ok p ∧
        ((((fresh a).start before).2.handle after
            (.fileChanged "src/a.ts")).2).project =
          some p := by
  intro before after
  have hOk :
      (Analyzer.withRegistry "/r" {} ⟨[], [], []⟩).isOk =
        true := by
    decide +kernel
  cases hMade : Analyzer.withRegistry "/r" {} ⟨[], [], []⟩ with
  | error f =>
      rw [hMade] at hOk
      cases hOk
  | ok a =>
      rcases Analyzer.of_withRegistry hMade with
        ⟨hRoot, hSelector⟩
      have hTidy : before.root.Tidy := by
        refine .directory (by decide) (by decide +kernel) ?_
        simp only [List.mem_singleton, forall_eq]
        refine .directory (by decide) (by decide +kernel) ?_
        simp only [List.mem_cons, List.not_mem_nil, or_false,
          forall_eq_or_imp, forall_eq]
        exact ⟨.file _, .file _⟩
      have hFiles :
          before.filesBelow sourceWalk "/r" =
            [[RawText.ofText "b.ts"]] := by
        decide +kernel
      have hReadable : a.Readable before := by
        refine ⟨?_, ?_⟩
        · rw [hRoot]
          decide +kernel
        · rw [hRoot, hFiles]
          simp only [List.mem_singleton, forall_eq]
          intro _
          exact ⟨"x", by decide +kernel⟩
      have hStarted := start_eq_ok hSelector hTidy hReadable
      have hPath :
          Path.below "/r" ["src", "a.ts"] = "/r/src/a.ts" := by
        decide +kernel
      have hEdit :
          Disk.Edit sourceWalk a.root ["src", "a.ts"]
            before after := by
        unfold after
        rw [hRoot, ← hPath]
        exact Disk.edit_of_missing rfl rfl
          ⟨by decide, by decide +kernel⟩ (by decide +kernel)
          (by decide +kernel) (by decide +kernel)
          (by decide +kernel)
      have hReached :=
        (Reached.start hTidy hStarted).edit hEdit
      have hTakes :
          Takes a.root (.fileChanged "src/a.ts")
            (some [RawText.ofText "src", RawText.ofText "a.ts"])
            none :=
        .tell (.relative (by decide +kernel))
      rcases handle_project_eq_loadProject hMade hReached
          hTakes with
        ⟨p, hLoad, hProject⟩
      exact ⟨a, p, rfl, hLoad, hProject⟩

/-
  A file whose name is no text is there, and one whose name is
  the text that stands for it is new.  The worker takes the new
  file for the one that it has read, while a scan of the disk
  takes the old file for the new one.
-/
theorem handle_new_file_replaces_other :
    let other : RawText := ⟨[0xff]⟩ ++ ".ts"
    let name := "\uFFFD.ts"
    let before : Disk :=
      ⟨.directory
        [("r", .directory [(other, .file (.text "x"))])]⟩
    let after :=
      before.write (Path.below "/r" [RawText.ofText name])
        (.file (.text "y"))
    let a : Analyzer :=
      { root := "/r"
        config := { skipDefaultExcludes := true }
        selector := ⟨none, .empty⟩
        engine := ⟨[], {}⟩
        filter := .none
        warnings := [] }
    other.toText = name ∧
    Analyzer.withRegistry "/r" { skipDefaultExcludes := true }
        ⟨[], [], []⟩ =
      .ok a ∧
    ((fresh a).start before).1.isOk = true ∧
    Disk.Edit sourceWalk "/r" [RawText.ofText name] before
      after ∧
    Takes "/r" (.fileChanged name) (some [RawText.ofText name])
      none ∧
    ∃ p q,
      a.loadProject after = .ok p ∧
        (((fresh a).start before).2.handle after
            (.fileChanged name)).2.project =
          some q ∧
        p.sources.units.map (·.source) = ["x"] ∧
        q.sources.units.map (·.source) = ["y"] := by
  intro other name before after a
  have hMade :
      Analyzer.withRegistry "/r" { skipDefaultExcludes := true }
          ⟨[], [], []⟩ =
        .ok a := by
    with_unfolding_all rfl
  have hEdit :
      Disk.Edit sourceWalk "/r" [RawText.ofText name] before
        after :=
    Disk.edit_of_missing rfl rfl ⟨by decide, by decide +kernel⟩
      (by decide +kernel) (by decide +kernel) (by decide +kernel)
      (by decide +kernel)
  have hTakes :
      Takes "/r" (.fileChanged name)
        (some [RawText.ofText name]) none :=
    .tell (.relative rfl)
  have hOrder :
      Path.namesLe [other] [RawText.ofText name] = false := by
    decide +kernel
  have hFiles :
      after.filesBelow sourceWalk "/r" =
        [[RawText.ofText name], [other]] := by
    rw [Disk.filesBelow_eq_mergeSort,
      show (after.entry "/r").toOption.elim [] _ =
          [[other], [RawText.ofText name]] by decide +kernel]
    simp [List.mergeSort, List.MergeSort.Internal.splitInTwo,
      hOrder]
  have hScan :
      a.scanFiles after =
        [ Path.below "/r" [RawText.ofText name],
          Path.below "/r" [other] ] := by
    unfold Analyzer.scanFiles
    rw [hFiles]
    decide +kernel
  have hOld :
      (SourceSet.ingest after "/r"
            (a.scanFiles after)).toOption.map
          (·.units.map (·.source)) =
        some ["x"] := by
    rw [hScan]
    decide +kernel
  have hNew :
      (((fresh a).start before).2.handle after
            (.fileChanged name)).2.project.map
          (·.sources.units.map (·.source)) =
        some ["y"] := by
    decide +kernel
  rcases Option.map_eq_some_iff.mp hNew with
    ⟨q, hProject, hSources⟩
  cases hSet :
      SourceSet.ingest after "/r" (a.scanFiles after) with
  | error f =>
      rw [hSet] at hOld
      cases hOld
  | ok s =>
      rw [hSet] at hOld
      have hLoad : a.loadProject after = .ok (.ofSources s) :=
        (Analyzer.loadProject_eq_ok_iff_ingest
          (Analyzer.of_withRegistry hMade).2).mpr
            ⟨by decide +kernel, s, hSet, rfl⟩
      exact ⟨by decide +kernel, hMade, by decide +kernel, hEdit,
        hTakes, .ofSources s, q, hLoad, hProject,
        Option.some_inj.mp hOld, hSources⟩

end Coordinator

end ModuleLint
