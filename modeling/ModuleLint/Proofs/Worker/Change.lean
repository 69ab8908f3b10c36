import ModuleLint.Proofs.Editor.Incremental
import ModuleLint.Proofs.Worker.Sync

/-
  What a worker does when it is told of a change.

  A worker that is ready holds a project.  Told of a file, it
  takes the file out of the project, leaves the project alone
  or reads the file anew.  Which files it reads is decided by
  their paths alone, whereas a full scan also heeds what the
  walk through the directories leaves out.

  Main declarations:
    * `Coordinator.holding`, `Coordinator.Told`
    * `Coordinator.told_handle`, `Coordinator.handle_fullScan`
    * `Coordinator.Arises`, `Coordinator.Arises.eq_holding`
    * `Coordinator.handle_project_eq_iff`
-/

namespace ModuleLint

------------------------------------------------------------
-- Outcomes
------------------------------------------------------------

/- A project without a file. -/
def Project.drop
    (p : Project)
    (file : RawText) : Project :=
  if p.sources.contains file then
    .ofSources (p.sources.remove file)
  else
    p

@[simp] theorem Project.sources_ofSources
    (s : SourceSet) :
    (ofSources s).sources = s := rfl

@[simp] theorem Project.root_drop
    (p : Project)
    (file : RawText) :
    (p.drop file).sources.root = p.sources.root := by
  unfold drop
  split <;> rfl

@[simp] theorem Project.root_edit
    (p : Project)
    (u : SourceUnit) :
    (p.edit u).sources.root = p.sources.root := rfl

namespace Coordinator

/- A worker that is ready. -/
def holding
    (a : Analyzer)
    (p : Project) : Coordinator :=
  ⟨a, some p, .ready⟩

/-
  The response to a change, and the project after it: the file
  is gone, it is of no concern, it cannot be read, or it is
  read.
-/
inductive Told
    (a : Analyzer)
    (p : Project)
    (d : Disk)
    (path : String) : Response → Project → Prop
| gone
    (hGone : d.isFile (Path.join a.root path) = false) :
    Told a p d path (.missing path)
      (p.drop (Path.join a.root path))
| foreign
    (hThere : d.isFile (Path.join a.root path) = true)
    (hNew : p.sources.contains (Path.join a.root path) = false)
    (hRefused : a.accepts (Path.join a.root path) = false) :
    Told a p d path (respond {} .incremental) p
| unreadable
    {f : ReadFault}
    (hThere : d.isFile (Path.join a.root path) = true)
    (hOurs :
      p.sources.contains (Path.join a.root path) = true ∨
        a.accepts (Path.join a.root path) = true)
    (hRead : d.read (Path.join a.root path) = .error f) :
    Told a p d path
      (.error
        (Fault.scan (Path.join a.root path)
          (.unreadable f)).message)
      p
| read
    {text : String}
    {u : SourceUnit}
    (hThere : d.isFile (Path.join a.root path) = true)
    (hOurs :
      p.sources.contains (Path.join a.root path) = true ∨
        a.accepts (Path.join a.root path) = true)
    (hRead : d.read (Path.join a.root path) = .ok text)
    (hUnit :
      u =
        .ofSource p.sources.root (Path.join a.root path)
          text) :
    Told a p d path
      (respond (a.analyzeOne (p.edit u) u) .incremental)
      (p.edit u)

/- A worker that is ready is told of a change. -/
theorem told_handle
    (a : Analyzer)
    (p : Project)
    (d : Disk)
    (path : String) :
    ∃ r q,
      (holding a p).handle d (.fileChanged path) =
          (r, holding a q) ∧
        Told a p d path r q := by
  unfold handle process fileChanged holding resolve
  simp only [ne_eq, not_true_eq_false, if_false, reduceCtorEq]
  cases hThere : d.isFile (Path.join a.root path) with
  | false =>
      refine ⟨_, _, ?_, .gone hThere⟩
      cases hOld :
          p.sources.contains (Path.join a.root path) with
      | false => simp [dropFile, Project.drop, hOld]
      | true => simp [dropFile, Project.drop, hOld]
  | true =>
      by_cases hOurs :
          p.sources.contains (Path.join a.root path) = true ∨
            a.accepts (Path.join a.root path) = true
      · have hRefused :
            (!p.sources.contains (Path.join a.root path) &&
              !a.accepts (Path.join a.root path)) = false := by
          rcases hOurs with hOld | hAccepts
          · simp [hOld]
          · simp [hAccepts]
        simp only [Bool.not_true, Bool.false_eq_true, if_false,
          hRefused, readFile, SourceSet.reload, SourceUnit.load]
        cases hRead : d.read (Path.join a.root path) with
        | error f =>
            exact ⟨_, _, rfl, .unreadable hThere hOurs hRead⟩
        | ok text =>
            exact ⟨_, _, rfl, .read hThere hOurs hRead rfl⟩
      · simp only [not_or, Bool.not_eq_true] at hOurs
        refine ⟨_, _, ?_, .foreign hThere hOurs.1 hOurs.2⟩
        simp [hOurs]

theorem handle_fullScan
    (a : Analyzer)
    (p : Project)
    (d : Disk) :
    (holding a p).handle d .fullScan =
      match a.loadProject d with
      | .ok q =>
          (respond (a.analyze q) .full, holding a q)
      | .error f => (.error f.message, holding a p) := by
  unfold handle holding process fullScan
  cases a.loadProject d <;> rfl

theorem Told.root_eq
    {a : Analyzer}
    {p q : Project}
    {d : Disk}
    {path : String}
    {r : Response}
    (hTold : Told a p d path r q) :
    q.sources.root = p.sources.root := by
  cases hTold with
  | gone => exact p.root_drop _
  | foreign => rfl
  | unreadable => rfl
  | read => exact p.root_edit _

end Coordinator

------------------------------------------------------------
-- The Files of a Project
------------------------------------------------------------

/- Reading a file whose path is new changes a project. -/
theorem Project.edit_ne_self
    {p : Project}
    {u : SourceUnit}
    (hNew : ∀ v ∈ p.sources.units, v.path ≠ u.path) :
    p.edit u ≠ p := by
  intro hSame
  have hMem : u ∈ (p.edit u).sources.units :=
    SourceSet.mem_place_self u p.sources.units
  rw [hSame] at hMem
  exact hNew u hMem rfl

namespace Analyzer

section

variable {a : Analyzer}
variable {d : Disk}
variable {p : Project}

/- The units of a project are those of the files collected. -/
theorem units_of_loadProject
    (hLoad : a.loadProject d = .ok p) :
    ∃ files us,
      d.sourceFiles a.root a.config = .ok files ∧
        files.mapM (SourceUnit.load d a.root) = .ok us ∧
        p =
          .ofSources
            (us.foldl SourceSet.insert (.empty a.root)) := by
  unfold loadProject at hLoad
  split at hLoad
  · cases hFiles : d.sourceFiles a.root a.config with
    | error f => simp [hFiles] at hLoad
    | ok files =>
        cases hUnits :
            files.mapM (SourceUnit.load d a.root) with
        | error f =>
            simp [hFiles, SourceSet.ingest, hUnits, bind,
              Except.bind] at hLoad
        | ok us =>
            simp only [hFiles, SourceSet.ingest, hUnits, bind,
              Except.bind, Except.ok.injEq] at hLoad
            exact ⟨files, us, rfl, hUnits, hLoad.symm⟩
  · cases hLoad

theorem root_of_loadProject
    (hLoad : a.loadProject d = .ok p) :
    p.sources.root = a.root := by
  rcases units_of_loadProject hLoad with ⟨_, us, _, _, rfl⟩
  exact SourceSet.foldl_insert_root us _

theorem path_mem_of_loadProject
    (hLoad : a.loadProject d = .ok p)
    {files : List RawText}
    (hFiles : d.sourceFiles a.root a.config = .ok files)
    {u : SourceUnit}
    (hMem : u ∈ p.sources.units) :
    u.path ∈ files := by
  rcases units_of_loadProject hLoad with
    ⟨_, us, hFiles', hUnits, rfl⟩
  rw [hFiles, Except.ok.injEq] at hFiles'
  subst hFiles'
  rcases SourceSet.mem_or_mem_of_mem_foldl_insert hMem with
    hNone | hUs
  · cases hNone
  · rcases (mem_iff_of_mapM_eq_ok hUnits).mp hUs with
      ⟨file, hFile, hUnit⟩
    rcases SourceUnit.load_eq_ok_iff.mp hUnit with
      ⟨text, _, rfl⟩
    exact hFile

/-
  A file that the walk comes by and a scan leaves out is kept
  out by its path.
-/
theorem refused_of_mem_filesBelow
    (hSelector : Selector.ofConfig a.config = .ok a.selector)
    (hTidy : d.root.Tidy)
    (hLoad : a.loadProject d = .ok p)
    {files : List RawText}
    (hFiles : d.sourceFiles a.root a.config = .ok files)
    {names : List RawText}
    (hNames : names ∈ d.filesBelow sourceWalk a.root)
    (hOut : Path.below a.root names ∉ files) :
    p.sources.contains (Path.below a.root names) = false ∧
      a.accepts (Path.below a.root names) = false := by
  rw [sourceFiles_eq_ok hSelector, Except.ok.injEq] at hFiles
  subst hFiles
  rcases (loadProject_eq_ok_iff hSelector hTidy).mp hLoad with
    ⟨s, hLoaded, rfl⟩
  have hRoot := hLoaded.readable.directory
  have hPlain :=
    Disk.arePlain_of_mem_filesBelow hTidy hRoot hNames
  have hRefused :
      ¬ a.accepts (Path.below a.root names) = true :=
    fun hAccepts =>
      hOut
        (mem_scanFiles_iff.mpr ⟨names, hNames, hAccepts, rfl⟩)
  refine ⟨?_, by simpa using hRefused⟩
  -- A unit under this path would be that of an accepted file.
  rw [Bool.eq_false_iff]
  intro hContains
  unfold SourceSet.contains at hContains
  rw [Project.sources_ofSources, hLoaded.root,
    Path.relative_below a.root hPlain,
    Option.isSome_iff_exists] at hContains
  rcases hContains with ⟨u, hUnit⟩
  rcases s.get?_eq_some_iff.mp hUnit with ⟨hMem, hPath⟩
  rw [hLoaded.units, scanned_iff_of_relativePath_eq hTidy hRoot
    hPlain hPath] at hMem
  exact hRefused hMem.2.1

end

end Analyzer

------------------------------------------------------------
-- Workers That Come About
------------------------------------------------------------

namespace Coordinator

/- A worker, whatever the disk was like at each of its steps. -/
inductive Arises
    (a : Analyzer) : Coordinator → Prop
| fresh :
    Arises a (fresh a)
| start
    {c : Coordinator}
    (hArises : Arises a c)
    (d : Disk) :
    Arises a (c.start d).2
| stop
    {c : Coordinator}
    (hArises : Arises a c) :
    Arises a c.stop
| handle
    {c : Coordinator}
    (hArises : Arises a c)
    (d : Disk)
    (r : Request) :
    Arises a (c.handle d r).2

/- What holds of every worker. -/
structure Rooted
    (a : Analyzer)
    (c : Coordinator) : Prop where
  analyzer : c.analyzer = a
  loaded : c.state = .ready → c.project.isSome = true
  root : ∀ p, c.project = some p → p.sources.root = a.root

section

variable {a : Analyzer}
variable {c : Coordinator}

theorem rooted_holding
    {p : Project}
    (hRoot : p.sources.root = a.root) :
    Rooted a (holding a p) := by
  refine ⟨rfl, fun _ => rfl, ?_⟩
  intro q hProject
  cases hProject
  exact hRoot

theorem Rooted.eq_holding
    (hRooted : Rooted a c)
    (hReady : c.state = .ready) :
    ∃ p, c = holding a p ∧ p.sources.root = a.root := by
  rcases Option.isSome_iff_exists.mp
      (hRooted.loaded hReady) with
    ⟨p, hProject⟩
  refine ⟨p, ?_, hRooted.root p hProject⟩
  rcases c with ⟨b, project, state⟩
  simp only at hProject hReady
  rw [hProject, hReady, show b = a from hRooted.analyzer]
  rfl

theorem Rooted.stop
    (hRooted : Rooted a c) :
    Rooted a c.stop := by
  refine ⟨hRooted.analyzer, ?_, hRooted.root⟩
  intro hReady
  cases hReady

theorem Rooted.start
    (hRooted : Rooted a c)
    (d : Disk) :
    Rooted a (c.start d).2 := by
  unfold Coordinator.start
  split
  · next p hLoad =>
      rw [hRooted.analyzer] at hLoad
      refine ⟨hRooted.analyzer, fun _ => rfl, ?_⟩
      intro q hProject
      cases hProject
      exact Analyzer.root_of_loadProject hLoad
  · refine ⟨hRooted.analyzer, ?_, hRooted.root⟩
    intro hReady
    cases hReady

theorem Rooted.handle
    (hRooted : Rooted a c)
    (d : Disk)
    (r : Request) :
    Rooted a (c.handle d r).2 := by
  by_cases hReady : c.state = .ready
  · rcases hRooted.eq_holding hReady with ⟨p, rfl, hRoot⟩
    cases r with
    | fullScan =>
        rw [handle_fullScan]
        cases hLoad : a.loadProject d with
        | error f => exact hRooted
        | ok q =>
            exact rooted_holding
              (Analyzer.root_of_loadProject hLoad)
    | fileChanged path =>
        rcases told_handle a p d path with
          ⟨_, q, hHandle, hTold⟩
        rw [hHandle]
        exact rooted_holding (hTold.root_eq.trans hRoot)
    | shutdown => exact hRooted.stop
  · unfold Coordinator.handle
    rw [if_pos hReady]
    exact hRooted

theorem Arises.rooted
    (hArises : Arises a c) :
    Rooted a c := by
  induction hArises with
  | fresh =>
      refine ⟨rfl, ?_, ?_⟩
      · intro hReady
        cases hReady
      · intro p hProject
        cases hProject
  | start _ d ih => exact ih.start d
  | stop _ ih => exact ih.stop
  | handle _ d r ih => exact ih.handle d r

/- A worker that is ready holds a project of its root. -/
theorem Arises.eq_holding
    (hArises : Arises a c)
    (hReady : c.state = .ready) :
    ∃ p, c = holding a p ∧ p.sources.root = a.root :=
  hArises.rooted.eq_holding hReady

end

------------------------------------------------------------
-- Files That a Scan Leaves Out
------------------------------------------------------------

section

variable {a : Analyzer}
variable {d : Disk}
variable {p : Project}
variable {files : List RawText}
variable {path : String}

/- A file left out gets into the project once it is read. -/
theorem Told.ne_of_read
    {q : Project}
    {r : Response}
    (hTold : Told a p d path r q)
    (hLoad : a.loadProject d = .ok p)
    (hFiles : d.sourceFiles a.root a.config = .ok files)
    (hOut : Path.join a.root path ∉ files)
    {text : String}
    (hRead : d.read (Path.join a.root path) = .ok text)
    (hOurs :
      p.sources.contains (Path.join a.root path) = true ∨
        a.accepts (Path.join a.root path) = true) :
    q ≠ p := by
  cases hTold with
  | gone hGone =>
      rw [Disk.isFile_of_read hRead] at hGone
      cases hGone
  | foreign _ hNew hRefused =>
      simp [hNew, hRefused] at hOurs
  | unreadable _ _ hFault =>
      rw [hRead] at hFault
      cases hFault
  | read _ _ _ hUnit =>
      -- All units are of files collected, and this one is not.
      apply Project.edit_ne_self
      intro v hMem hPath
      apply hOut
      rw [hUnit] at hPath
      rw [← show v.path = Path.join a.root path from hPath]
      exact Analyzer.path_mem_of_loadProject hLoad hFiles hMem

/- A file that its path keeps out changes nothing. -/
theorem Told.eq_of_refused
    {q : Project}
    {r : Response}
    (hTold : Told a p d path r q)
    (hThere : d.isFile (Path.join a.root path) = true)
    (hNew : p.sources.contains (Path.join a.root path) = false)
    (hRefused : a.accepts (Path.join a.root path) = false) :
    q = p ∧ r = respond {} .incremental := by
  cases hTold with
  | gone hGone =>
      rw [hThere] at hGone
      cases hGone
  | foreign => exact ⟨rfl, rfl⟩
  | unreadable _ hOurs => simp [hNew, hRefused] at hOurs
  | read _ hOurs => simp [hNew, hRefused] at hOurs

/- A file that cannot be read changes nothing. -/
theorem Told.eq_of_unreadable
    {q : Project}
    {r : Response}
    (hTold : Told a p d path r q)
    (hThere : d.isFile (Path.join a.root path) = true)
    {f : ReadFault}
    (hFault : d.read (Path.join a.root path) = .error f) :
    q = p := by
  cases hTold with
  | gone hGone =>
      rw [hThere] at hGone
      cases hGone
  | foreign => rfl
  | unreadable => rfl
  | read _ _ hRead =>
      rw [hFault] at hRead
      cases hRead

/-
  A worker whose project is that of the disk is told of a file
  that a scan leaves out.  The project stays as it is just if
  the path of the file keeps it out, or nothing can be read.
  Files that the walk comes by are kept out by their paths;
  those that it leaves out are not.
-/
theorem handle_project_eq_iff
    {c : Coordinator}
    (hReady : c.state = .ready)
    (hProject : c.project = some p)
    (hLoad : c.analyzer.loadProject d = .ok p)
    (hFiles :
      d.sourceFiles c.analyzer.root c.analyzer.config =
        .ok files)
    (hThere : d.isFile (c.resolve path) = true)
    (hOut : c.resolve path ∉ files) :
    ((c.handle d (.fileChanged path)).2.project = some p ↔
      (p.sources.contains (c.resolve path) = false ∧
          c.analyzer.accepts (c.resolve path) = false) ∨
        ∃ f, d.read (c.resolve path) = .error f) ∧
      ∀ names ∈ d.filesBelow sourceWalk c.analyzer.root,
        Selector.ofConfig c.analyzer.config =
            .ok c.analyzer.selector →
          d.root.Tidy →
          c.resolve path = Path.below c.analyzer.root names →
          (c.handle d (.fileChanged path)).2.project =
            some p := by
  rcases c with ⟨a, project, state⟩
  cases hReady
  cases hProject
  rcases told_handle a p d path with ⟨r, q, hHandle, hTold⟩
  have hAfter :
      (Coordinator.handle ⟨a, some p, .ready⟩ d
        (.fileChanged path)).2.project = some q := by
    rw [show Coordinator.mk a (some p) .ready = holding a p
      from rfl, hHandle]
    rfl
  rw [hAfter, Option.some.injEq]
  refine ⟨⟨?_, ?_⟩, ?_⟩
  · intro hSame
    cases hRead : d.read (Path.join a.root path) with
    | error f => exact Or.inr ⟨f, hRead⟩
    | ok text =>
        left
        by_contra hOurs
        refine hTold.ne_of_read hLoad hFiles hOut hRead ?_ hSame
        simpa [resolve, imp_iff_not_or] using hOurs
  · rintro (⟨hNew, hRefused⟩ | ⟨f, hFault⟩)
    · exact (hTold.eq_of_refused hThere hNew hRefused).1
    · exact hTold.eq_of_unreadable hThere hFault
  · intro names hNames hSelector hTidy hPath
    have hKept :=
      Analyzer.refused_of_mem_filesBelow hSelector hTidy hLoad
        hFiles hNames (hPath ▸ hOut)
    rw [← hPath] at hKept
    exact (hTold.eq_of_refused hThere hKept.1 hKept.2).1

end

------------------------------------------------------------
-- Two Files
------------------------------------------------------------

/- A page of notes stays out of the project. -/
theorem handle_notes_project_eq :
    let top : Entry :=
      .directory
        [("a.ts", .file (.text "x")),
          ("notes.md", .file (.text "y"))]
    let d : Disk := ⟨.directory [("r", top)]⟩
    ∃ a p files,
      Analyzer.withRegistry "/r" {} ⟨[], [], []⟩ = .ok a ∧
        a.loadProject d = .ok p ∧
        d.sourceFiles "/r" {} = .ok files ∧
        d.isFile "/r/notes.md" = true ∧
        RawText.ofText "/r/notes.md" ∉ files ∧
        ((holding a p).handle d
          (.fileChanged "notes.md")).2.project = some p := by
  intro top d
  rcases Analyzer.exists_withRegistry "/r" with
    ⟨a, hMade, hConfig⟩
  rcases Analyzer.of_withRegistry hMade with
    ⟨hRoot, hSelector⟩
  have hTidy : d.root.Tidy := by
    refine .directory (by decide) (by decide +kernel) ?_
    simp only [List.mem_singleton, forall_eq]
    refine .directory (by decide) (by decide +kernel) ?_
    simp only [List.mem_cons, List.not_mem_nil, or_false,
      forall_eq_or_imp, forall_eq]
    exact ⟨.file _, .file _⟩
  have hWalk :
      top.walk sourceWalk
          (Disk.layersAbove sourceWalk d.root
            (Disk.namesOf "/r") []) [] =
        [[RawText.ofText "a.ts"],
          [RawText.ofText "notes.md"]] := by
    decide +kernel
  have hFound :
      d.filesBelow sourceWalk "/r" =
        [[RawText.ofText "a.ts"],
          [RawText.ofText "notes.md"]] := by
    unfold Disk.filesBelow
    rw [show d.entry "/r" = .ok top from rfl]
    simp only [hWalk]
    exact List.mergeSort_of_pairwise (by decide +kernel)
  have hReadable : a.Readable d := by
    refine ⟨?_, ?_⟩
    · rw [hRoot]
      decide +kernel
    · rw [hRoot, hFound]
      simp only [List.mem_cons, List.not_mem_nil, or_false,
        forall_eq_or_imp, forall_eq]
      exact ⟨fun _ => ⟨"x", by decide +kernel⟩,
        fun _ => ⟨"y", by decide +kernel⟩⟩
  rcases hReadable.exists_loaded hTidy with ⟨s, hLoaded⟩
  have hLoad :=
    (Analyzer.loadProject_eq_ok_iff hSelector hTidy).mpr
      ⟨s, hLoaded, rfl⟩
  have hFiles := Analyzer.sourceFiles_eq_ok hSelector d
  have hPath :
      (holding a (.ofSources s)).resolve "notes.md" =
        "/r/notes.md" := by
    unfold resolve holding
    rw [hRoot]
    decide +kernel
  have hThere : d.isFile "/r/notes.md" = true := by
    decide +kernel
  have hOut : RawText.ofText "/r/notes.md" ∉ a.scanFiles d := by
    intro hMem
    rcases List.mem_filter.mp hMem with ⟨_, hAccepts⟩
    have hEnding :
        Selector.isSupported "/r/notes.md" = false := by
      decide +kernel
    simp [Analyzer.accepts, Selector.accepts, hEnding]
      at hAccepts
  refine ⟨a, .ofSources s, a.scanFiles d, hMade, hLoad, ?_,
    hThere, hOut, ?_⟩
  · rw [← hRoot, ← hConfig]
    exact hFiles
  · refine (handle_project_eq_iff (c := holding a _) rfl rfl
      hLoad hFiles ?_ ?_).2 ["notes.md"] ?_ hSelector hTidy ?_
    · rw [hPath]
      exact hThere
    · rw [hPath]
      exact hOut
    · unfold holding
      rw [hRoot, hFound]
      simp
    · rfl

/-
  A file that a rule for ignored files leaves out gets into the
  project when the worker is told of it.
-/
theorem handle_admits_ignored_file :
    let d : Disk :=
      ⟨.directory
        [("r",
          .directory
            [(".gitignore", .file (.text "generated/")),
              ("generated",
                .directory [("b.ts", .file (.text "x"))])])]⟩
    ∃ a p,
      Analyzer.withRegistry "/r" {} ⟨[], [], []⟩ = .ok a ∧
        a.loadProject d = .ok p ∧
        ((fresh a).start d).2 = holding a p ∧
        d.sourceFiles "/r" {} = .ok [] ∧
        d.isFile "/r/generated/b.ts" = true ∧
        ((holding a p).handle d
          (.fileChanged "generated/b.ts")).2.project ≠
          some p := by
  intro d
  rcases Analyzer.exists_withRegistry "/r" with
    ⟨a, hMade, hConfig⟩
  rcases Analyzer.of_withRegistry hMade with
    ⟨hRoot, hSelector⟩
  have hNone : (d.sourceFiles "/r" {}).toOption = some [] := by
    decide +kernel
  have hFiles : d.sourceFiles a.root a.config = .ok [] := by
    rw [hRoot, hConfig]
    cases hFound : d.sourceFiles "/r" {} with
    | error f =>
        rw [hFound] at hNone
        cases hNone
    | ok files =>
        rw [hFound] at hNone
        rw [show files = [] from Option.some.inj hNone]
  have hLoad :
      a.loadProject d = .ok (.ofSources (.empty a.root)) := by
    have hTop : d.isDirectory a.root = true := by
      rw [hRoot]
      decide +kernel
    unfold Analyzer.loadProject
    rw [if_pos hTop, hFiles]
    rfl
  have hAccepts : a.accepts "/r/generated/b.ts" = true := by
    have hSelected :
        (Selector.ofConfig {}).toOption.map
            (fun s => s.accepts "/r" "/r/generated/b.ts") =
          some true := by
      decide +kernel
    rw [← hConfig, hSelector] at hSelected
    rw [Analyzer.accepts, hRoot]
    exact Option.some.inj hSelected
  have hPath :
      Path.join a.root "generated/b.ts" =
        "/r/generated/b.ts" := by
    rw [hRoot]
    decide +kernel
  refine ⟨a, .ofSources (.empty a.root), hMade, hLoad, ?_, ?_,
    by decide +kernel, ?_⟩
  · unfold Coordinator.start fresh
    rw [hLoad]
    rfl
  · rw [← hRoot, ← hConfig]
    exact hFiles
  · rcases told_handle a (.ofSources (.empty a.root)) d
        "generated/b.ts" with
      ⟨r, q, hHandle, hTold⟩
    rw [hHandle]
    intro hSame
    have hRead :
        d.read (Path.join a.root "generated/b.ts") =
          .ok "x" := by
      rw [hPath]
      decide +kernel
    apply hTold.ne_of_read hLoad hFiles (by simp) hRead
    · right
      rw [hPath]
      exact hAccepts
    · exact Option.some.inj hSame

end Coordinator

end ModuleLint
