import ModuleLint.Proofs.Worker.Change

/-
  Changes of files that are not part of a scan.

  A worker that is told of such a file finds nothing and says
  so in the words of a scan after a change.  A store takes
  these words to list all that rules for projects find, so it
  forgets what they have found elsewhere.

  Main declarations:
    * `Analyzer.filter_get_fullStore`
    * `Analyzer.get_merge_foreign`
    * `Coordinator.apply_foreign_change`
-/

namespace ModuleLint

------------------------------------------------------------
-- What Is Left of a Store
------------------------------------------------------------

/- The diagnostic is that of a rule for projects. -/
def Diagnostic.isProjectWide
    (x : Diagnostic) : Bool :=
  x.scope == some .project

namespace Analyzer

section

variable {a : Analyzer}
variable {p : Project}

/- A file without a unit has no results of rules for files. -/
theorem fileDiagnostics_of_not_contains
    {s : SourceSet}
    {path : RawText}
    (hNew : s.contains path = false) :
    a.fileDiagnostics s (Path.relative s.root path) = [] := by
  unfold SourceSet.contains at hNew
  rw [Option.isSome_eq_false_iff, Option.isNone_iff_eq_none]
    at hNew
  unfold fileDiagnostics Engine.foundAt
  rw [hNew]
  rfl

/- All but the results of rules for projects. -/
theorem filter_get_fullStore
    (file : String) :
    ((a.fullStore p).get file).filter
        (fun x => !x.isProjectWide) =
      a.fileDiagnostics p.sources file := by
  have hFiles :
      (a.fileDiagnostics p.sources file).filter
          (fun x => !x.isProjectWide) =
        a.fileDiagnostics p.sources file := by
    apply List.filter_eq_self.mpr
    intro x hMem
    have hScope :=
      (Engine.mem_foundAt (List.mem_of_mem_filter hMem)).2
    simp [Diagnostic.isProjectWide, hScope]
  have hProject :
      (a.projectDiagnostics p file).filter
          (fun x => !x.isProjectWide) = [] := by
    apply List.filter_eq_nil_iff.mpr
    intro x hMem
    have hScope :=
      Engine.mem_runProject
        (List.mem_of_mem_filter (List.mem_of_mem_filter hMem))
    simp [Diagnostic.isProjectWide, hScope]
  rw [get_fullStore, List.filter_append, hFiles, hProject,
    List.append_nil]

/-
  Nothing merged at a file without results: the results of
  rules for projects are lost, and no others.
-/
theorem get_merge_foreign
    {changed : String}
    (hNone : a.fileDiagnostics p.sources changed = [])
    (file : String) :
    ((a.fullStore p).merge changed []).2.get file =
      ((a.fullStore p).get file).filter
        (fun x => !x.isProjectWide) := by
  have hOrdered : Store.Ordered (a.fullStore p).reports :=
    (Store.canonical_ofDiagnostics _).ordered
  rw [filter_get_fullStore, Store.get_merge hOrdered,
    get_fullStore, List.filter_append,
    filter_outlives_fileDiagnostics,
    filter_outlives_projectDiagnostics]
  split
  · next hSame => simp [← hSame, hNone]
  · simp

/- Some file loses a result just if there was one to lose. -/
theorem get_filter_eq_get_iff :
    (∀ file,
        ((a.fullStore p).get file).filter
            (fun x => !x.isProjectWide) =
          (a.fullStore p).get file) ↔
      ∀ x ∈ (a.analyze p).diagnostics,
        x.isProjectWide = false := by
  have hGet :
      ∀ file,
        (a.fullStore p).get file =
          (a.analyze p).diagnostics.filter
            (·.filePath == file) :=
    Store.get_ofDiagnostics _
  constructor
  · intro hKept x hMem
    have hThere : x ∈ (a.fullStore p).get x.filePath := by
      rw [hGet]
      exact List.mem_filter.mpr ⟨hMem, beq_self_eq_true _⟩
    rw [← hKept] at hThere
    simpa using List.of_mem_filter hThere
  · intro hFree file
    apply List.filter_eq_self.mpr
    intro x hMem
    rw [hGet] at hMem
    simp [hFree x (List.mem_of_mem_filter hMem)]

end

end Analyzer

------------------------------------------------------------
-- Responses About Foreign Files
------------------------------------------------------------

namespace Coordinator

section

variable {a : Analyzer}
variable {p : Project}
variable {d : Disk}
variable {path : RawText}

/- What a store makes of the response about a foreign file. -/
theorem apply_handle_foreign
    (s : Store)
    (hThere :
      d.isFile (Path.join a.root path.toText) = true)
    (hNew :
      p.sources.contains (Path.join a.root path.toText) = false)
    (hRefused :
      a.accepts (Path.join a.root path.toText) = false) :
    s.apply a.root (some path)
        ((holding a p).handle d (.fileChanged path.toText)).1 =
      .ok (s.merge (Path.relative a.root path) []) := by
  rcases told_handle a p d path.toText with
    ⟨r, q, hHandle, hTold⟩
  rcases hTold.eq_of_refused hThere hNew hRefused with
    ⟨_, rfl⟩
  rw [hHandle]
  rfl

/-
  A worker that is ready is told of a file that is neither in
  its project nor selected, and its response is taken into the
  store of a full scan.  The store keeps the results of rules
  for files and loses those of rules for projects, so nothing
  changes just if there are none of these.
-/
theorem apply_foreign_change
    {c : Coordinator}
    (hArises : Arises a c)
    (hReady : c.state = .ready)
    (hProject : c.project = some p)
    (hKey :
      Path.relative a.root (c.resolve path.toText) =
        Path.relative a.root path)
    (hThere : d.isFile (c.resolve path.toText) = true)
    (hNew : p.sources.contains (c.resolve path.toText) = false)
    (hRefused : a.accepts (c.resolve path.toText) = false) :
    ∃ touched t,
      (a.fullStore p).apply a.root (some path)
          (c.handle d (.fileChanged path.toText)).1 =
        .ok (touched, t) ∧
      (∀ file,
        t.get file =
          ((a.fullStore p).get file).filter
            (fun x => !x.isProjectWide)) ∧
      ((∀ file, t.get file = (a.fullStore p).get file) ↔
        ∀ x ∈ (a.analyze p).diagnostics,
          x.isProjectWide = false) := by
  rcases hArises.eq_holding hReady with ⟨q, rfl, hRoot⟩
  cases hProject
  have hNone :
      a.fileDiagnostics p.sources (Path.relative a.root path) =
        [] := by
    rw [← hKey, ← hRoot]
    exact Analyzer.fileDiagnostics_of_not_contains hNew
  have hGet := Analyzer.get_merge_foreign hNone
  have hApply :=
    apply_handle_foreign (a := a) (a.fullStore p) hThere hNew
      hRefused
  generalize (a.fullStore p).merge (Path.relative a.root path)
    [] = after at hGet hApply
  refine ⟨after.1, after.2, hApply, hGet, ?_⟩
  rw [← Analyzer.get_filter_eq_get_iff]
  simp only [hGet]

end

end Coordinator

------------------------------------------------------------
-- One File
------------------------------------------------------------

/- A rule for projects that reports files by their text. -/
def Rule.alarm : Rule :=
  { id := "alarm"
    category := .correctness
    severity := .error
    description := ""
    help := ""
    check :=
      .project
        (fun _ p =>
          { findings :=
              (p.sources.units.filter (·.source == "y")).map
                (fun u =>
                  ⟨u.relativePath, 1, 1, "alarm", none⟩) }) }

/- An analyzer with that rule. -/
def Analyzer.alarmed : Analyzer :=
  { root := "/r"
    config := { skipDefaultExcludes := true }
    selector := ⟨none, .empty⟩
    engine := ⟨[.alarm], {}⟩
    filter := .none
    warnings := [] }

theorem Analyzer.withRegistry_alarm :
    withRegistry "/r" { skipDefaultExcludes := true }
        ⟨[.alarm], [], []⟩ =
      .ok alarmed := by
  with_unfolding_all rfl

/- A root with one file. -/
def Disk.single
    (text : String) : Disk :=
  ⟨.directory
    [("r", .directory [("a.ts", .file (.text text))])]⟩

/- The project of a root with one file. -/
def Project.single
    (text : String) : Project :=
  .ofSources
    ((SourceSet.empty "/r").insert
      (.ofSource "/r" "/r/a.ts" text))

theorem Analyzer.loadProject_single
    (text : String) :
    alarmed.loadProject (.single text) =
      .ok (.single text) := by
  have hTop : (Disk.single text).isDirectory "/r" = true := by
    with_unfolding_all rfl
  have hWalk :
      (Disk.single text).filesBelow sourceWalk "/r" =
        [[RawText.ofText "a.ts"]] := by
    with_unfolding_all rfl
  have hPath : Path.below "/r" ["a.ts"] = "/r/a.ts" := by
    with_unfolding_all rfl
  have hRead :
      (Disk.single text).read "/r/a.ts" = .ok text := by
    with_unfolding_all rfl
  have hAccepts : alarmed.accepts "/r/a.ts" = true := by
    decide +kernel
  have hSelector := (of_withRegistry withRegistry_alarm).2
  have hFiles :
      alarmed.scanFiles (.single text) =
        [RawText.ofText "/r/a.ts"] := by
    unfold scanFiles
    rw [show alarmed.root = "/r" from rfl, hWalk,
      List.map_cons, List.map_nil, hPath]
    exact List.filter_cons_of_pos hAccepts
  have hIngest :
      SourceSet.ingest (.single text) "/r" ["/r/a.ts"] =
        .ok
          ((SourceSet.empty "/r").insert
            (.ofSource "/r" "/r/a.ts" text)) := by
    simp [SourceSet.ingest, SourceUnit.load, hRead, bind,
      Except.bind, pure, Except.pure]
  rw [loadProject_eq_ok_iff_ingest hSelector, hFiles]
  exact ⟨hTop, _, hIngest, rfl⟩

namespace Coordinator

/- A worker that starts at a root with one file. -/
theorem start_single
    (text : String) :
    ((fresh .alarmed).start (.single text)).2 =
      holding .alarmed (.single text) := by
  unfold start fresh
  rw [Analyzer.loadProject_single]
  rfl

/- A page of notes is saved where there was no alarm. -/
theorem apply_foreign_change_quiet :
    let d :=
      (Disk.single "x").write "/r/notes.md" (.file (.text "z"))
    let c := holding .alarmed (.single "x")
    ((fresh .alarmed).start (.single "x")).2 = c ∧
      ∃ touched t,
        (Analyzer.alarmed.fullStore (.single "x")).apply "/r"
            (some "/r/notes.md")
            (c.handle d (.fileChanged "/r/notes.md")).1 =
          .ok (touched, t) ∧
        ∀ file,
          t.get file =
            (Analyzer.alarmed.fullStore (.single "x")).get
              file := by
  intro d c
  have hStart :
      ((fresh .alarmed).start (.single "x")).2 = c :=
    start_single "x"
  have hArises : Arises .alarmed c := by
    rw [← hStart]
    exact Arises.fresh.start (.single "x")
  have hPath : c.resolve "/r/notes.md" = "/r/notes.md" := by
    decide +kernel
  have hText := RawText.toText_ofText "/r/notes.md"
  have hSaved :
      c.resolve (RawText.ofText "/r/notes.md").toText =
        RawText.ofText "/r/notes.md" := by
    rw [hText, hPath]
  rcases apply_foreign_change (d := d) hArises rfl rfl
      (congrArg (Path.relative "/r") hSaved)
      (by rw [hSaved]; decide +kernel)
      (by rw [hSaved]; decide +kernel)
      (by rw [hSaved]; decide +kernel) with
    ⟨touched, t, hApply, _, hSame⟩
  rw [hText] at hApply
  refine ⟨hStart, touched, t, hApply, hSame.mpr ?_⟩
  decide +kernel

/- A page of notes is saved, and an alarm is forgotten. -/
theorem apply_foreign_change_forgets :
    let d :=
      (Disk.single "y").write "/r/notes.md" (.file (.text "z"))
    let c := holding .alarmed (.single "y")
    ((fresh .alarmed).start (.single "y")).2 = c ∧
      d.isFile "/r/notes.md" = true ∧
      (Project.single "y").sources.contains "/r/notes.md" =
        false ∧
      Analyzer.alarmed.accepts "/r/notes.md" = false ∧
      ∃ touched t,
        (Analyzer.alarmed.fullStore (.single "y")).apply "/r"
            (some "/r/notes.md")
            (c.handle d (.fileChanged "/r/notes.md")).1 =
          .ok (touched, t) ∧
        t.get "a.ts" ≠
          (Analyzer.alarmed.fullStore (.single "y")).get
            "a.ts" := by
  intro d c
  have hPath :
      Path.join "/r" "/r/notes.md" = "/r/notes.md" := by
    decide +kernel
  have hThere : d.isFile "/r/notes.md" = true := by
    decide +kernel
  have hNew :
      (Project.single "y").sources.contains "/r/notes.md" =
        false := by
    decide +kernel
  have hRefused :
      Analyzer.alarmed.accepts "/r/notes.md" = false := by
    decide +kernel
  refine ⟨start_single "y", hThere, hNew, hRefused,
    ((Analyzer.alarmed.fullStore (.single "y")).merge
      (Path.relative "/r" "/r/notes.md") []).1, _,
    apply_handle_foreign (a := .alarmed) (d := d) _ ?_ ?_ ?_,
    ?_⟩
  · exact hPath.symm ▸ hThere
  · exact hPath.symm ▸ hNew
  · exact hPath.symm ▸ hRefused
  · decide +kernel

end Coordinator

end ModuleLint
