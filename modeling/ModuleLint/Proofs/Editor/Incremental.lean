import ModuleLint.Scan.Analyzer
import ModuleLint.Proofs.Editor.Store
import ModuleLint.Proofs.Rules.Engine

/-
  Merging the results of scans after changes.

  After the change of a file, only the rules for files on that
  file and the rules for projects run again.  Merged into a
  store that was up to date, their results lead to the very
  store that a full scan would lead to.

  Main declarations:
    * `Project.edit`, `Analyzer.follow`
    * `Analyzer.get_fullStore`
    * `Analyzer.merge_analyzeOne`
    * `Analyzer.foldl_follow_eq_fullStore`
-/

namespace ModuleLint

------------------------------------------------------------
-- Edits
------------------------------------------------------------

/-
  A project with a unit put in, or in place of the one of its
  path.  The modules are brought together anew.
-/
def Project.edit
    (p : Project)
    (u : SourceUnit) : Project :=
  .ofSources (p.sources.insert u)

namespace Analyzer

/- The store that a full scan leads to. -/
def fullStore
    (a : Analyzer)
    (p : Project) : Store :=
  (Store.empty.replaceAll (a.analyze p).diagnostics).2

/-
  An edit of a project, after which the results for the file
  are merged into the store.
-/
def follow
    (a : Analyzer)
    (now : Project × Store)
    (u : SourceUnit) : Project × Store :=
  let p := now.1.edit u
  ( p,
    (now.2.merge u.relativePath
      (a.analyzeOne p u).diagnostics).2 )

------------------------------------------------------------
-- The Diagnostics of a File
------------------------------------------------------------

/- What rules for files find at a path, less what is dropped. -/
def fileDiagnostics
    (a : Analyzer)
    (s : SourceSet)
    (file : String) : List Diagnostic :=
  a.filter.apply (a.engine.foundAt s file)

/- What rules for projects find in a file. -/
def projectDiagnostics
    (a : Analyzer)
    (p : Project)
    (file : String) : List Diagnostic :=
  a.filter.apply
    ((a.engine.runProject p).diagnostics.filter
      (·.filePath == file))

theorem filter_apply_comm
    (f : Filter)
    (ds : List Diagnostic)
    (keep : Diagnostic → Bool) :
    (f.apply ds).filter keep = f.apply (ds.filter keep) := by
  simp only [Filter.apply, List.filter_filter, Bool.and_comm]

theorem filter_apply_append
    (f : Filter)
    (ds es : List Diagnostic) :
    f.apply (ds ++ es) = f.apply ds ++ f.apply es :=
  List.filter_append ..

/- After a full scan, rules for files come first. -/
theorem get_fullStore
    (a : Analyzer)
    (p : Project)
    (file : String) :
    (a.fullStore p).get file =
      a.fileDiagnostics p.sources file ++
        a.projectDiagnostics p file := by
  calc
    (a.fullStore p).get file
        = (a.analyze p).diagnostics.filter
            (·.filePath == file) :=
          Store.get_ofDiagnostics _ file
    _ = a.filter.apply
          (((a.engine.runFiles p.sources.units).diagnostics ++
            (a.engine.runProject p).diagnostics).filter
              (·.filePath == file)) :=
        filter_apply_comm _ _ _
    _ = a.fileDiagnostics p.sources file ++
          a.projectDiagnostics p file := by
        rw [List.filter_append, filter_apply_append,
          Engine.filter_runFiles]
        rfl

/- After a change, only the file changed has file results. -/
theorem filter_analyzeOne
    (a : Analyzer)
    (p : Project)
    (u : SourceUnit)
    (file : String) :
    (a.analyzeOne p u).diagnostics.filter
        (·.filePath == file) =
      (if u.relativePath = file then
        a.filter.apply (a.engine.runFile u).diagnostics
      else []) ++
        a.projectDiagnostics p file := by
  calc
    (a.analyzeOne p u).diagnostics.filter
        (·.filePath == file)
        = a.filter.apply
          (((a.engine.runFiles [u]).diagnostics ++
            (a.engine.runProject p).diagnostics).filter
              (·.filePath == file)) :=
          filter_apply_comm _ _ _
    _ = (if u.relativePath = file then
          a.filter.apply (a.engine.runFile u).diagnostics
        else []) ++ a.projectDiagnostics p file := by
        rw [List.filter_append, filter_apply_append,
          Engine.diagnostics_runFiles_cons,
          Engine.diagnostics_runFiles_nil, List.append_nil,
          Engine.filter_runFile, apply_ite a.filter.apply]
        rfl

------------------------------------------------------------
-- What Outlives a Change
------------------------------------------------------------

/- File results outlive the change of another file. -/
theorem filter_outlives_fileDiagnostics
    (a : Analyzer)
    (s : SourceSet)
    (changed file : String) :
    (a.fileDiagnostics s file).filter
        (Store.outlives changed) =
      if changed = file then []
      else a.fileDiagnostics s file := by
  split
  · next hSame =>
      apply List.filter_eq_nil_iff.mpr
      intro d hMem hOutlives
      have hFile :=
        (Engine.mem_foundAt (List.mem_of_mem_filter hMem)).1
      simp [Store.outlives, hFile, hSame] at hOutlives
  · next hOther =>
      apply List.filter_eq_self.mpr
      intro d hMem
      rcases Engine.mem_foundAt (List.mem_of_mem_filter hMem)
        with ⟨hFile, hScope⟩
      simp [Store.outlives, hFile, hScope, Ne.symm hOther]

/- Project results never outlive a change. -/
theorem filter_outlives_projectDiagnostics
    (a : Analyzer)
    (p : Project)
    (changed file : String) :
    (a.projectDiagnostics p file).filter
        (Store.outlives changed) = [] := by
  apply List.filter_eq_nil_iff.mpr
  intro d hMem hOutlives
  have hScope : d.scope = some .project :=
    Engine.mem_runProject
      (List.mem_of_mem_filter (List.mem_of_mem_filter hMem))
  simp [Store.outlives, hScope] at hOutlives

/- File results after an edit. -/
theorem fileDiagnostics_edit
    (a : Analyzer)
    (p : Project)
    (u : SourceUnit)
    (file : String) :
    a.fileDiagnostics (p.edit u).sources file =
      if u.relativePath = file then
        a.filter.apply (a.engine.runFile u).diagnostics
      else a.fileDiagnostics p.sources file := by
  split_ifs with hFile
  · rw [← hFile]
    exact congrArg a.filter.apply
      (a.engine.foundAt_insert_self p.sources u)
  · exact congrArg a.filter.apply
      (a.engine.foundAt_insert_of_ne p.sources
        (Ne.symm hFile))

------------------------------------------------------------
-- Merging Equals Scanning Again
------------------------------------------------------------

/-
  One edit: the merged store is that of a full scan.  The file
  edited loses everything and gets its own results back, and
  every other file loses just its project results.
-/
theorem merge_analyzeOne
    (a : Analyzer)
    (p : Project)
    (u : SourceUnit) :
    ((a.fullStore p).merge u.relativePath
        (a.analyzeOne (p.edit u) u).diagnostics).2 =
      a.fullStore (p.edit u) := by
  have hOrdered : Store.Ordered (a.fullStore p).reports :=
    (Store.canonical_ofDiagnostics _).ordered
  apply Store.eq_of_get_eq
  · exact Store.canonical_merge hOrdered _ _
  · exact Store.canonical_ofDiagnostics _
  · intro file
    rw [Store.get_merge hOrdered, get_fullStore,
      get_fullStore, filter_analyzeOne, List.filter_append,
      filter_outlives_fileDiagnostics,
      filter_outlives_projectDiagnostics,
      fileDiagnostics_edit]
    split_ifs with hFile
    · simp
    · simp

/-
  Any number of edits: following them one by one leads to the
  project after all of them, with the store of a full scan.
-/
theorem foldl_follow_eq_fullStore
    (a : Analyzer)
    (p : Project)
    (us : List SourceUnit) :
    us.foldl a.follow (p, a.fullStore p) =
      ( us.foldl Project.edit p,
        a.fullStore (us.foldl Project.edit p) ) := by
  induction us generalizing p with
  | nil => rfl
  | cons u us ih =>
      have hStep :
          a.follow (p, a.fullStore p) u =
            (p.edit u, a.fullStore (p.edit u)) :=
        Prod.ext rfl (merge_analyzeOne a p u)
      rw [List.foldl_cons, List.foldl_cons, hStep, ih]

end Analyzer

end ModuleLint
