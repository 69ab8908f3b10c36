import ModuleLint.Path.Basic
import ModuleLint.Worker.Message

/-
  The diagnostics that an editor shows.

  They are kept file by file.  Each change of the store names the
  files whose diagnostics have to be shown anew.

  Key definitions include:
    * `Store`, `Store.get`, `Store.all`
    * `Store.replaceAll`, `Store.merge`, `Store.clear`
    * `Store.apply`
-/

namespace ModuleLint

------------------------------------------------------------
-- Names in Order
------------------------------------------------------------

namespace Text

/- One more name in a list of names in order. -/
def insertName
    (name : String) : List String → List String
  | [] => [name]
  | n :: ns =>
      if name < n then name :: n :: ns
      else if name == n then n :: ns
      else n :: insertName name ns

/- Names in order, each of them once. -/
def sortedNames
    (names : List String) : List String :=
  names.foldl (fun sorted n => insertName n sorted) []

end Text

------------------------------------------------------------
-- Stores
------------------------------------------------------------

/- The diagnostics of a file. -/
structure FileReport where
  file : String
  diagnostics : List Diagnostic
deriving DecidableEq, Repr, Inhabited

/- The diagnostics of files, in the order of their names. -/
structure Store where
  reports : List FileReport
deriving DecidableEq, Repr, Inhabited

namespace Store

/- No diagnostics. -/
def empty : Store :=
  ⟨[]⟩

/- The diagnostics of a file. -/
def get
    (s : Store)
    (file : String) : List Diagnostic :=
  match s.reports.find? (fun r => r.file == file) with
  | some r => r.diagnostics
  | none => []

/- All diagnostics, file by file. -/
def all
    (s : Store) : List Diagnostic :=
  s.reports.flatMap (·.diagnostics)

/- The files that have diagnostics. -/
def files
    (s : Store) : List String :=
  s.reports.map (·.file)

/- A diagnostic put after the others of its file. -/
def place
    (d : Diagnostic) : List FileReport → List FileReport
  | [] => [⟨d.filePath, [d]⟩]
  | r :: rs =>
      if d.filePath < r.file then
        ⟨d.filePath, [d]⟩ :: r :: rs
      else if d.filePath == r.file then
        { r with diagnostics := r.diagnostics ++ [d] } :: rs
      else
        r :: place d rs

/- More diagnostics. -/
def addAll
    (s : Store)
    (ds : List Diagnostic) : Store :=
  ⟨ds.foldl (fun rs d => place d rs) s.reports⟩

/- The store of diagnostics. -/
def ofDiagnostics
    (ds : List Diagnostic) : Store :=
  empty.addAll ds

------------------------------------------------------------
-- Changes
------------------------------------------------------------

/- A full scan replaces everything. -/
def replaceAll
    (s : Store)
    (ds : List Diagnostic) : List String × Store :=
  ( Text.sortedNames (s.files ++ ds.map (·.filePath)),
    ofDiagnostics ds )

/- A diagnostic that a scan after a change cannot affect. -/
def outlives
    (changed : String)
    (d : Diagnostic) : Bool :=
  d.filePath != changed && d.scope != some .project

/- The diagnostics that outlive the change of a file. -/
def survivors
    (changed : String)
    (r : FileReport) : FileReport :=
  { r with
    diagnostics := r.diagnostics.filter (outlives changed) }

/-
  A scan after the change of a file replaces the diagnostics of
  that file and all those of rules for projects.
-/
def merge
    (s : Store)
    (changed : String)
    (ds : List Diagnostic) : List String × Store :=
  let kept := s.reports.map (survivors changed)
  let affected :=
    s.reports.filter
      (fun r =>
        (survivors changed r).diagnostics.length !=
          r.diagnostics.length)
  let grown := addAll ⟨kept⟩ ds
  ( Text.sortedNames
      (affected.map (·.file) ++ [changed] ++
        ds.map (·.filePath)),
    ⟨grown.reports.filter
      (fun r => !r.diagnostics.isEmpty)⟩ )

/- A file that is gone has no diagnostics. -/
def clear
    (s : Store)
    (file : String) : List String × Store :=
  ([file], ⟨s.reports.filter (fun r => r.file != file)⟩)

/-
  A response of a worker, after the change of a file or after
  none.  Words of the worker about an error are handed on.
-/
def apply
    (s : Store)
    (root : RawText)
    (changed : Option RawText) :
    Response → Except String (List String × Store)
  | .result ds _ .incremental _ =>
      match changed with
      | some path => .ok (s.merge (Path.relative root path) ds)
      | none => .ok (s.replaceAll ds)
  | .result ds _ .full _ => .ok (s.replaceAll ds)
  | .missing path => .ok (s.clear (Path.relative root path))
  | .error message => .error message
  | .ready => .ok ([], s)

end Store

end ModuleLint
