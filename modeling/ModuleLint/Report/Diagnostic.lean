/-
  Problems that rules report.

  Key definitions include:
    * `Severity`, `Category`, `Scope`
    * `Diagnostic`
    * `RuleFailure`
    * `Summary`, `Summary.ofDiagnostics`
-/

namespace ModuleLint

------------------------------------------------------------
-- Kinds of Problems
------------------------------------------------------------

/- How bad a problem is. -/
inductive Severity where
  | error
  | warning
  | info
deriving DecidableEq, Repr, Inhabited

namespace Severity

/- Every severity. -/
def all : List Severity :=
  [error, warning, info]

/- The name of a severity. -/
def name : Severity → String
  | error => "error"
  | warning => "warning"
  | info => "info"

/- The severity of the given name. -/
def ofName?
    (s : String) : Option Severity :=
  all.find? (fun x => x.name == s)

end Severity

/- What kind of problem a rule looks for. -/
inductive Category where
  | security
  | performance
  | correctness
  | architecture
deriving DecidableEq, Repr, Inhabited

namespace Category

/- Every category. -/
def all : List Category :=
  [security, performance, correctness, architecture]

/- The name of a category. -/
def name : Category → String
  | security => "security"
  | performance => "performance"
  | correctness => "correctness"
  | architecture => "architecture"

/- The category of the given name. -/
def ofName?
    (s : String) : Option Category :=
  all.find? (fun x => x.name == s)

end Category

/- Whether a rule looks at one file or at the project. -/
inductive Scope where
  | file
  | project
deriving DecidableEq, Repr, Inhabited

namespace Scope

/- Every scope. -/
def all : List Scope :=
  [file, project]

/- The name of a scope. -/
def name : Scope → String
  | file => "file"
  | project => "project"

/- The scope of the given name. -/
def ofName?
    (s : String) : Option Scope :=
  all.find? (fun x => x.name == s)

end Scope

------------------------------------------------------------
-- Diagnostics
------------------------------------------------------------

/-
  A problem at a place of a file.  The path is seen from the
  root that was scanned.
-/
structure Diagnostic where
  filePath : String
  line : Nat
  column : Nat
  message : String
  help : String
  rule : String
  category : Category
  severity : Severity
  scope : Option Scope
deriving DecidableEq, Repr, Inhabited

/-
  A rule that could not be run.  Rules for the whole project
  have no file.
-/
structure RuleFailure where
  ruleId : String
  filePath : Option String
  error : String
deriving DecidableEq, Repr, Inhabited

------------------------------------------------------------
-- Summaries
------------------------------------------------------------

/- How many diagnostics there are of each kind. -/
structure Summary where
  total : Nat
  errors : Nat
  warnings : Nat
  infos : Nat
  byCategory : List (Category × Nat)
deriving DecidableEq, Repr, Inhabited

/- How many diagnostics have a severity. -/
def countSeverity
    (s : Severity)
    (ds : List Diagnostic) : Nat :=
  ds.countP (fun d => d.severity == s)

/- How many diagnostics are in a category. -/
def countCategory
    (c : Category)
    (ds : List Diagnostic) : Nat :=
  ds.countP (fun d => d.category == c)

/- The summary of a list of diagnostics. -/
def Summary.ofDiagnostics
    (ds : List Diagnostic) : Summary :=
  { total := ds.length
    errors := countSeverity .error ds
    warnings := countSeverity .warning ds
    infos := countSeverity .info ds
    byCategory :=
      Category.all.map (fun c => (c, countCategory c ds)) }

end ModuleLint
