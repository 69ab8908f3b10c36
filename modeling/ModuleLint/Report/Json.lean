import ModuleLint.Report.Diagnostic
import ModuleLint.Json.Decode

/-
  Diagnostics as JSON.

  Key definitions include:
    * `Diagnostic.toJson`, `Diagnostic.ofJson?`
    * `RuleFailure.toJson`, `RuleFailure.ofJson?`
    * `Summary.toJson`
-/

namespace ModuleLint

open Json (Row row? asList? asNat32? asString? asEnum?
  asNullable?)

------------------------------------------------------------
-- Members That May Be Left Out
------------------------------------------------------------

/- A member that is written only if there is a value. -/
def Json.member?
    {α : Type}
    (name : String)
    (f : α → Json) : Option α → List (String × Json)
  | some a => [(name, f a)]
  | none => []

------------------------------------------------------------
-- Diagnostics
------------------------------------------------------------

namespace Diagnostic

/- A diagnostic as JSON. -/
def toJson
    (d : Diagnostic) : Json :=
  .object
    ([ ("filePath", .string d.filePath), ("line", .nat d.line),
       ("column", .nat d.column),
       ("message", .string d.message), ("help", .string d.help),
       ("rule", .string d.rule),
       ("category", .string d.category.name),
       ("severity", .string d.severity.name) ] ++
      Json.member? "scope" (fun s => .string s.name) d.scope)

/- The names of the members of a diagnostic. -/
def memberNames : List String :=
  [ "filePath", "line", "column", "message", "help", "rule",
    "category", "severity", "scope" ]

/- The diagnostic that JSON stands for. -/
def ofJson?
    (j : Json) : Option Diagnostic := do
  let r ← row? memberNames j
  some
    { filePath := ← r.required "filePath" asString?
      line := ← r.required "line" asNat32?
      column := ← r.required "column" asNat32?
      message := ← r.required "message" asString?
      help := ← r.required "help" asString?
      rule := ← r.required "rule" asString?
      category :=
        ← r.required "category" (asEnum? Category.ofName?)
      severity :=
        ← r.required "severity" (asEnum? Severity.ofName?)
      scope :=
        ← r.defaulted "scope"
            (asNullable? (asEnum? Scope.ofName?)) none }

end Diagnostic

------------------------------------------------------------
-- Failures of Rules
------------------------------------------------------------

namespace RuleFailure

/- A failure of a rule as JSON. -/
def toJson
    (f : RuleFailure) : Json :=
  .object
    ([("ruleId", .string f.ruleId)] ++
      Json.member? "filePath" .string f.filePath ++
      [("error", .string f.error)])

/- The failure of a rule that JSON stands for. -/
def ofJson?
    (j : Json) : Option RuleFailure := do
  let r ← row? ["ruleId", "filePath", "error"] j
  some
    { ruleId := ← r.required "ruleId" asString?
      filePath :=
        ← r.defaulted "filePath" (asNullable? asString?) none
      error := ← r.required "error" asString? }

end RuleFailure

------------------------------------------------------------
-- Summaries
------------------------------------------------------------

/- A summary as JSON. -/
def Summary.toJson
    (s : Summary) : Json :=
  .object
    [ ("total", .nat s.total), ("errors", .nat s.errors),
      ("warnings", .nat s.warnings), ("info", .nat s.infos),
      ("byCategory",
        .object
          (s.byCategory.map (fun p => (p.1.name, .nat p.2)))) ]

end ModuleLint
