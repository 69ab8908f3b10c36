import ModuleLint.Text.Quoted
import ModuleLint.Worker.Message

/-
  Responses in words, for a message about a response that was
  not expected.

  Key definitions include:
    * `Response.shown`
-/

namespace ModuleLint

------------------------------------------------------------
-- Shapes
------------------------------------------------------------

namespace Text

/- A name with its first letter in upper case. -/
def capitalized
    (s : String) : String :=
  match s.toList with
  | [] => ""
  | c :: cs => String.ofList (c.toUpper :: cs)

/- A list in words. -/
def shownList
    (items : List String) : String :=
  "[" ++ joinWith ", " items ++ "]"

/- A value that may be missing in words. -/
def shownOption
    {α : Type}
    (f : α → String) : Option α → String
  | none => "None"
  | some a => "Some(" ++ f a ++ ")"

/- A record in words. -/
def shownRecord
    (name : String)
    (fields : List (String × String)) : String :=
  name ++ " \x7b " ++
    joinWith ", " (fields.map (fun f => f.1 ++ ": " ++ f.2)) ++
    " \x7d"

end Text

open Text

------------------------------------------------------------
-- Responses
------------------------------------------------------------

/- A diagnostic in words. -/
def Diagnostic.shown
    (d : Diagnostic) : String :=
  shownRecord "Diagnostic"
    [ ("file_path", quoted d.filePath),
      ("line", d.line.repr),
      ("column", d.column.repr),
      ("message", quoted d.message),
      ("help", quoted d.help),
      ("rule", quoted d.rule),
      ("category", capitalized d.category.name),
      ("severity", capitalized d.severity.name),
      ("scope",
        shownOption (fun s => capitalized s.name) d.scope) ]

/- The failure of a rule in words. -/
def RuleFailure.shown
    (f : RuleFailure) : String :=
  shownRecord "RuleErrorInfo"
    [ ("rule_id", quoted f.ruleId),
      ("file_path", shownOption quoted f.filePath),
      ("error", quoted f.error) ]

/- A response in words. -/
def Response.shown : Response → String
  | ready => "Ready"
  | result diagnostics elapsed kind failures =>
      shownRecord "Result"
        [ ("diagnostics",
            shownList (diagnostics.map Diagnostic.shown)),
          ("elapsed_ms", elapsed.repr),
          ("scan_type", capitalized kind.name),
          ("rule_errors",
            shownList (failures.map RuleFailure.shown)) ]
  | error message =>
      shownRecord "Error" [("message", quoted message)]
  | missing path =>
      shownRecord "Missing" [("file_path", quoted path)]

end ModuleLint
