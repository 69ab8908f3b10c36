import ModuleLint.Json.Writer
import ModuleLint.Report.Diagnostic

/-
  Diagnostics as an editor takes them.

  Lines and columns are counted from zero, and each diagnostic
  marks one character.

  Key definitions include:
    * `Marker`, `Marker.ofDiagnostic`
    * `Marker.toJson`
-/

namespace ModuleLint

/- A place in a text, counted from zero. -/
structure TextPosition where
  line : Nat
  character : Nat
deriving DecidableEq, Repr, Inhabited

/- A diagnostic as an editor takes it. -/
structure Marker where
  start : TextPosition
  stop : TextPosition
  severity : Nat
  code : String
  source : String
  message : String
deriving DecidableEq, Repr, Inhabited

/- A place as JSON. -/
def TextPosition.toJson
    (p : TextPosition) : Json :=
  .object
    [("line", .nat p.line), ("character", .nat p.character)]

/- The number of a severity. -/
def Severity.rank : Severity → Nat
  | error => 1
  | warning => 2
  | info => 3

namespace Marker

/- The marker of a diagnostic. -/
def ofDiagnostic
    (d : Diagnostic) : Marker :=
  let line := d.line - 1
  let column := d.column - 1
  { start := ⟨line, column⟩
    stop := ⟨line, column + 1⟩
    severity := d.severity.rank
    code := d.rule
    source := "nestlint"
    message :=
      if d.help.isEmpty then d.message
      else d.message ++ "\n" ++ d.help }

/- A marker as JSON. -/
def toJson
    (m : Marker) : Json :=
  .object
    [ ("range",
        .object
          [("start", m.start.toJson), ("end", m.stop.toJson)]),
      ("severity", .nat m.severity),
      ("code", .string m.code),
      ("source", .string m.source),
      ("message", .string m.message) ]

end Marker

end ModuleLint
