import ModuleLint.Decimal.Fixed
import ModuleLint.Json.Writer
import ModuleLint.Scan.Analyzer

/-
  Results as they are printed.

  Key definitions include:
    * `Listing.grouped`
    * `ScanResult.text`, `ScanResult.json`
    * `Registry.listing`
-/

namespace ModuleLint

namespace Listing

------------------------------------------------------------
-- Diagnostics
------------------------------------------------------------

/- A line of text. -/
def line
    (s : String) : String :=
  s ++ "\n"

/- A text filled up with blanks to a width. -/
def padded
    (width : Nat)
    (s : String) : String :=
  s ++ String.ofList (List.replicate (width - s.length) ' ')

/- The words for a diagnostic. -/
def entry
    (d : Diagnostic) : String :=
  "  " ++ d.line.repr ++ ":" ++ d.column.repr ++ "  " ++
    d.severity.name ++ "  " ++ d.message ++ "  " ++ d.rule

/- A diagnostic stands at or before another one in its file. -/
def placedBefore
    (a b : Diagnostic) : Bool :=
  a.line < b.line || (a.line == b.line && a.column ≤ b.column)

/- The files of diagnostics in order, each of them once. -/
def filesOf
    (ds : List Diagnostic) : List String :=
  (((ds.map (·.filePath)).mergeSort (fun a b => a ≤ b))).eraseReps

/- The diagnostics of a file by their places. -/
def fileSection
    (ds : List Diagnostic)
    (file : String) : String :=
  let own :=
    (ds.filter (fun d => d.filePath == file)).mergeSort
      placedBefore
  line file ++ String.join (own.map (fun d => line (entry d))) ++
    "\n"

/- Diagnostics file by file. -/
def grouped
    (ds : List Diagnostic) : String :=
  String.join ((filesOf ds).map (fileSection ds))

/- The words for a warning. -/
def warning
    (w : MergeWarning) : String :=
  "warning: " ++ w.message

/- The words for the failure of a rule. -/
def failure
    (f : RuleFailure) : String :=
  "rule error: rule " ++ f.ruleId ++ " failed on " ++
    f.filePath.getD "<project>" ++ ": " ++ f.error

/- The words for the numbers of diagnostics. -/
def totals
    (s : Summary)
    (files : Nat) : String :=
  s.total.repr ++ " problems (" ++ s.errors.repr ++ " errors, " ++
    s.warnings.repr ++ " warnings, " ++ s.infos.repr ++
    " info) in " ++ files.repr ++ " files"

/- The words for the categories that have diagnostics. -/
def categories
    (p : Policy Float)
    (ds : List Diagnostic)
    (s : Summary) : List String :=
  (s.byCategory.filter (fun c => 0 < c.2)).map
    (fun c =>
      c.1.name ++ " " ++ c.2.repr ++ " (penalty " ++
        Decimal.fixed 1 (p.categoryCost ds c.1) ++ ")")

end Listing

------------------------------------------------------------
-- Scans
------------------------------------------------------------

namespace ScanResult

open Listing

/- A result in words. -/
def text
    (r : ScanResult)
    (p : Policy Float)
    (elapsed : Nat) : String :=
  let ds := r.findings.diagnostics
  let notes :=
    r.warnings.map warning ++ r.findings.failures.map failure
  let parts := categories p ds r.summary
  grouped ds ++
    String.join (notes.map line) ++
    (if notes.isEmpty then "" else "\n") ++
    line (totals r.summary r.info.fileCount) ++
    (if parts.isEmpty then ""
      else line (Text.joinWith "  " parts)) ++
    line
      ("\nScore: " ++ r.score.repr ++ "/100 " ++
        (Grade.ofValue r.score).name) ++
    (match r.info.frameworkVersion with
      | some version =>
          line
            ("@nestjs/core " ++ version ++ ", " ++
              r.info.moduleCount.repr ++ " modules, " ++
              elapsed.repr ++ "ms")
      | none => "")

/- A result as JSON on several lines. -/
def json
    (r : ScanResult)
    (elapsed : Nat) : String :=
  line
    (Json.object
      (r.members ++ [("elapsedMs", .nat elapsed)])).writeIndented

end ScanResult

------------------------------------------------------------
-- Rules
------------------------------------------------------------

namespace Registry

open Listing

/- A rule in words. -/
def entry
    (g : Registry)
    (c : Config)
    (r : Rule) : String :=
  let mark := if isOn c r then "●" else "○"
  let origin := if g.isBuiltin r.id then "" else " (external)"
  line
    (mark ++ " " ++ padded 48 r.id ++ " " ++
      padded 8 r.severity.name ++ " " ++
      padded 8 r.scope.name ++ origin) ++
    line ("    " ++ r.description)

/- All rules in words. -/
def listing
    (g : Registry)
    (c : Config) : String :=
  let on := (g.rules.filter (isOn c)).length
  String.join (g.rules.map (g.entry c)) ++
    String.join (g.warnings.map (fun w => line (warning w))) ++
    line
      ("\n" ++ on.repr ++ " of " ++ g.rules.length.repr ++
        " rules enabled")

end Registry

end ModuleLint
