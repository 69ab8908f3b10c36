import ModuleLint.Report.Filter
import ModuleLint.Rules.Directory
import ModuleLint.Rules.Engine
import ModuleLint.Scan.ProjectInfo
import ModuleLint.Settings.Decode
import ModuleLint.Sources.Modules
import ModuleLint.Sources.Selector

/-
  Scanning a project.

  Files are read, their modules are brought together, rules
  run, diagnostics are filtered and a score is given.

  Key definitions include:
    * `Analyzer`, `Analyzer.make`
    * `Analyzer.loadProject`
    * `Analyzer.analyze`, `Analyzer.analyzeOne`
    * `ScanResult`, `Analyzer.scan`, `Disk.scan`
-/

namespace ModuleLint

------------------------------------------------------------
-- Analyzers
------------------------------------------------------------

/- Everything that is fixed before files are read. -/
structure Analyzer where
  root : RawText
  config : Config
  selector : Selector
  engine : Engine
  filter : Filter
  warnings : List MergeWarning

namespace Analyzer

/- The analyzer for a root with the given rules. -/
def withRegistry
    (root : RawText)
    (c : Config)
    (g : Registry) : Except ConfigFault Analyzer := do
  c.validate
  let selector ← Selector.ofConfig c
  let filter ← Filter.ofLists c.ignore
  .ok
    { root
      config := c
      selector
      engine := ⟨g.enabled c, c.ruleSettings⟩
      filter
      warnings := g.warnings }

/- The analyzer for a root with the rules that are set. -/
def make
    (d : Disk)
    (root : RawText)
    (c : Config) : Except ConfigFault Analyzer :=
  withRegistry root c (d.loadRegistry root c)

/- The file belongs to the scan. -/
def accepts
    (a : Analyzer)
    (path : RawText) : Bool :=
  a.selector.accepts a.root path

/- All source files below the root. -/
def loadProject
    (a : Analyzer)
    (d : Disk) : Except Fault Project :=
  if d.isDirectory a.root then
    match d.sourceFiles a.root a.config with
    | .error e => .error (.configuration e)
    | .ok files =>
        match SourceSet.ingest d a.root files with
        | .error e => .error e
        | .ok s => .ok (.ofSources s)
  else
    .error (.scan a.root .noDirectory)

/- The results that are not filtered out. -/
def finish
    (a : Analyzer)
    (f : Findings) : Findings :=
  { f with diagnostics := a.filter.apply f.diagnostics }

/- All rules on the whole project. -/
def analyze
    (a : Analyzer)
    (p : Project) : Findings :=
  a.finish (a.engine.run p)

/- Rules for files on one file, and all rules for projects. -/
def analyzeOne
    (a : Analyzer)
    (p : Project)
    (u : SourceUnit) : Findings :=
  a.finish ((a.engine.runFiles [u]).append (a.engine.runProject p))

/- The score of diagnostics. -/
def score
    (a : Analyzer)
    (ds : List Diagnostic)
    (files : Nat) : Nat :=
  a.config.scoring.value ds files

end Analyzer

------------------------------------------------------------
-- Scans
------------------------------------------------------------

/- Everything that a scan brings to light. -/
structure ScanResult where
  score : Nat
  findings : Findings
  info : ProjectInfo
  summary : Summary
  project : Project
  warnings : List MergeWarning

/- A score with its grade as JSON. -/
def scoreJson
    (value : Nat) : Json :=
  .object
    [ ("value", .nat value),
      ("label", .string (Grade.ofValue value).name) ]

namespace ScanResult

/- The members of a result as JSON. -/
def members
    (r : ScanResult) : List (String × Json) :=
  [ ("score", scoreJson r.score),
    ("diagnostics",
      .array (r.findings.diagnostics.map Diagnostic.toJson)),
    ("project", r.info.toJson),
    ("summary", r.summary.toJson),
    ("ruleErrors",
      .array (r.findings.failures.map RuleFailure.toJson)) ]

end ScanResult

namespace Analyzer

/- A scan of all files. -/
def scan
    (a : Analyzer)
    (d : Disk) : Except Fault ScanResult := do
  let p ← a.loadProject d
  let findings := a.analyze p
  let files := p.sources.size
  .ok
    { score := a.score findings.diagnostics files
      findings
      info := d.projectInfo a.root files p.graph.size
      summary := .ofDiagnostics findings.diagnostics
      project := p
      warnings := a.warnings }

end Analyzer

------------------------------------------------------------
-- Settings on Disk
------------------------------------------------------------

namespace Disk

/- The settings in a file. -/
def configFile
    (d : Disk)
    (path : RawText) : Except ConfigFault Config :=
  match d.read path with
  | .error cause => .error (.unreadable path.toText cause)
  | .ok text => Config.ofText path text

/- The settings of a project. -/
def projectConfig
    (d : Disk)
    (root : RawText) : Except ConfigFault Config :=
  match Config.fileNames.find?
      (fun name : String =>
        d.hasEntry (Path.join root name)) with
  | some name => d.configFile (Path.join root name)
  | none => .ok {}

/- A scan of a directory, with the settings found there. -/
def scan
    (d : Disk)
    (path : RawText)
    (config : Option Config) : Except Fault ScanResult :=
  match d.canonical path with
  | .error cause => .error (.scan path (.unreadable cause))
  | .ok root =>
      let config : Except ConfigFault Config :=
        match config with
        | some c => .ok c
        | none => d.projectConfig root
      match config with
      | .error e => .error (.configuration e)
      | .ok c =>
          match Analyzer.make d root c with
          | .error e => .error (.configuration e)
          | .ok a => a.scan d

end Disk

end ModuleLint
