import ModuleLint.CommandLine.Help
import ModuleLint.CommandLine.Listing
import ModuleLint.Worker.Hosted

/-
  What the program prints, and how it ends.

  Key definitions include:
    * `CommandFault`, `Output`
    * `Invocation.output`
    * `CommandLine.run`
-/

namespace ModuleLint

------------------------------------------------------------
-- Outputs
------------------------------------------------------------

/- What keeps a command from its end. -/
inductive CommandFault where
  | fault (cause : Fault)
  | noWorkerRoot (path : RawText) (cause : ReadFault)
  | noRoot (path : RawText) (cause : ReadFault)
  | notIngested (root : RawText)
  | client (cause : ClientFault)
deriving Repr, Inhabited

namespace CommandFault

/- The words for a fault. -/
def message : CommandFault → String
  | fault cause => cause.message
  | noWorkerRoot path _ =>
      "Cannot resolve worker root " ++ path.toText
  | noRoot path _ => "Cannot resolve " ++ path.toText
  | notIngested root => "worker failed to ingest " ++ root.toText
  | client cause => cause.message

/- The words for what is behind a fault. -/
def cause? : CommandFault → Option String
  | noWorkerRoot _ cause => some cause.message
  | noRoot _ cause => some cause.message
  | _ => none

/- The report of a fault. -/
def report
    (f : CommandFault) : String :=
  "Error: " ++ f.message ++
    (match f.cause? with
      | some cause => "\n\nCaused by:\n    " ++ cause
      | none => "") ++
    "\n"

end CommandFault

/-
  What is printed, and how the program ends.  The text may tell
  how many milliseconds went by.
-/
structure Output where
  exit : Nat := 0
  printed : Nat → String := fun _ => ""
  fault : Option CommandFault := none
  complaint : String := ""
deriving Inhabited

namespace Output

/- Text is printed. -/
def ofText
    (s : String) : Output :=
  { printed := fun _ => s }

/- A fault is reported, after some text. -/
def ofFault
    (f : CommandFault)
    (printed : String) : Output :=
  { exit := 1
    printed := fun _ => printed
    fault := some f
    complaint := f.report }

end Output

------------------------------------------------------------
-- Commands
------------------------------------------------------------

namespace Disk

/- The path of a directory as a person gave it. -/
def resolved
    (d : Disk)
    (here path : RawText) : Except ReadFault RawText :=
  d.canonical (Path.join here path)

/- The settings in a file as a person gave it. -/
def namedConfig
    (d : Disk)
    (here path : RawText) : Except ConfigFault Config :=
  match d.read (Path.join here path) with
  | .error cause => .error (.unreadable path.toText cause)
  | .ok text => Config.ofText path text

/- A directory to scan. -/
def scanRoot
    (d : Disk)
    (here path : RawText) : Except Fault RawText :=
  match d.resolved here path with
  | .ok root => .ok root
  | .error cause => .error (.scan path (.unreadable cause))

end Disk

/- A fault in settings is a fault. -/
def orFault
    {α : Type}
    (r : Except ConfigFault α) : Except Fault α :=
  r.mapError .configuration

namespace CommandLine

/- The least score that is asked for. -/
def checkedMinimum :
    Option Int → Except Fault (Option Nat)
  | none => .ok none
  | some n =>
      if 0 ≤ n && n ≤ 100 then .ok (some n.toNat)
      else .error (.badMinimum n)

/- A scan of a directory, with its analyzer. -/
def scanned
    (d : Disk)
    (here path : RawText)
    (config : Option String) :
    Except Fault (Analyzer × ScanResult) := do
  let root ← d.scanRoot here path
  let c ←
    orFault
      (match config with
        | some file => d.namedConfig here file
        | none => d.projectConfig root)
  let a ← orFault (Analyzer.make d root c)
  let r ← a.scan d
  .ok (a, r)

/- The score is too low. -/
def shortfall
    (score : Nat)
    (minimum : Option Nat) : Option String :=
  match minimum with
  | some n =>
      if score < n then
        some
          ("✗ score " ++ score.repr ++
            " is below --min-score " ++ n.repr ++ "\n")
      else
        none
  | none => none

/- The output of a scan. -/
def scan
    (d : Disk)
    (here path : RawText)
    (format : OutputFormat)
    (config : Option String)
    (minScore : Option Int) : Output :=
  let result := do
    let minimum ← checkedMinimum minScore
    let (a, r) ← scanned d here path config
    .ok (minimum, a, r)
  match result with
  | .error f => .ofFault (.fault f) ""
  | .ok (minimum, a, r) =>
      let printed : Nat → String :=
        match format with
        | .json => r.json
        | .text => r.text a.config.scoring
      match shortfall r.score minimum with
      | some complaint => { exit := 1, printed, complaint }
      | none => { printed }

/- The output of a listing of rules. -/
def rules
    (d : Disk)
    (here path : RawText) : Output :=
  let result := do
    let root ← d.scanRoot here path
    let c ← orFault (d.projectConfig root)
    .ok (root, c)
  match result with
  | .error f => .ofFault (.fault f) ""
  | .ok (root, c) => .ofText ((d.loadRegistry root c).listing c)

/- The root and the analyzer of a worker. -/
def workerFor
    (d : Disk)
    (here path : RawText) :
    Except CommandFault (RawText × Analyzer) :=
  match d.resolved here path with
  | .error cause => .error (.noWorkerRoot path cause)
  | .ok root =>
      match d.analyzer root none with
      | .error f => .error (.fault (.configuration f))
      | .ok a => .ok (root, a)

/- The output of a worker that hears the given lines. -/
def worker
    (d : Disk)
    (here path : RawText)
    (lines : List String) : Output :=
  match workerFor d here path with
  | .error f => .ofFault f ""
  | .ok (root, a) =>
      let (replies, state) := Service.converse a d lines
      let printed :=
        String.join (replies.map (fun r => r.line ++ "\n"))
      if state = .crashed then .ofFault (.notIngested root) printed
      else .ofText printed

/- The numbers of diagnostics in words. -/
def totals
    (ds : List Diagnostic) : String :=
  let s := Summary.ofDiagnostics ds
  s.errors.repr ++ " errors, " ++ s.warnings.repr ++
    " warnings, " ++ s.infos.repr ++ " info in workspace\n"

/- The client of a watch, with the root. -/
def watchFor
    (d : Disk)
    (here path : RawText) :
    Except CommandFault (RawText × Config × Client Hosted) :=
  match d.resolved here path with
  | .error cause => .error (.noRoot path cause)
  | .ok root =>
      match d.projectConfig root with
      | .error f => .error (.fault (.configuration f))
      | .ok c =>
          match
            (Client.start (.shared (some c))).run.run
              (.idle root, d) with
          | (.ok (), client, _) => .ok (root, c, client)
          | (.error f, _, _) => .error (.client f)

/- What a watch prints before the first change. -/
def watch
    (d : Disk)
    (here path : RawText) : Output :=
  match watchFor d here path with
  | .error f => .ofFault f ""
  | .ok (root, c, client) =>
      match
        (Client.request (.shared (some c)) .fullScan).run.run
          (client, d) with
      | (.error f, _, _) => .ofFault (.client f) ""
      | (.ok response, _, _) =>
          let ds :=
            match response with
            | .result ds _ _ _ => ds
            | _ => []
          .ofText
            (Listing.grouped ds ++ totals ds ++
              "\nWatching " ++ root.toText ++ " for changes...\n" ++
              "  → Save a file to trigger analysis\n" ++
              "  → Press Ctrl+C to stop\n\n")

/- The output of an invocation. -/
def output
    (d : Disk)
    (here : RawText)
    (lines : List String)
    (i : Invocation) : Output :=
  match i.command with
  | .scan format config minScore =>
      scan d here i.path format config minScore
  | .rules => rules d here i.path
  | .watch => watch d here i.path
  | .worker => worker d here i.path lines
  | .lsp => {}

/- The output where nothing is to be done. -/
def refused : Refusal → Output
  | .usage => { exit := 2 }
  | .help command => .ofText (Help.text command)
  | .version => .ofText Help.version

/- The output of the program for its arguments. -/
def run
    (d : Disk)
    (here : RawText)
    (args lines : List String) : Output :=
  match Invocation.ofArguments args with
  | .error r => refused r
  | .ok i => output d here lines i

end CommandLine

end ModuleLint
