import ModuleLint.Script.Parse
import ModuleLint.Facts.Walk
import ModuleLint.Facts.Json
import ModuleLint.Json.Reader
import ModuleLint.Json.Writer
import ModuleLint.Json.Decode
import ModuleLint.Path.Basic
import ModuleLint.Report.Json
import ModuleLint.Score.Policy
import ModuleLint.Modules.Cycle
import ModuleLint.Toml.Reader
import ModuleLint.Disk.Walk
import ModuleLint.Scan.Analyzer
import ModuleLint.Editor.Server
import ModuleLint.Worker.Scripted
import ModuleLint.Proofs.Worker.Scripted
import ModuleLint.CommandLine.Run
import ModuleLint.Main
import ModuleLint.Proofs.Editor.Store
import ModuleLint.Proofs.Rules.Engine
import ModuleLint.Proofs.Editor.Incremental
import ModuleLint.Proofs.Worker.Sync
import ModuleLint.Proofs.Worker.Loop
import ModuleLint.Proofs.Worker.Change
import ModuleLint.Proofs.Worker.Client
import ModuleLint.Proofs.Worker.Answers
import ModuleLint.Proofs.Editor.Foreign
import ModuleLint.Proofs.Editor.Calls
import ModuleLint.Proofs.Modules.Cycles
import ModuleLint.Proofs.Worker.Lifecycle
import ModuleLint.Proofs.Rules.Isolation
import ModuleLint.Proofs.Scan.Switch
import ModuleLint.Proofs.Editor.Shown
import ModuleLint.Proofs.Worker.Wire
import ModuleLint.Proofs.Rules.Failure
import ModuleLint.Proofs.Scan.Slice
import ModuleLint.Proofs.Rules.Registry
import ModuleLint.Proofs.Rules.Merge
import ModuleLint.Proofs.Scan.Provenance
import ModuleLint.Proofs.Modules.Acyclic
import ModuleLint.Proofs.Modules.Wiring
import ModuleLint.Proofs.Modules.Component
import ModuleLint.Proofs.Modules.Declared
import ModuleLint.Proofs.Facts.Recount
import ModuleLint.Proofs.Facts.Classes
import ModuleLint.Proofs.Facts.Wrapping
import ModuleLint.Proofs.Editor.Published
import ModuleLint.Proofs.Worker.Pool
import ModuleLint.Proofs.Score.Value
import ModuleLint.Proofs.Rules.Providers
import ModuleLint.Proofs.Scan.Guard
import ModuleLint.Proofs.Sources.Shunned
import ModuleLint.Proofs.Script.FirstFault
import ModuleLint.Proofs.Text.Place
import ModuleLint.Proofs.Editor.Position
