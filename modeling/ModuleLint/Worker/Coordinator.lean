import ModuleLint.Scan.Analyzer
import ModuleLint.Worker.Message

/-
  The part of a worker that scans.

  It keeps the sources of a project from one request to the
  next.  A full scan reads all of them anew.  A change of a file
  reads that file, and runs the rules for files on it and the
  rules for projects on everything.

  Key definitions include:
    * `WorkerState`
    * `Coordinator`, `Coordinator.start`
    * `Coordinator.handle`
-/

namespace ModuleLint

------------------------------------------------------------
-- States
------------------------------------------------------------

/- What a worker is doing. -/
inductive WorkerState where
  | starting
  | ready
  | scanning
  | crashed
  | stopped
deriving DecidableEq, Repr, Inhabited

/- The name of a state. -/
def WorkerState.name : WorkerState → String
  | starting => "Starting"
  | ready => "Ready"
  | scanning => "Scanning"
  | crashed => "Crashed"
  | stopped => "Stopped"

/- A worker's sources, and what it is doing. -/
structure Coordinator where
  analyzer : Analyzer
  project : Option Project
  state : WorkerState

namespace Coordinator

/- A worker that has read nothing yet. -/
def fresh
    (a : Analyzer) : Coordinator :=
  { analyzer := a
    project := none
    state := .starting }

/- The number of files that have been read. -/
def fileCount
    (c : Coordinator) : Nat :=
  match c.project with
  | some p => p.sources.size
  | none => 0

/- All sources are read; a worker that cannot is finished. -/
def start
    (c : Coordinator)
    (d : Disk) : Except Fault Response × Coordinator :=
  match c.analyzer.loadProject d with
  | .ok p =>
      (.ok .ready, { c with project := some p, state := .ready })
  | .error f => (.error f, { c with state := .crashed })

/- A worker that takes no more requests. -/
def stop
    (c : Coordinator) : Coordinator :=
  { c with state := .stopped }

------------------------------------------------------------
-- Scans
------------------------------------------------------------

/- The response for results. -/
def respond
    (f : Findings)
    (kind : ScanKind) : Response :=
  .result f.diagnostics 0 kind f.failures

/- The file that a request is about. -/
def resolve
    (c : Coordinator)
    (path : String) : RawText :=
  Path.join c.analyzer.root path

/- A scan of everything. -/
def fullScan
    (c : Coordinator)
    (d : Disk) : Response × Coordinator :=
  match c.analyzer.loadProject d with
  | .ok p =>
      ( respond (c.analyzer.analyze p) .full,
        { c with project := some p } )
  | .error f => (.error f.message, c)

/- A file that is gone is taken out of the sources. -/
def dropFile
    (c : Coordinator)
    (p : Project)
    (path : RawText) : Coordinator :=
  if p.sources.contains path then
    { c with
      project := some (.ofSources (p.sources.remove path)) }
  else
    c

/- A file that is there is read once more. -/
def readFile
    (c : Coordinator)
    (p : Project)
    (d : Disk)
    (path : RawText) : Response × Coordinator :=
  match p.sources.reload d path with
  | .error f => (.error f.message, c)
  | .ok (u, sources) =>
      let q := Project.ofSources sources
      ( respond (c.analyzer.analyzeOne q u) .incremental,
        { c with project := some q } )

/- A scan after the change of a file. -/
def fileChanged
    (c : Coordinator)
    (d : Disk)
    (path : String) : Response × Coordinator :=
  match c.project with
  | none => (.error "workspace not loaded", c)
  | some p =>
      let file := c.resolve path
      if !d.isFile file then
        (.missing path, c.dropFile p file)
      else if
          !p.sources.contains file &&
            !c.analyzer.accepts file then
        (respond {} .incremental, c)
      else
        c.readFile p d file

------------------------------------------------------------
-- Requests
------------------------------------------------------------

/- The answer to a request while nothing else is done. -/
def process
    (c : Coordinator)
    (d : Disk) : Request → Response × Coordinator
  | .fullScan => c.fullScan d
  | .fileChanged path => c.fileChanged d path
  | .shutdown => (.error "worker stopped", c)

/-
  The answer to a request.  Each request has one answer, and
  a worker that was ready is ready again, unless it was asked
  to stop.
-/
def handle
    (c : Coordinator)
    (d : Disk)
    (r : Request) : Response × Coordinator :=
  if c.state ≠ .ready then
    ( .error ("worker is not ready (" ++ c.state.name ++ ")"),
      c )
  else if r = .shutdown then
    (.error "worker stopped", c.stop)
  else
    let (response, after) :=
      { c with state := .scanning }.process d r
    (response, { after with state := .ready })

end Coordinator

end ModuleLint
