import ModuleLint.Worker.Coordinator
import ModuleLint.Worker.Queue

/-
  The loop of a worker.

  Requests arrive at any time and wait in a queue.  One scan
  runs at a time, and each scan gives one response.  The loop
  ends when it comes to a request to stop, or when nothing waits
  and nothing more can arrive.

  Key definitions include:
    * `Service`, `Service.ofCoordinator`
    * `Service.Event`, `Service.step`, `Service.run`
    * `Service.hear`, `Service.close`
-/

namespace ModuleLint

/- A worker in its loop. -/
structure Service where
  coordinator : Coordinator
  queue : RequestQueue
  running : Option Request
  isOpen : Bool
  isOver : Bool

namespace Service

------------------------------------------------------------
-- Steps
------------------------------------------------------------

/- What happens to a worker. -/
inductive Event where
  | arrive (r : Request)
  | hangUp
  | begin
  | finish
deriving DecidableEq, Repr, Inhabited

/- A worker whose loop starts. -/
def ofCoordinator
    (c : Coordinator) : Service :=
  { coordinator := c
    queue := .empty
    running := none
    isOpen := true
    isOver := false }

/- The loop has ended. -/
def ended
    (s : Service) : Service :=
  { s with
    coordinator := s.coordinator.stop
    isOver := true }

/- A request arrives. -/
def arrive
    (s : Service)
    (r : Request) : Option Service :=
  if s.isOpen && !s.isOver then
    some { s with queue := (s.queue.push r).2 }
  else
    none

/- Nothing more will arrive. -/
def hangUp
    (s : Service) : Option Service :=
  if s.isOpen && !s.isOver then
    some { s with isOpen := false }
  else
    none

/- The oldest request is taken up, or the loop ends. -/
def begin
    (s : Service) : Option Service :=
  if s.isOver || s.running.isSome then
    none
  else
    match s.queue.pop with
    | (some .shutdown, queue) => some { s with queue }.ended
    | (some r, queue) => some { s with queue, running := some r }
    | (none, _) => if s.isOpen then none else some s.ended

/- The scan that is running comes to its end. -/
def finish
    (s : Service)
    (d : Disk) : Option (Response × Service) :=
  match s.running with
  | none => none
  | some r =>
      let (response, coordinator) := s.coordinator.handle d r
      some (response, { s with coordinator, running := none })

/- One step, with the responses it sends. -/
def step
    (s : Service)
    (d : Disk) : Event → Option (List Response × Service)
  | .arrive r => (s.arrive r).map ([], ·)
  | .hangUp => s.hangUp.map ([], ·)
  | .begin => s.begin.map ([], ·)
  | .finish => (s.finish d).map (fun p => ([p.1], p.2))

/- Several steps; those that cannot be done are left out. -/
def run
    (s : Service)
    (d : Disk) : List Event → List Response × Service
  | [] => ([], s)
  | e :: es =>
      match s.step d e with
      | none => s.run d es
      | some (sent, t) =>
          let (more, u) := t.run d es
          (sent ++ more, u)

------------------------------------------------------------
-- Conversations
------------------------------------------------------------

/- The greeting of a worker, and the worker if it goes on. -/
def greet
    (a : Analyzer)
    (d : Disk) : Response × Option Service :=
  match (Coordinator.fresh a).start d with
  | (.ok greeting, c) => (greeting, some (ofCoordinator c))
  | (.error f, _) => (.error f.message, none)

/- A request that is dealt with before the next one arrives. -/
def serve
    (s : Service)
    (d : Disk)
    (r : Request) : List Response × Service :=
  s.run d [.arrive r, .begin, .finish]

/- A line that is dealt with before the next one arrives. -/
def hear
    (s : Service)
    (d : Disk)
    (line : String) : List Response × Service :=
  if s.isOver || (Text.trim line).isEmpty then
    ([], s)
  else
    match Request.ofLine line with
    | .ok r => s.serve d r
    | .error b => ([.error b.message], s)

/- The last lines have been heard. -/
def close
    (s : Service)
    (d : Disk) : List Response × Service :=
  s.run d [.hangUp, .begin]

/- A conversation in lines, with the state at its end. -/
def converse
    (a : Analyzer)
    (d : Disk)
    (lines : List String) : List Response × WorkerState :=
  match greet a d with
  | (greeting, none) => ([greeting], .crashed)
  | (greeting, some s) =>
      let (replies, s) :=
        lines.foldl
          (fun (replies, s) line =>
            let (more, t) := s.hear d line
            (replies ++ more, t))
          ([greeting], s)
      let (more, s) := s.close d
      (replies ++ more, s.coordinator.state)

end Service

end ModuleLint
