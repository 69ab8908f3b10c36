import ModuleLint.Sources.Fault
import ModuleLint.Worker.Coordinator
import ModuleLint.Worker.Shown

/-
  The client's side of a worker.

  A client has one worker at a time.  A worker that is gone, or
  that sends a line that is no message, is replaced by a new
  one; whatever the old one still owed is forgotten.

  Key definitions include:
    * `Transport`
    * `Loss`, `ClientFault`
    * `Client`, `Client.Action`
    * `Client.start`, `Client.restart`
    * `Client.request`, `Client.syncPath`, `Client.shutdown`
-/

namespace ModuleLint

------------------------------------------------------------
-- Faults
------------------------------------------------------------

/- Why no request reaches a worker, or no response its client. -/
inductive Loss where
  | gone
  | channelClosed
  | pipeBroken
  | outputClosed
  | badMessage (b : BadMessage)
deriving DecidableEq, Repr, Inhabited

/- The words for a loss. -/
def Loss.message : Loss → String
  | gone => "worker is gone"
  | channelClosed => "worker closed its response channel"
  | pipeBroken => "Broken pipe (os error 32)"
  | outputClosed => "worker closed stdout"
  | badMessage b => b.message

/- What keeps a client from an answer. -/
inductive ClientFault where
  | settings (cause : Fault)
  | refused (root : RawText) (message : String)
  | badGreeting (r : Response)
  | died (root : RawText) (cause : Loss)
  | crashed (cause : Loss)
  | notRunning
  | undelivered (cause : Loss)
deriving Repr, Inhabited

namespace ClientFault

/- The words for a fault, without its cause. -/
def message : ClientFault → String
  | settings cause => cause.message
  | refused root message =>
      "worker for " ++ root.toText ++ " failed to start: " ++ message
  | badGreeting r =>
      "worker sent " ++ r.shown ++ " before ready"
  | died root _ =>
      "worker for " ++ root.toText ++ " died during start"
  | crashed _ => "worker crashed; restarted"
  | notRunning => "worker not running"
  | undelivered cause => cause.message

/- The words for a fault and for its cause. -/
def fullMessage
    (f : ClientFault) : String :=
  match f with
  | died _ cause => f.message ++ ": " ++ cause.message
  | crashed cause => f.message ++ ": " ++ cause.message
  | _ => f.message

end ClientFault

------------------------------------------------------------
-- Transports
------------------------------------------------------------

/-
  How workers are started and talked to.  `σ` is what is outside
  of client and worker, and `ω` a worker that was started.
-/
structure Transport (σ ω : Type) where
  /- A new worker for a root. -/
  spawn : RawText → σ → Except ClientFault ω × σ
  /- A request is delivered, or lost. -/
  send : ω → Request → σ → Except Loss Unit × ω × σ
  /- The next response, unless the worker is gone. -/
  receive : ω → σ → Except Loss Response × ω × σ
  /- The state in which a worker ends. -/
  wait : ω → σ → WorkerState × σ

/- A client: its root, its worker and how often it was replaced. -/
structure Client (ω : Type) where
  root : RawText
  worker : Option ω
  restarts : Nat
deriving Repr, Inhabited

/- What a client does, with itself and the outside as state. -/
abbrev Client.Action (σ ω α : Type) : Type :=
  ExceptT ClientFault (StateM (Client ω × σ)) α

namespace Client

variable {σ ω : Type}

/- A client without a worker. -/
def idle
    (root : RawText) : Client ω :=
  { root
    worker := none
    restarts := 0 }

------------------------------------------------------------
-- Starting
------------------------------------------------------------

/- A worker is started and its greeting heard. -/
def start
    (t : Transport σ ω) : Action σ ω Unit := do
  let (c, s) ← get
  match t.spawn c.root s with
  | (.error f, s) =>
      set (c, s)
      throw f
  | (.ok w, s) =>
      let (greeting, w, s) := t.receive w s
      match greeting with
      | .ok .ready => set ({ c with worker := some w }, s)
      | .ok (.error message) =>
          set (c, s)
          throw (.refused c.root message)
      | .ok r =>
          set (c, s)
          throw (.badGreeting r)
      | .error cause =>
          set (c, s)
          throw (.died c.root cause)

/- The worker is replaced. -/
def restart
    (t : Transport σ ω) : Action σ ω Unit := do
  modify
    (fun (c, s) =>
      ( { c with
          worker := none
          restarts := c.restarts + 1 },
        s ))
  start t

------------------------------------------------------------
-- Requests
------------------------------------------------------------

/- A request is delivered to the worker there is. -/
def deliver
    (t : Transport σ ω)
    (r : Request) : Action σ ω (Except Loss Unit) := do
  let (c, s) ← get
  match c.worker with
  | none => throw .notRunning
  | some w =>
      let (sent, w, s) := t.send w r s
      set ({ c with worker := some w }, s)
      return sent

/- A request is delivered, to a new worker if need be. -/
def send
    (t : Transport σ ω)
    (r : Request) : Action σ ω Unit := do
  if (← get).1.worker.isNone then
    restart t
  match ← deliver t r with
  | .ok () => return
  | .error _ =>
      restart t
      match ← deliver t r with
      | .ok () => return
      | .error cause => throw (.undelivered cause)

/- The next response; a worker that is gone is replaced. -/
def receive
    (t : Transport σ ω) : Action σ ω Response := do
  let (c, s) ← get
  match c.worker with
  | none => throw .notRunning
  | some w =>
      let (reply, w, s) := t.receive w s
      set ({ c with worker := some w }, s)
      match reply with
      | .ok r => return r
      | .error cause =>
          restart t
          throw (.crashed cause)

/- A request and its response. -/
def request
    (t : Transport σ ω)
    (r : Request) : Action σ ω Response := do
  send t r
  receive t

/-
  A request after the change of a file.  A file that is gone may
  change what rules for projects find anywhere, so that a full
  scan follows.
-/
def syncPath
    (t : Transport σ ω)
    (path : RawText) : Action σ ω (List Response) := do
  let first ← request t (.fileChanged path.toText)
  match first with
  | .missing _ => return [first, ← request t .fullScan]
  | _ => return [first]

/- The worker is asked to stop; the next request has a new one. -/
def shutdown
    (t : Transport σ ω) : Action σ ω WorkerState := do
  let (c, s) ← get
  match c.worker with
  | none => return .stopped
  | some w =>
      let (_, w, s) := t.send w .shutdown s
      let (state, s) := t.wait w s
      let idle : Client ω := { c with worker := none }
      set (idle, s)
      return state

end Client

end ModuleLint
