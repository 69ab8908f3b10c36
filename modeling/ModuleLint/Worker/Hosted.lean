import ModuleLint.Worker.Client
import ModuleLint.Worker.Service

/-
  Workers that scan a project, as a client sees them.

  A worker may share its client's process, or have one of its
  own.  In its own process it looks for the settings itself, and
  a worker that cannot find its root or read its settings is
  gone before it has said anything.

  Key definitions include:
    * `Hosted`
    * `Transport.shared`, `Transport.separate`
-/

namespace ModuleLint

------------------------------------------------------------
-- Workers
------------------------------------------------------------

/-
  A worker, the responses that nobody has read yet, and what
  its silence means.
-/
structure Hosted where
  service : Option Service
  outbox : List Response
  silence : Loss

namespace Hosted

/- A worker that is gone. -/
def gone
    (silence : Loss) : Hosted :=
  ⟨none, [], silence⟩

/- A worker that has just been started. -/
def ofAnalyzer
    (a : Analyzer)
    (d : Disk)
    (silence : Loss) : Hosted :=
  let (greeting, service) := Service.greet a d
  ⟨service, [greeting], silence⟩

/- The worker has left its loop. -/
def isOver
    (h : Hosted) : Bool :=
  match h.service with
  | none => true
  | some s => s.isOver

/- A request is delivered and dealt with. -/
def send
    (h : Hosted)
    (r : Request)
    (d : Disk) : Except Loss Unit × Hosted :=
  match h.service with
  | none => (.error .gone, h)
  | some s =>
      if s.isOver then
        (.error .gone, h)
      else
        let (replies, t) := s.serve d r
        ( .ok (),
          { h with
            service := some t
            outbox := h.outbox ++ replies } )

/- The oldest response that nobody has read. -/
def receive
    (h : Hosted) : Except Loss Response × Hosted :=
  match h.outbox with
  | [] => (.error h.silence, h)
  | r :: rs => (.ok r, { h with outbox := rs })

/- The state in which the worker ends. -/
def wait
    (h : Hosted)
    (d : Disk) : WorkerState :=
  match h.service with
  | none => .crashed
  | some s => (s.close d).2.coordinator.state

end Hosted

------------------------------------------------------------
-- Transports
------------------------------------------------------------

namespace Disk

/- The analyzer for a root, with settings or those found there. -/
def analyzer
    (d : Disk)
    (root : RawText)
    (config : Option Config) : Except ConfigFault Analyzer :=
  match config with
  | some c => Analyzer.make d root c
  | none =>
      match d.projectConfig root with
      | .ok c => Analyzer.make d root c
      | .error f => .error f

end Disk

namespace Transport

/- The transport to workers that are started in a given way. -/
def hosted
    (spawn : RawText → Disk → Except ClientFault Hosted) :
    Transport Disk Hosted where
  spawn := fun root d => (spawn root d, d)
  send := fun h r d =>
    let (sent, h) := h.send r d
    (sent, h, d)
  receive := fun h d =>
    let (r, h) := h.receive
    (r, h, d)
  wait := fun h d => (h.wait d, d)

/- Workers in the client's process. -/
def shared
    (config : Option Config) : Transport Disk Hosted :=
  hosted
    (fun root d =>
      match d.analyzer root config with
      | .ok a => .ok (.ofAnalyzer a d .channelClosed)
      | .error f => .error (.settings (.configuration f)))

/- Workers in processes of their own. -/
def separate : Transport Disk Hosted :=
  hosted
    (fun root d =>
      match d.canonical root with
      | .error _ => .ok (.gone .outputClosed)
      | .ok home =>
          match d.analyzer home none with
          | .ok a => .ok (.ofAnalyzer a d .outputClosed)
          | .error _ => .ok (.gone .outputClosed))

end Transport

end ModuleLint
