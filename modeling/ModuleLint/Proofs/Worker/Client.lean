import ModuleLint.Worker.Hosted
import ModuleLint.Proofs.Worker.Change

/-
  What a client hears from a worker that has nothing to do.

  Such a worker answers a request at once and has nothing to
  do again.  After the change of a file its client hears the
  answer, and the results of a full scan if the file is gone.

  Main declarations:
    * `Service.serve_ofCoordinator`, `Hosted.idle`
    * `Client.run_bind`, `Client.run_request`
    * `Client.Synced`, `Client.run_syncPath`
-/

namespace ModuleLint

------------------------------------------------------------
-- One Request
------------------------------------------------------------

/- A worker without other requests deals with one at once. -/
theorem Service.serve_ofCoordinator
    (c : Coordinator)
    (d : Disk)
    {r : Request}
    (hScan : r ≠ .shutdown) :
    (ofCoordinator c).serve d r =
      ( [(c.handle d r).1],
        ofCoordinator (c.handle d r).2 ) := by
  have hArrive :
      (ofCoordinator c).arrive r =
        some ⟨c, ⟨[r]⟩, none, true, false⟩ := by
    simp [arrive, ofCoordinator, RequestQueue.push,
      RequestQueue.holds, RequestQueue.empty]
  have hBegin :
      begin ⟨c, ⟨[r]⟩, none, true, false⟩ =
        some ⟨c, ⟨[]⟩, some r, true, false⟩ := by
    cases r with
    | fullScan => rfl
    | fileChanged path => rfl
    | shutdown => exact absurd rfl hScan
  have hFinish :
      finish ⟨c, ⟨[]⟩, some r, true, false⟩ d =
        some
          ( (c.handle d r).1,
            ofCoordinator (c.handle d r).2 ) := rfl
  simp [serve, run, step, hArrive, hBegin, hFinish]

/- A worker that waits for a request. -/
def Hosted.idle
    (c : Coordinator)
    (silence : Loss) : Hosted :=
  ⟨some (.ofCoordinator c), [], silence⟩

theorem Hosted.send_idle
    (c : Coordinator)
    (silence : Loss)
    (d : Disk)
    {r : Request}
    (hScan : r ≠ .shutdown) :
    (idle c silence).send r d =
      ( .ok (),
        { idle (c.handle d r).2 silence with
          outbox := [(c.handle d r).1] } ) := by
  unfold send idle
  simp only [Service.serve_ofCoordinator c d hScan]
  rfl

namespace Client

section

variable {σ ω : Type}
variable {t : Transport σ ω}
variable {r : Request}
variable {w w' : ω}
variable {s s' : σ}

/- One action after another. -/
theorem run_bind
    {α β : Type}
    (m : Action σ ω α)
    (f : α → Action σ ω β)
    (now : Client ω × σ) :
    (m >>= f).run.run now =
      match m.run.run now with
      | (.ok x, next) => (f x).run.run next
      | (.error e, next) => (.error e, next) := by
  unfold ExceptT.run StateT.run
  simp only [bind, ExceptT.bind, ExceptT.mk, StateT.bind,
    ExceptT.bindCont]
  rcases m now with ⟨result, next⟩
  cases result with
  | ok x => rfl
  | error e => rfl

@[simp] theorem run_get
    (now : Client ω × σ) :
    (get : Action σ ω (Client ω × σ)).run.run now =
      (.ok now, now) := rfl

@[simp] theorem run_set
    (now next : Client ω × σ) :
    (set next : Action σ ω PUnit).run.run now =
      (.ok (), next) := rfl

@[simp] theorem run_pure
    {α : Type}
    (x : α)
    (now : Client ω × σ) :
    (pure x : Action σ ω α).run.run now = (.ok x, now) := rfl

@[simp] theorem run_throw
    {α : Type}
    (e : ClientFault)
    (now : Client ω × σ) :
    (throw e : Action σ ω α).run.run now = (.error e, now) := rfl

@[simp] theorem run_modify
    (f : Client ω × σ → Client ω × σ)
    (now : Client ω × σ) :
    (modify f : Action σ ω PUnit).run.run now =
      (.ok (), f now) := rfl

theorem run_deliver
    (hSend : t.send w r s = (.ok (), w', s'))
    (root : RawText)
    (restarts : Nat) :
    (deliver t r).run.run (⟨root, some w, restarts⟩, s) =
      (.ok (.ok ()), ⟨root, some w', restarts⟩, s') := by
  simp only [deliver, run_bind, run_get, hSend, run_set,
    run_pure]

theorem run_send
    (hSend : t.send w r s = (.ok (), w', s'))
    (root : RawText)
    (restarts : Nat) :
    (send t r).run.run (⟨root, some w, restarts⟩, s) =
      (.ok (), ⟨root, some w', restarts⟩, s') := by
  simp only [send, run_bind, run_get, Option.isNone_some,
    Bool.false_eq_true, if_false, run_deliver hSend, run_pure]

/- A request that is delivered and answered. -/
theorem run_request
    {w'' : ω}
    {s'' : σ}
    {reply : Response}
    (hSend : t.send w r s = (.ok (), w', s'))
    (hReceive : t.receive w' s' = (.ok reply, w'', s''))
    (root : RawText)
    (restarts : Nat) :
    (request t r).run.run (⟨root, some w, restarts⟩, s) =
      (.ok reply, ⟨root, some w'', restarts⟩, s'') := by
  simp only [request, receive, run_bind, run_send hSend,
    run_get, hReceive, run_set, run_pure]

end

/- A client whose worker waits. -/
structure Attended where
  root : RawText
  restarts : Nat
  silence : Loss

/- The client with a worker. -/
def Attended.client
    (k : Attended)
    (c : Coordinator) : Client Hosted :=
  ⟨k.root, some (.idle c k.silence), k.restarts⟩

/- A worker that waits is asked. -/
theorem run_request_idle
    (k : Attended)
    (c : Coordinator)
    (d : Disk)
    {r : Request}
    (hScan : r ≠ .shutdown) :
    (request .separate r).run.run (k.client c, d) =
      ( .ok (c.handle d r).1,
        k.client (c.handle d r).2, d ) := by
  apply run_request
  · simp only [Transport.separate, Transport.hosted,
      Hosted.send_idle c k.silence d hScan]
    rfl
  · rfl

------------------------------------------------------------
-- A Change
------------------------------------------------------------

/-
  What a client hears after the change of a file, and the
  project after it.  A file that is gone is followed by a full
  scan, which may fail.
-/
inductive Synced
    (a : Analyzer)
    (p : Project)
    (d : Disk)
    (path : String) : List Response → Project → Prop
| told
    {r : Response}
    {q : Project}
    (hThere : d.isFile (Path.join a.root path) = true)
    (hTold : Coordinator.Told a p d path r q) :
    Synced a p d path [r] q
| rescanned
    {q : Project}
    (hGone : d.isFile (Path.join a.root path) = false)
    (hLoad : a.loadProject d = .ok q) :
    Synced a p d path
      [.missing path, Coordinator.respond (a.analyze q) .full]
      q
| failed
    {f : Fault}
    (hGone : d.isFile (Path.join a.root path) = false)
    (hLoad : a.loadProject d = .error f) :
    Synced a p d path [.missing path, .error f.message]
      (p.drop (Path.join a.root path))

/- A worker that waits is told of a change. -/
theorem run_syncPath
    (k : Attended)
    (a : Analyzer)
    (p : Project)
    (d : Disk)
    (path : RawText) :
    ∃ replies q,
      (syncPath .separate path).run.run
          (k.client (.holding a p), d) =
        (.ok replies, k.client (.holding a q), d) ∧
      Synced a p d path.toText replies q := by
  rcases Coordinator.told_handle a p d path.toText with
    ⟨r, q, hHandle, hTold⟩
  have hFirst :=
    run_request_idle k (.holding a p) d
      (r := .fileChanged path.toText) (by simp)
  rw [hHandle] at hFirst
  unfold syncPath
  rw [run_bind, hFirst]
  cases hTold with
  | gone hGone =>
      -- The full scan asks the worker that dropped the file.
      have hSecond :=
        run_request_idle k
          (.holding a (p.drop (Path.join a.root path.toText))) d
          (r := .fullScan) (by simp)
      rw [Coordinator.handle_fullScan] at hSecond
      cases hLoad : a.loadProject d with
      | ok q =>
          rw [hLoad] at hSecond
          refine ⟨_, q, ?_, .rescanned hGone hLoad⟩
          simp only [run_bind, hSecond, run_pure]
      | error f =>
          rw [hLoad] at hSecond
          refine ⟨_, _, ?_, .failed hGone hLoad⟩
          simp only [run_bind, hSecond, run_pure]
  | foreign hThere hNew hRefused =>
      exact ⟨_, _, rfl,
        .told hThere (.foreign hThere hNew hRefused)⟩
  | unreadable hThere hOurs hRead =>
      exact ⟨_, _, rfl,
        .told hThere (.unreadable hThere hOurs hRead)⟩
  | read hThere hOurs hRead hUnit =>
      exact ⟨_, _, rfl,
        .told hThere (.read hThere hOurs hRead hUnit)⟩

end Client

end ModuleLint
