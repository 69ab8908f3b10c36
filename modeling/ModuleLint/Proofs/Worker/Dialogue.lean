import Mathlib.Logic.Relation
import ModuleLint.Proofs.Worker.Client
import ModuleLint.Proofs.Worker.Loop

/-
  What a client and its worker tell each other.

  A worker greets its client, and then it answers one request
  after the other.  A request may be lost, and so may a
  response; whatever is read was due, in the order in which it
  was asked for.  The workers that scan keep to this, and so do
  workers that may die at any moment.

  Main declarations:
    * `Dialogue`, `Dialogue.Step`, `Dialogue.Reads`
    * `Transport.Orderly`
    * `Hosted.Shows`, `Transport.orderly_separate`
    * `Transport.mortal`, `Transport.Orderly.mortal`
-/

namespace ModuleLint

------------------------------------------------------------
-- Dialogues
------------------------------------------------------------

/- A response and the request it answers; a greeting has none. -/
structure Letter where
  request : Option Request
  response : Response

/-
  What passed between a client and one worker: what is due to
  the client, the letters on their way, and those it has read,
  always the oldest first.
-/
structure Dialogue where
  due : List (Option Request)
  unread : List Letter
  read : List Letter

namespace Dialogue

/- A worker owes a greeting before all else. -/
def fresh : Dialogue :=
  ⟨[none], [], []⟩

/- The worker has greeted, and nothing was asked yet. -/
def opened : Dialogue :=
  ⟨[], [], [⟨none, .ready⟩]⟩

/- A request is delivered. -/
def ask
    (d : Dialogue)
    (r : Request) : Dialogue :=
  { d with due := d.due ++ [some r] }

/- A request has been answered, and the response was read. -/
def exchange
    (d : Dialogue)
    (r : Request)
    (p : Response) : Dialogue :=
  { d with read := d.read ++ [⟨some r, p⟩] }

/- Nothing is due, and nothing is left unread. -/
def Settled
    (d : Dialogue) : Prop :=
  d.due = [] ∧ d.unread = []

/-
  The worker sends what is due first.  It answers as it likes,
  but a request to stop has no answer.  A worker that is gone
  takes no more steps.
-/
inductive Step : Dialogue → Dialogue → Prop where
  | answer
      {q : Option Request}
      {due : List (Option Request)}
      {unread read : List Letter}
      (p : Response) :
      q ≠ some .shutdown →
        Step ⟨q :: due, unread, read⟩
          ⟨due, unread ++ [⟨q, p⟩], read⟩

/- The worker may have taken some steps. -/
def Later : Dialogue → Dialogue → Prop :=
  Relation.ReflTransGen Step

/- The client reads the oldest letter. -/
inductive Reads : Dialogue → Letter → Dialogue → Prop where
  | oldest
      {l : Letter}
      {due : List (Option Request)}
      {unread read : List Letter} :
      Reads ⟨due, l :: unread, read⟩ l
        ⟨due, unread, read ++ [l]⟩

theorem Settled.later_eq
    {d e : Dialogue}
    (hSettled : d.Settled)
    (hLater : d.Later e) :
    e = d := by
  induction hLater with
  | refl => rfl
  | tail _ hStep ih =>
      subst ih
      cases hStep
      exact absurd hSettled.1 (List.cons_ne_nil _ _)

/- Where one thing is due, it is still due or on its way. -/
theorem later_of_due
    {q : Option Request}
    {read : List Letter}
    {e : Dialogue}
    (hLater : Later ⟨[q], [], read⟩ e) :
    e = ⟨[q], [], read⟩ ∨
      (q ≠ some .shutdown ∧
        ∃ p, e = ⟨[], [⟨q, p⟩], read⟩) := by
  induction hLater with
  | refl => exact .inl rfl
  | tail _ hStep ih =>
      rcases ih with rfl | ⟨_, p, rfl⟩
      · cases hStep with
        | answer p hScan => exact .inr ⟨hScan, p, rfl⟩
      · cases hStep

/- Where one thing is due, what is read is the answer to it. -/
theorem Reads.of_due
    {q : Option Request}
    {read : List Letter}
    {l : Letter}
    {e f g : Dialogue}
    (hReads : e.Reads l f)
    (hBefore : Later ⟨[q], [], read⟩ e)
    (hAfter : f.Later g) :
    q ≠ some .shutdown ∧
      l.request = q ∧
      g = ⟨[], [], read ++ [l]⟩ := by
  rcases later_of_due hBefore with rfl | ⟨hScan, p, rfl⟩
  · cases hReads
  · cases hReads
    exact ⟨hScan, rfl, Settled.later_eq ⟨rfl, rfl⟩ hAfter⟩

end Dialogue

------------------------------------------------------------
-- Transports
------------------------------------------------------------

/-
  A transport on which each worker follows a dialogue.  Any
  request and any response may be lost, but a request that is
  delivered is delivered once, and letters are read in order.
-/
structure Transport.Orderly
    {σ ω : Type}
    (t : Transport σ ω)
    (shows : ω → Dialogue → Prop) : Prop where
  spawn : ∀ {root s w s'},
    t.spawn root s = (.ok w, s') →
      ∃ e, Dialogue.fresh.Later e ∧ shows w e
  deliver : ∀ {w d r s w' s'},
    shows w d →
      t.send w r s = (.ok (), w', s') →
        ∃ e f, d.Later e ∧ (e.ask r).Later f ∧ shows w' f
  lose : ∀ {w d r s cause w' s'},
    shows w d →
      t.send w r s = (.error cause, w', s') →
        ∃ e, d.Later e ∧ shows w' e
  receive : ∀ {w d s p w' s'},
    shows w d →
      t.receive w s = (.ok p, w', s') →
        ∃ e l f g, d.Later e ∧ e.Reads l f ∧
          l.response = p ∧ f.Later g ∧ shows w' g

------------------------------------------------------------
-- Workers That Scan
------------------------------------------------------------

namespace Hosted

/-
  A worker and its dialogue: what it sent is what is unread,
  and it owes nothing unless it has left its loop.
-/
def Shows
    (h : Hosted)
    (d : Dialogue) : Prop :=
  d.unread.map (·.response) = h.outbox ∧
    (h.isOver = true ∨
      d.due = [] ∧ ∃ c, h.service = some (.ofCoordinator c))

/- A worker that has left its loop hears nothing. -/
theorem send_of_isOver
    {h : Hosted}
    (hOver : h.isOver = true)
    (r : Request)
    (d : Disk) :
    h.send r d = (.error .gone, h) := by
  unfold isOver at hOver
  unfold send
  cases hService : h.service with
  | none => rfl
  | some s =>
      rw [hService] at hOver
      exact if_pos hOver

/- A worker that waits for a request answers it. -/
theorem send_ofCoordinator
    (c : Coordinator)
    (outbox : List Response)
    (silence : Loss)
    (d : Disk)
    {r : Request}
    (hScan : r ≠ .shutdown) :
    send ⟨some (.ofCoordinator c), outbox, silence⟩ r d =
      ( .ok (),
        ⟨some (.ofCoordinator (c.handle d r).2),
          outbox ++ [(c.handle d r).1], silence⟩ ) := by
  unfold send
  simp only [Service.serve_ofCoordinator c d hScan]
  rfl

/- What becomes of a request. -/
theorem Shows.send
    {h : Hosted}
    {e : Dialogue}
    (hShows : h.Shows e)
    (r : Request)
    (d : Disk) :
    h.send r d = (.error .gone, h) ∨
      ∃ h' f,
        h.send r d = (.ok (), h') ∧
          (e.ask r).Later f ∧ h'.Shows f := by
  rcases hShows with ⟨hOutbox, hOver | ⟨hDue, c, hService⟩⟩
  · exact .inl (send_of_isOver hOver r d)
  right
  obtain ⟨service, outbox, silence⟩ := h
  obtain ⟨due, unread, read⟩ := e
  obtain rfl : due = [] := hDue
  obtain rfl : service = some (.ofCoordinator c) := hService
  obtain rfl : unread.map (·.response) = outbox := hOutbox
  by_cases hScan : r = .shutdown
  · subst hScan
    refine ⟨_, _, rfl, .refl, ?_, .inl rfl⟩
    simp [Dialogue.ask]
  · let reply := (c.handle d r).1
    have hStep :
        Dialogue.Step ⟨[some r], unread, read⟩
          ⟨[], unread ++ [⟨some r, reply⟩], read⟩ :=
      .answer reply (by simpa using hScan)
    refine ⟨_, _, send_ofCoordinator c _ silence d hScan,
      .single hStep, ?_, .inr ⟨rfl, _, rfl⟩⟩
    simp [reply]

/- A worker that was started greets, or is gone. -/
theorem exists_shows_ofAnalyzer
    (a : Analyzer)
    (d : Disk)
    (silence : Loss) :
    ∃ e,
      Dialogue.fresh.Later e ∧
        (ofAnalyzer a d silence).Shows e := by
  rcases hGreet : Service.greet a d with ⟨greeting, service⟩
  have hStarted :
      ofAnalyzer a d silence =
        ⟨service, [greeting], silence⟩ := by
    unfold ofAnalyzer
    rw [hGreet]
  have hStep :
      Dialogue.Step .fresh ⟨[], [⟨none, greeting⟩], []⟩ :=
    .answer greeting (by simp)
  refine ⟨_, .single hStep, ?_⟩
  rw [hStarted]
  refine ⟨rfl, ?_⟩
  cases service with
  | none => exact .inl rfl
  | some s =>
      rcases Service.of_greet hGreet with ⟨_, hService⟩
      exact .inr ⟨rfl, s.coordinator, congrArg some hService⟩

theorem exists_shows_gone
    (silence : Loss) :
    ∃ e, Dialogue.fresh.Later e ∧ (gone silence).Shows e :=
  ⟨.fresh, .refl, rfl, .inl rfl⟩

end Hosted

namespace Transport

/- Workers that scan keep to their dialogues. -/
theorem orderly_hosted
    {spawn : RawText → Disk → Except ClientFault Hosted}
    (hSpawn : ∀ root d h,
      spawn root d = .ok h →
        ∃ e, Dialogue.fresh.Later e ∧ h.Shows e) :
    (hosted spawn).Orderly Hosted.Shows where
  spawn := by
    intro root d h d' hStarted
    exact hSpawn root d h (Prod.ext_iff.mp hStarted).1
  deliver := by
    intro h e r d h' d' hShows hSent
    simp only [hosted, Prod.mk.injEq] at hSent
    rcases hShows.send r d with
      hLost | ⟨h'', f, hDelivered, hAfter, hShows'⟩
    · rw [hLost] at hSent
      cases hSent.1
    · rw [hDelivered] at hSent
      rw [← hSent.2.1]
      exact ⟨e, f, .refl, hAfter, hShows'⟩
  lose := by
    intro h e r d cause h' d' hShows hSent
    simp only [hosted, Prod.mk.injEq] at hSent
    rcases hShows.send r d with hLost | ⟨_, _, hDelivered, _⟩
    · rw [hLost] at hSent
      rw [← hSent.2.1]
      exact ⟨e, .refl, hShows⟩
    · rw [hDelivered] at hSent
      cases hSent.1
  receive := by
    intro h e d p h' d' hShows hReceived
    simp only [hosted, Prod.mk.injEq] at hReceived
    obtain ⟨service, outbox, silence⟩ := h
    obtain ⟨due, unread, read⟩ := e
    rcases hShows with ⟨hOutbox, hWaits⟩
    cases unread with
    | nil =>
        obtain rfl : [] = outbox := hOutbox
        cases hReceived.1
    | cons l unread =>
        obtain rfl :
            l.response :: unread.map (·.response) = outbox :=
          hOutbox
        obtain ⟨hResponse, rfl, _⟩ := hReceived
        cases hResponse
        exact ⟨_, l, _, _, .refl, .oldest, rfl, .refl, rfl,
          hWaits⟩

theorem orderly_shared
    (config : Option Config) :
    (shared config).Orderly Hosted.Shows := by
  refine orderly_hosted ?_
  intro root d h hStarted
  split at hStarted
  · cases hStarted
    exact Hosted.exists_shows_ofAnalyzer _ d _
  · cases hStarted

theorem orderly_separate :
    separate.Orderly Hosted.Shows := by
  refine orderly_hosted ?_
  intro root d h hStarted
  split at hStarted
  · cases hStarted
    exact Hosted.exists_shows_gone _
  · split at hStarted
    · cases hStarted
      exact Hosted.exists_shows_ofAnalyzer _ d _
    · cases hStarted
      exact Hosted.exists_shows_gone _

------------------------------------------------------------
-- Workers That Die
------------------------------------------------------------

/- The worker, unless its fate is to die now. -/
def spared
    {ω : Type}
    (w : Option ω)
    (fates : List Bool) : Option ω :=
  if fates.head? = some true then none else w

/-
  Workers that may die whenever something is sent to them or
  heard from them.  The outside says when they do.
-/
def mortal
    {σ ω : Type}
    (t : Transport σ ω) :
    Transport (σ × List Bool) (Option ω) where
  spawn := fun root s =>
    let (started, o) := t.spawn root s.1
    (started.map some, o, s.2)
  send := fun w r s =>
    match spared w s.2 with
    | none => (.error .pipeBroken, none, s.1, s.2.tail)
    | some v =>
        let (sent, v, o) := t.send v r s.1
        (sent, some v, o, s.2.tail)
  receive := fun w s =>
    match spared w s.2 with
    | none => (.error .outputClosed, none, s.1, s.2.tail)
    | some v =>
        let (reply, v, o) := t.receive v s.1
        (reply, some v, o, s.2.tail)
  wait := fun w s =>
    match w with
    | none => (.crashed, s)
    | some v =>
        let (state, o) := t.wait v s.1
        (state, o, s.2)

/- Of a worker that died, nothing more is to be said. -/
def Outlives
    {ω : Type}
    (shows : ω → Dialogue → Prop)
    (w : Option ω)
    (d : Dialogue) : Prop :=
  ∀ v, w = some v → shows v d

theorem Outlives.living
    {ω : Type}
    {shows : ω → Dialogue → Prop}
    {v : ω}
    {d : Dialogue}
    (hShows : shows v d) :
    Outlives shows (some v) d := by
  rintro _ ⟨⟩
  exact hShows

theorem Outlives.of_spared
    {ω : Type}
    {shows : ω → Dialogue → Prop}
    {w : Option ω}
    {d : Dialogue}
    {fates : List Bool}
    {v : ω}
    (hOutlives : Outlives shows w d)
    (hSpared : spared w fates = some v) :
    shows v d := by
  unfold spared at hSpared
  split_ifs at hSpared
  exact hOutlives v hSpared

/- Where workers keep to their dialogues, mortal ones do. -/
theorem Orderly.mortal
    {σ ω : Type}
    {t : Transport σ ω}
    {shows : ω → Dialogue → Prop}
    (hOrderly : t.Orderly shows) :
    t.mortal.Orderly (Outlives shows) where
  spawn := by
    intro root s w s' hStarted
    rcases hSpawn : t.spawn root s.1 with ⟨started, o⟩
    simp only [Transport.mortal, hSpawn,
      Prod.mk.injEq] at hStarted
    cases started with
    | error f => cases hStarted.1
    | ok v =>
        rcases hOrderly.spawn hSpawn with ⟨e, hFresh, hShows⟩
        cases hStarted.1
        exact ⟨e, hFresh, .living hShows⟩
  deliver := by
    intro w d r s w' s' hOutlives hSent
    cases hSpared : spared w s.2 with
    | none => simp [Transport.mortal, hSpared] at hSent
    | some v =>
        rcases hSend : t.send v r s.1 with ⟨sent, v', o⟩
        simp only [Transport.mortal, hSpared, hSend,
          Prod.mk.injEq] at hSent
        obtain ⟨rfl, rfl, _⟩ := hSent
        rcases hOrderly.deliver (hOutlives.of_spared hSpared)
          hSend with ⟨e, f, hBefore, hAfter, hShows⟩
        exact ⟨e, f, hBefore, hAfter, .living hShows⟩
  lose := by
    intro w d r s cause w' s' hOutlives hSent
    cases hSpared : spared w s.2 with
    | none =>
        simp only [Transport.mortal, hSpared, Prod.mk.injEq]
          at hSent
        obtain ⟨_, rfl, _⟩ := hSent
        exact ⟨d, .refl, nofun⟩
    | some v =>
        rcases hSend : t.send v r s.1 with ⟨sent, v', o⟩
        simp only [Transport.mortal, hSpared, hSend,
          Prod.mk.injEq] at hSent
        obtain ⟨rfl, rfl, _⟩ := hSent
        rcases hOrderly.lose (hOutlives.of_spared hSpared)
          hSend with ⟨e, hBefore, hShows⟩
        exact ⟨e, hBefore, .living hShows⟩
  receive := by
    intro w d s p w' s' hOutlives hReceived
    cases hSpared : spared w s.2 with
    | none => simp [Transport.mortal, hSpared] at hReceived
    | some v =>
        rcases hReceive : t.receive v s.1 with ⟨reply, v', o⟩
        simp only [Transport.mortal, hSpared, hReceive,
          Prod.mk.injEq] at hReceived
        obtain ⟨rfl, rfl, _⟩ := hReceived
        rcases hOrderly.receive (hOutlives.of_spared hSpared)
          hReceive with
          ⟨e, l, f, g, hBefore, hReads, hHeard, hAfter, hShows⟩
        exact ⟨e, l, f, g, hBefore, hReads, hHeard, hAfter,
          .living hShows⟩

end Transport

end ModuleLint
