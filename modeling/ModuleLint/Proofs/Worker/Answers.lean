import ModuleLint.Proofs.Worker.Dialogue

/-
  Answers to a client that asks for one thing at a time.

  Workers may be gone at any moment, and a client replaces them.
  Still each response it gives is that of its present worker to
  the very request, and between two calls nothing is due to
  the client and nothing is left unread.

  Main declarations:
    * `Client.Ends`, `Client.Rests`, `Client.Heard`
    * `Client.ends_send`, `Client.ends_receive`
    * `Client.Call`, `Client.Call.Accounts`
    * `Client.Accounted`, `Client.calls_accounted`
-/

namespace ModuleLint

namespace Client

section

variable {σ ω : Type}
variable {t : Transport σ ω}
variable {shows : ω → Dialogue → Prop}

------------------------------------------------------------
-- Actions and Their Ends
------------------------------------------------------------

/- How an action ends, and the client at its end. -/
def Ends
    {α : Type}
    (m : Action σ ω α)
    (now : Client ω × σ)
    (Q : Except ClientFault α → Client ω → Prop) : Prop :=
  Q (m.run.run now).1 (m.run.run now).2.1

theorem Ends.bind
    {α β : Type}
    {m : Action σ ω α}
    {f : α → Action σ ω β}
    {now : Client ω × σ}
    {Q : Except ClientFault α → Client ω → Prop}
    {R : Except ClientFault β → Client ω → Prop}
    (hFirst : Ends m now Q)
    (hOk : ∀ x next, Q (.ok x) next.1 → Ends (f x) next R)
    (hError : ∀ e c, Q (.error e) c → R (.error e) c) :
    Ends (m >>= f) now R := by
  unfold Ends at hFirst ⊢
  rw [run_bind]
  rcases hRun : m.run.run now with ⟨result, next⟩
  rw [hRun] at hFirst
  cases result with
  | ok x => exact hOk x next hFirst
  | error e => exact hError e next.1 hFirst

/-
  The client has no worker, or one that owes it nothing and of
  which it has read everything.
-/
inductive Rests
    (shows : ω → Dialogue → Prop)
    (c : Client ω) : Option Dialogue → Prop where
  | alone :
      c.worker = none → Rests shows c none
  | attended
      {w : ω}
      {d : Dialogue} :
      c.worker = some w →
        shows w d →
          d.Settled →
            Rests shows c (some d)

/- The worker may have answered the one request there is. -/
def Asked
    (shows : ω → Dialogue → Prop)
    (c : Client ω)
    (d : Dialogue)
    (r : Request) : Prop :=
  ∃ w e, c.worker = some w ∧ (d.ask r).Later e ∧ shows w e

theorem ends_start
    (hOrderly : t.Orderly shows)
    (now : Client ω × σ)
    (hAlone : now.1.worker = none) :
    Ends (start t) now
      (fun result c =>
        match result with
        | .ok () => Rests shows c (some .opened)
        | .error _ => Rests shows c none) := by
  rcases now with ⟨c, s⟩
  unfold Ends start
  simp only [run_bind, run_get]
  rcases hSpawn : t.spawn c.root s with ⟨started, s₁⟩
  cases started with
  | error f => exact .alone hAlone
  | ok w =>
      rcases hReceive : t.receive w s₁ with ⟨greeting, w', s₂⟩
      simp only [hReceive]
      cases greeting with
      | error cause => exact .alone hAlone
      | ok p =>
          rcases hOrderly.spawn hSpawn with ⟨d, hFresh, hShows⟩
          rcases hOrderly.receive hShows hReceive with
            ⟨e, l, f, g, hBefore, hReads, hHeard, hAfter,
              hShows'⟩
          rcases hReads.of_due (hFresh.trans hBefore) hAfter with
            ⟨_, hGreeting, hEnd⟩
          cases p with
          | ready =>
              have hLetter : l = ⟨none, .ready⟩ := by
                cases l
                simp_all
              rw [hEnd, hLetter] at hShows'
              exact .attended rfl hShows' ⟨rfl, rfl⟩
          | result => exact .alone hAlone
          | error => exact .alone hAlone
          | missing => exact .alone hAlone

/- A new worker has greeted, or there is none. -/
theorem ends_restart
    (hOrderly : t.Orderly shows)
    (now : Client ω × σ) :
    Ends (restart t) now
      (fun result c =>
        match result with
        | .ok () => Rests shows c (some .opened)
        | .error _ => Rests shows c none) := by
  refine Ends.bind (Q := fun _ c => c.worker = none) rfl ?_ ?_
  · intro _ next hAlone
    exact ends_start hOrderly _ hAlone
  · intro _ c hAlone
    exact .alone hAlone

/- A request is delivered, or the worker has not heard of it. -/
theorem ends_deliver
    (hOrderly : t.Orderly shows)
    {now : Client ω × σ}
    {d : Dialogue}
    (hRests : Rests shows now.1 (some d))
    (r : Request) :
    Ends (deliver t r) now
      (fun result c =>
        match result with
        | .ok (.ok ()) => Asked shows c d r
        | .ok (.error _) => Rests shows c (some d)
        | .error _ => False) := by
  rcases now with ⟨c, s⟩
  cases hRests with
  | @attended w _ hWorker hShows hSettled =>
  replace hWorker : c.worker = some w := hWorker
  unfold Ends deliver
  rcases hSend : t.send w r s with ⟨sent, w', s'⟩
  simp only [run_bind, run_get, hWorker, hSend, run_set,
    run_pure]
  cases sent with
  | ok =>
      rcases hOrderly.deliver hShows hSend with
        ⟨e, f, hBefore, hAfter, hShows'⟩
      rw [hSettled.later_eq hBefore] at hAfter
      exact ⟨w', f, rfl, hAfter, hShows'⟩
  | error cause =>
      rcases hOrderly.lose hShows hSend with
        ⟨e, hBefore, hShows'⟩
      rw [hSettled.later_eq hBefore] at hShows'
      exact .attended rfl hShows' hSettled

------------------------------------------------------------
-- Requests
------------------------------------------------------------

/-
  After a failure the client has no worker, or a new one that
  has been asked nothing.
-/
def Afresh
    (x : Option Dialogue) : Prop :=
  x = none ∨ x = some .opened

/-
  The dialogue goes on from the one before, or with a new
  worker.
-/
def GoesOn
    (x : Option Dialogue)
    (d : Dialogue) : Prop :=
  x = some d ∨ d = .opened

/-
  The response is that of the present worker to the request,
  which is the last thing it was asked.
-/
def Heard
    (x : Option Dialogue)
    (r : Request)
    (p : Response)
    (y : Option Dialogue) : Prop :=
  r ≠ .shutdown ∧
    ∃ d, GoesOn x d ∧ y = some (d.exchange r p)

/- What is known of a request that was sent, or was not. -/
def Sent
    (shows : ω → Dialogue → Prop)
    (x : Option Dialogue)
    (r : Request)
    (result : Except ClientFault Unit)
    (c : Client ω) : Prop :=
  match result with
  | .ok () => ∃ d, GoesOn x d ∧ d.Settled ∧ Asked shows c d r
  | .error _ => ∃ y, Afresh y ∧ Rests shows c y

/- A second attempt, with the worker that has just greeted. -/
theorem ends_retry
    (hOrderly : t.Orderly shows)
    (x : Option Dialogue)
    (r : Request)
    (now : Client ω × σ) :
    Ends
      (do
        restart t
        match ← deliver t r with
        | .ok () => return
        | .error cause => throw (.undelivered cause))
      now (Sent shows x r) := by
  refine Ends.bind (ends_restart hOrderly now) ?_ ?_
  · intro _ next hRests
    refine Ends.bind (ends_deliver hOrderly hRests r) ?_ ?_
    · intro sent after hSent
      cases sent with
      | ok => exact ⟨.opened, .inr rfl, ⟨rfl, rfl⟩, hSent⟩
      | error cause => exact ⟨_, .inr rfl, hSent⟩
    · exact fun _ _ hNever => hNever.elim
  · intro _ c hRests
    exact ⟨none, .inl rfl, hRests⟩

/- A worker that does not take a request is replaced. -/
theorem ends_attempt
    (hOrderly : t.Orderly shows)
    {now : Client ω × σ}
    {x : Option Dialogue}
    {d : Dialogue}
    (hGoesOn : GoesOn x d)
    (hRests : Rests shows now.1 (some d))
    (r : Request) :
    Ends
      (do
        match ← deliver t r with
        | .ok () => return
        | .error _ =>
            restart t
            match ← deliver t r with
            | .ok () => return
            | .error cause => throw (.undelivered cause))
      now (Sent shows x r) := by
  refine Ends.bind (ends_deliver hOrderly hRests r) ?_ ?_
  · intro sent next hSent
    cases sent with
    | ok =>
        cases hRests with
        | attended _ _ hSettled =>
            exact ⟨d, hGoesOn, hSettled, hSent⟩
    | error cause => exact ends_retry hOrderly x r next
  · exact fun _ _ hNever => hNever.elim

theorem ends_send
    (hOrderly : t.Orderly shows)
    {now : Client ω × σ}
    {x : Option Dialogue}
    (hRests : Rests shows now.1 x)
    (r : Request) :
    Ends (send t r) now (Sent shows x r) := by
  unfold send
  refine Ends.bind
    (Q := fun result c => result = .ok now ∧ c = now.1)
    ⟨rfl, rfl⟩ ?_ (by simp)
  rintro _ next ⟨hNow, hSame⟩
  cases hNow
  rw [← hSame] at hRests ⊢
  cases hRests with
  | alone hAlone =>
      simp only [hAlone, Option.isNone_none, if_true]
      refine Ends.bind (ends_restart hOrderly next) ?_ ?_
      · intro _ after hRests
        exact ends_attempt hOrderly (.inr rfl) hRests r
      · intro _ c hRests
        exact ⟨none, .inl rfl, hRests⟩
  | attended hWorker hShows hSettled =>
      simp only [hWorker, Option.isNone_some, if_false,
        Bool.false_eq_true]
      exact ends_attempt hOrderly (.inl rfl)
        (.attended hWorker hShows hSettled) r

/- How a request ends: with its response, or with a failure. -/
def Answered
    (shows : ω → Dialogue → Prop)
    (x : Option Dialogue)
    (r : Request)
    (result : Except ClientFault Response)
    (c : Client ω) : Prop :=
  ∃ y, Rests shows c y ∧
    match result with
    | .ok p => Heard x r p y
    | .error _ => Afresh y

/- A worker from which nothing is heard is replaced. -/
theorem ends_crashed
    (hOrderly : t.Orderly shows)
    (x : Option Dialogue)
    (r : Request)
    (cause : Loss)
    (now : Client ω × σ) :
    Ends
      (do
        restart t
        throw (.crashed cause))
      now (Answered shows x r) := by
  refine Ends.bind (ends_restart hOrderly now) ?_ ?_
  · intro _ next hRests
    exact ⟨_, hRests, .inr rfl⟩
  · intro _ c hRests
    exact ⟨_, hRests, .inl rfl⟩

/- The response that comes is the one that is due. -/
theorem ends_receive
    (hOrderly : t.Orderly shows)
    {now : Client ω × σ}
    {x : Option Dialogue}
    {d : Dialogue}
    {r : Request}
    (hGoesOn : GoesOn x d)
    (hSettled : d.Settled)
    (hAsked : Asked shows now.1 d r) :
    Ends (receive t) now (Answered shows x r) := by
  rcases now with ⟨c, s⟩
  rcases hAsked with ⟨w, e, hWorker, hLater, hShows⟩
  replace hWorker : c.worker = some w := hWorker
  rcases hReceive : t.receive w s with ⟨reply, w', s'⟩
  unfold Ends receive
  rw [run_bind, run_get]
  simp only [hWorker, hReceive]
  rw [run_bind, run_set]
  cases reply with
  | error cause => exact ends_crashed hOrderly x r cause _
  | ok p =>
      rcases hOrderly.receive hShows hReceive with
        ⟨f, l, g, h, hBefore, hReads, hHeard, hAfter, hShows'⟩
      rcases d with ⟨due, unread, read⟩
      obtain ⟨rfl, rfl⟩ := hSettled
      rcases hReads.of_due (hLater.trans hBefore) hAfter with
        ⟨hScan, hRequest, rfl⟩
      have hLetter : l = ⟨some r, p⟩ := by
        cases l
        simp_all
      rw [hLetter] at hShows'
      refine ⟨_, .attended rfl hShows' ⟨rfl, rfl⟩, ?_, _,
        hGoesOn, rfl⟩
      rintro rfl
      exact hScan rfl

theorem ends_request
    (hOrderly : t.Orderly shows)
    {now : Client ω × σ}
    {x : Option Dialogue}
    (hRests : Rests shows now.1 x)
    (r : Request) :
    Ends (request t r) now (Answered shows x r) := by
  refine Ends.bind (ends_send hOrderly hRests r) ?_ ?_
  · rintro _ next ⟨d, hGoesOn, hSettled, hAsked⟩
    exact ends_receive hOrderly hGoesOn hSettled hAsked
  · rintro _ c ⟨y, hAfresh, hRests⟩
    exact ⟨y, hRests, hAfresh⟩

/- A client that asked its worker to stop has none. -/
theorem ends_shutdown
    (now : Client ω × σ) :
    Ends (shutdown t) now
      (fun result c =>
        (∃ state, result = .ok state) ∧ c.worker = none) := by
  rcases now with ⟨c, s⟩
  unfold Ends shutdown
  rw [run_bind, run_get]
  cases hWorker : c.worker with
  | none =>
      simp only [hWorker, run_pure]
      exact ⟨⟨_, rfl⟩, trivial⟩
  | some w =>
      simp only [hWorker, run_bind, run_set, run_pure]
      exact ⟨⟨_, rfl⟩, trivial⟩

------------------------------------------------------------
-- Calls
------------------------------------------------------------

/- What a client is called upon to do. -/
inductive Call where
  | request (r : Request)
  | syncPath (path : RawText)
  | restart
  | shutdown

/- The responses a call gives. -/
def Call.act
    (t : Transport σ ω) : Call → Action σ ω (List Response)
  | request r => do return [← Client.request t r]
  | syncPath path => Client.syncPath t path
  | restart => do
      Client.restart t
      return []
  | shutdown => do
      let _ ← Client.shutdown t
      return []

/-
  The responses of a call, by the dialogue of the worker at its
  start and that of the worker at its end.
-/
inductive Call.Accounts :
    Call → Option Dialogue →
      Except ClientFault (List Response) →
        Option Dialogue → Prop where
  | answered
      {r : Request}
      {p : Response}
      {x y : Option Dialogue} :
      Heard x r p y →
        Accounts (.request r) x (.ok [p]) y
  | synced
      {path : RawText}
      {p : Response}
      {x y : Option Dialogue} :
      Heard x (.fileChanged path.toText) p y →
        Accounts (.syncPath path) x (.ok [p]) y
  | rescanned
      {path : RawText}
      {p q : Response}
      {x y z : Option Dialogue} :
      Heard x (.fileChanged path.toText) p y →
        Heard y .fullScan q z →
          Accounts (.syncPath path) x (.ok [p, q]) z
  | restarted
      {x : Option Dialogue} :
      Accounts .restart x (.ok []) (some .opened)
  | stopped
      {x : Option Dialogue} :
      Accounts .shutdown x (.ok []) none
  | failed
      {call : Call}
      {f : ClientFault}
      {x y : Option Dialogue} :
      Afresh y →
        Accounts call x (.error f) y

/- A client that rests accounts for a call, and rests again. -/
theorem ends_call
    (hOrderly : t.Orderly shows)
    (now : Client ω × σ)
    {x : Option Dialogue}
    (hRests : Rests shows now.1 x)
    (call : Call) :
    Ends (call.act t) now
      (fun result c =>
        ∃ y, Rests shows c y ∧ call.Accounts x result y) := by
  cases call with
  | request r =>
      refine Ends.bind (ends_request hOrderly hRests r) ?_ ?_
      · rintro p next ⟨y, hRests, hHeard⟩
        exact ⟨y, hRests, .answered hHeard⟩
      · rintro _ c ⟨y, hRests, hAfresh⟩
        exact ⟨y, hRests, .failed hAfresh⟩
  | syncPath path =>
      refine Ends.bind
        (ends_request hOrderly hRests (.fileChanged path.toText))
        ?_ ?_
      · rintro p next ⟨y, hRests, hHeard⟩
        cases p with
        | missing _ =>
            refine Ends.bind
              (ends_request hOrderly hRests .fullScan) ?_ ?_
            · rintro q after ⟨z, hRests, hAgain⟩
              exact ⟨z, hRests, .rescanned hHeard hAgain⟩
            · rintro _ c ⟨z, hRests, hAfresh⟩
              exact ⟨z, hRests, .failed hAfresh⟩
        | ready => exact ⟨y, hRests, .synced hHeard⟩
        | result => exact ⟨y, hRests, .synced hHeard⟩
        | error => exact ⟨y, hRests, .synced hHeard⟩
      · rintro _ c ⟨y, hRests, hAfresh⟩
        exact ⟨y, hRests, .failed hAfresh⟩
  | restart =>
      refine Ends.bind (ends_restart hOrderly now) ?_ ?_
      · intro _ next hRests
        exact ⟨_, hRests, .restarted⟩
      · intro _ c hRests
        exact ⟨_, hRests, .failed (.inl rfl)⟩
  | shutdown =>
      refine Ends.bind (ends_shutdown now) ?_ ?_
      · rintro _ next ⟨_, hAlone⟩
        exact ⟨none, .alone hAlone, .stopped⟩
      · rintro _ _ ⟨⟨_, hOk⟩, _⟩
        cases hOk

------------------------------------------------------------
-- Many Calls
------------------------------------------------------------

/-
  Calls one after the other, each with the outside as it is at
  its start.  Before each call and after the last one the
  client rests, and the responses of each call are accounted
  for.
-/
inductive Accounted
    (t : Transport σ ω)
    (shows : ω → Dialogue → Prop) :
    List (σ × Call) → Client ω → Option Dialogue → Prop where
  | done
      {c : Client ω}
      {x : Option Dialogue} :
      Rests shows c x →
        Accounted t shows [] c x
  | call
      {s s' : σ}
      {call : Call}
      {calls : List (σ × Call)}
      {c c' : Client ω}
      {x y : Option Dialogue}
      {result : Except ClientFault (List Response)} :
      Rests shows c x →
        (call.act t).run.run (c, s) = (result, c', s') →
          call.Accounts x result y →
            Accounted t shows calls c' y →
              Accounted t shows ((s, call) :: calls) c x

theorem accounted_of_rests
    (hOrderly : t.Orderly shows)
    {c : Client ω}
    {x : Option Dialogue}
    (hRests : Rests shows c x)
    (calls : List (σ × Call)) :
    Accounted t shows calls c x := by
  induction calls generalizing c x with
  | nil => exact .done hRests
  | cons next calls ih =>
      rcases next with ⟨s, call⟩
      rcases ends_call hOrderly (c, s) hRests call with
        ⟨y, hAfter, hAccounts⟩
      exact .call hRests rfl hAccounts (ih hAfter)

/-
  A client that was started makes any calls, and any of its
  workers may be gone at any moment.  Each response it gives is
  the one that its present worker gave to that request, after
  all the client had asked that worker before; and between two
  calls nothing is due to it and nothing is left unread.
-/
theorem calls_accounted
    (hOrderly : t.Orderly shows)
    {root : RawText}
    {s s' : σ}
    {c : Client ω}
    (hStart :
      (start t).run.run (idle root, s) = (.ok (), c, s'))
    (calls : List (σ × Call)) :
    Accounted t shows calls c (some .opened) := by
  have hRests := ends_start hOrderly (idle root, s) rfl
  unfold Ends at hRests
  rw [hStart] at hRests
  exact accounted_of_rests hOrderly hRests calls

end

/- A directory without files can be scanned. -/
theorem exists_greet :
    let d : Disk := ⟨.directory [("r", .directory [])]⟩
    ∃ a c,
      Service.greet a d =
        (.ready, some (.ofCoordinator c)) := by
  intro d
  rcases Analyzer.exists_withRegistry "/r" with ⟨a, hMade, _⟩
  rcases Analyzer.of_withRegistry hMade with
    ⟨hRoot, hSelector⟩
  have hTidy : d.root.Tidy := by
    refine .directory (by decide) (by decide +kernel) ?_
    simp only [List.mem_singleton, forall_eq]
    exact Entry.tidy_empty
  have hFiles : d.filesBelow sourceWalk "/r" = [] := by
    decide +kernel
  have hReadable : a.Readable d := by
    refine ⟨?_, ?_⟩
    · rw [hRoot]
      decide +kernel
    · rw [hRoot, hFiles]
      simp
  exact ⟨a, _, Service.greet_of_start
    (Coordinator.start_eq_ok hSelector hTidy hReadable)⟩

/-
  A worker dies after it was asked for a scan and before its
  response is read.  The next call goes to a new worker.
-/
theorem calls_accounted_struck :
    let d : Disk := ⟨.directory [("r", .directory [])]⟩
    ∃ a c s,
      let t :=
        (Transport.hosted
          (fun _ d =>
            .ok (.ofAnalyzer a d .outputClosed))).mortal
      (start t).run.run (idle "/r", d, []) = (.ok (), c, s) ∧
        (((Call.request .fullScan).act t).run.run
            (c, d, [false, true])).1 =
          .error (.crashed .outputClosed) ∧
        Accounted t (Transport.Outlives Hosted.Shows)
          [ ((d, [false, true]), .request .fullScan),
            ((d, []), .syncPath "x.ts") ]
          c (some .opened) := by
  intro d
  rcases exists_greet with ⟨a, k, hGreet⟩
  let t :=
    (Transport.hosted
      (fun _ d => .ok (.ofAnalyzer a d .outputClosed))).mortal
  let c (n : Nat) : Client (Option Hosted) :=
    ⟨"/r", some (some (.idle k .outputClosed)), n⟩
  have hStarted :
      Hosted.ofAnalyzer a d .outputClosed =
        ⟨some (.ofCoordinator k), [.ready], .outputClosed⟩ := by
    unfold Hosted.ofAnalyzer
    rw [hGreet]
  have hStart :
      ∀ n,
        (start t).run.run (⟨"/r", none, n⟩, d, []) =
          (.ok (), c n, d, []) := by
    intro n
    unfold start
    rw [run_bind, run_get]
    simp only [t, Transport.mortal, Transport.hosted]
    rw [hStarted]
    rfl
  have hOrderly :
      t.Orderly (Transport.Outlives Hosted.Shows) := by
    refine (Transport.orderly_hosted ?_).mortal
    rintro _ d _ ⟨⟩
    exact Hosted.exists_shows_ofAnalyzer a d _
  refine ⟨a, c 0, (d, []), hStart 0, ?_,
    calls_accounted hOrderly (hStart 0) _⟩
  let w : Option Hosted :=
    some
      { Hosted.idle (k.handle d .fullScan).2 .outputClosed with
        outbox := [(k.handle d .fullScan).1] }
  have hSend :
      t.send (some (.idle k .outputClosed)) .fullScan
          (d, [false, true]) =
        (.ok (), w, d, [true]) := by
    simp only [t, Transport.mortal, Transport.hosted,
      Transport.spared, List.head?_cons, Option.some.injEq,
      Bool.false_eq_true, if_false, Hosted.send_idle k
        .outputClosed d (r := .fullScan) (by simp)]
    rfl
  have hReceive :
      (receive t).run.run (⟨"/r", some w, 0⟩, d, [true]) =
        (.error (.crashed .outputClosed), c 1, d, []) := by
    have hLost :
        t.receive w (d, [true]) =
          (.error .outputClosed, none, d, []) := rfl
    have hRestart :
        (restart t).run.run (⟨"/r", some none, 0⟩, d, []) =
          (.ok (), c 1, d, []) :=
      hStart 1
    simp only [receive, run_bind, run_get, run_set, hLost,
      hRestart]
    rfl
  change
    (((Call.request .fullScan).act t).run.run
      (c 0, d, [false, true])).1 = _
  rw [Call.act, run_bind, request, run_bind, run_send hSend]
  simp only [hReceive]

end Client

end ModuleLint
