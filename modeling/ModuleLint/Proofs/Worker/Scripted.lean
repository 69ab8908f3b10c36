import ModuleLint.Worker.Scripted
import ModuleLint.Proofs.Worker.Client
import ModuleLint.Proofs.Worker.Wire

/-
  What is heard from workers that say lines.

  A worker that writes its responses one a line, with blank
  lines between them, is heard response by response.  When it
  has nothing left to say, its client is told that it crashed
  and goes on with the next worker.

  Main declarations:
    * `Scripted.receive_line`
    * `Lifetime.saying`, `Scripted.saying`
    * `Client.run_start_scripted`, `Client.run_requests_scripted`
    * `Client.run_request_exhausted`
-/

namespace ModuleLint

------------------------------------------------------------
-- Lines
------------------------------------------------------------

namespace Scripted

/- Blank lines are passed over, and the next one is read. -/
theorem receive_line
    (w : Scripted)
    (blanks : List String)
    (hBlanks : ∀ s ∈ blanks, (Text.trim s).isEmpty = true)
    {p : Response}
    (hFits : p.Fits)
    (more : List String) :
    { w with said := blanks ++ p.line :: more }.receive =
      (.ok p, { w with said := more }) := by
  have hFramed := Response.framed hFits
  have hRest :
      (blanks ++ p.line :: more).dropWhile
          (fun s => (Text.trim s).isEmpty) =
        p.line :: more := by
    rw [List.dropWhile_append_of_pos hBlanks,
      List.dropWhile_cons_of_neg (by simp [hFramed.filled])]
  unfold receive
  simp only [hRest, hFramed.read]
  rfl

theorem linesOf_line
    {p : Response}
    (hFits : p.Fits) :
    linesOf p.line = [p.line] :=
  Text.splitAt_of_not_mem (Response.framed hFits).unbroken.1

end Scripted

------------------------------------------------------------
-- Responses in a Row
------------------------------------------------------------

/- A worker that greets and gives the responses in order. -/
def Lifetime.saying
    (ps : List Response) : Lifetime :=
  { replies := Response.ready.line :: ps.map Response.line }

namespace Scripted

/- A worker that has greeted and will give the responses. -/
def saying
    (ps : List Response) : Scripted :=
  { said := []
    toSay := ps.map Response.line
    exit := 0
    waits := true
    isGone := false }

/- A worker that has said everything and does not wait. -/
def spent : Scripted :=
  { saying [] with
    waits := false
    isGone := true }

/- A request is answered with the next response. -/
theorem send_saying
    {p : Response}
    (hFits : p.Fits)
    (ps : List Response) :
    (saying (p :: ps)).send =
      (.ok (), { saying ps with said := [p.line] }) := by
  simp [send, hear, settle, saying, linesOf_line hFits]

end Scripted

namespace Client

/- The first worker of a script greets. -/
theorem run_start_scripted
    (root : RawText)
    (restarts : Nat)
    (ps : List Response)
    (later : List Lifetime) :
    (start .scripted).run.run
        (⟨root, none, restarts⟩, .saying ps :: later) =
      (.ok (), ⟨root, some (.saying ps), restarts⟩, later) := by
  have hReady : Response.ready.Fits := trivial
  have hGreeting :
      { Scripted.saying ps with
          said := [Response.ready.line] }.receive =
        (.ok .ready, .saying ps) :=
    Scripted.receive_line (.saying ps) [] (by simp) hReady []
  have hBorn :
      Scripted.ofLifetime (.saying ps) =
        { Scripted.saying ps with
          said := [Response.ready.line] } := by
    simp [Scripted.ofLifetime, Lifetime.saying, Scripted.saying,
      Scripted.settle, Scripted.linesOf_line hReady]
  simp only [start, Transport.scripted, run_bind, run_get, hBorn,
    hGreeting, run_set]

theorem run_request_scripted
    {p : Response}
    (hFits : p.Fits)
    (ps : List Response)
    (r : Request)
    (root : RawText)
    (restarts : Nat)
    (later : List Lifetime) :
    (request .scripted r).run.run
        (⟨root, some (.saying (p :: ps)), restarts⟩, later) =
      (.ok p, ⟨root, some (.saying ps), restarts⟩, later) := by
  have hAnswer :
      { Scripted.saying ps with said := [p.line] }.receive =
        (.ok p, .saying ps) :=
    Scripted.receive_line (.saying ps) [] (by simp) hFits []
  have hSend :
      Transport.scripted.send (.saying (p :: ps)) r later =
        (.ok (), { Scripted.saying ps with said := [p.line] },
          later) := by
    simp only [Transport.scripted, Scripted.send_saying hFits]
  have hReceive :
      Transport.scripted.receive
          { Scripted.saying ps with said := [p.line] } later =
        (.ok p, .saying ps, later) := by
    simp only [Transport.scripted, hAnswer]
  exact run_request hSend hReceive root restarts

/- Each request is answered with the response of its turn. -/
theorem run_requests_scripted
    {ps : List Response}
    (hFits : ∀ p ∈ ps, p.Fits)
    (qs : List Response)
    {rs : List Request}
    (hLength : rs.length = ps.length)
    (root : RawText)
    (restarts : Nat)
    (later : List Lifetime) :
    (rs.mapM (request .scripted)).run.run
        (⟨root, some (.saying (ps ++ qs)), restarts⟩, later) =
      (.ok ps, ⟨root, some (.saying qs), restarts⟩, later) := by
  induction ps generalizing rs with
  | nil =>
      rw [List.eq_nil_of_length_eq_zero hLength]
      rfl
  | cons p ps ih =>
      rcases List.forall_mem_cons.mp hFits with
        ⟨hFirst, hOthers⟩
      cases rs with
      | nil => cases hLength
      | cons r rs =>
          have hRest := ih hOthers (Nat.succ.inj hLength)
          rw [List.cons_append, List.mapM_cons, run_bind,
            run_request_scripted hFirst]
          simp only [run_bind, hRest, run_pure]

/-
  A worker that has nothing left to say hears one more request
  and is gone.  The client says so, and the next worker of the
  script has greeted.
-/
theorem run_request_exhausted
    (r : Request)
    (root : RawText)
    (restarts : Nat)
    (ps : List Response)
    (later : List Lifetime) :
    (request .scripted r).run.run
        (⟨root, some (.saying []), restarts⟩,
          .saying ps :: later) =
      (.error (.crashed .outputClosed),
        ⟨root, some (.saying ps), restarts + 1⟩, later) := by
  have hSend :
      Transport.scripted.send (.saying []) r
          (.saying ps :: later) =
        (.ok (), .spent, .saying ps :: later) := rfl
  have hReceive :
      Transport.scripted.receive .spent (.saying ps :: later) =
        (.error .outputClosed, .spent, .saying ps :: later) :=
    rfl
  simp only [request, receive, restart, run_bind, run_send hSend,
    run_get, hReceive, run_set, run_modify, run_start_scripted,
    run_throw]

end Client

end ModuleLint
