import ModuleLint.Worker.Client

/-
  Workers whose replies are fixed in advance.

  Such a worker says its first reply at once and each further
  one after a line it hears.  At the end it may wait for one
  more line before it is gone.  The workers of a script are
  started one after the other.

  Key definitions include:
    * `Lifetime`
    * `Scripted`
    * `Transport.scripted`
-/

namespace ModuleLint

/- What one worker says, and how it ends. -/
structure Lifetime where
  replies : List String
  exit : Int := 0
  lastRequest : Bool := true
deriving DecidableEq, Repr, Inhabited

/- A worker that follows its script. -/
structure Scripted where
  said : List String
  toSay : List String
  exit : Int
  waits : Bool
  isGone : Bool
deriving DecidableEq, Repr, Inhabited

namespace Scripted

/- The lines of a reply. -/
def linesOf
    (reply : String) : List String :=
  Text.splitAt '\n' reply

/- The worker is gone once it has nothing to wait for. -/
def settle
    (w : Scripted) : Scripted :=
  { w with isGone := w.isGone || (w.toSay.isEmpty && !w.waits) }

/- The worker of a lifetime. -/
def ofLifetime
    (l : Lifetime) : Scripted :=
  settle
    { said := (l.replies.take 1).flatMap linesOf
      toSay := l.replies.drop 1
      exit := l.exit
      waits := l.lastRequest
      isGone := false }

/- The worker hears a line. -/
def hear
    (w : Scripted) : Scripted :=
  match w.toSay with
  | reply :: rest =>
      settle
        { w with
          said := w.said ++ linesOf reply
          toSay := rest }
  | [] => settle { w with waits := false }

/- A request is delivered, unless nobody is there. -/
def send
    (w : Scripted) : Except Loss Unit × Scripted :=
  if w.isGone then (.error .pipeBroken, w)
  else (.ok (), w.hear)

/- The next line that is not blank. -/
def receive
    (w : Scripted) : Except Loss Response × Scripted :=
  let rest :=
    w.said.dropWhile (fun s => (Text.trim s).isEmpty)
  match rest with
  | [] => (.error .outputClosed, { w with said := [] })
  | s :: more =>
      ( (Response.ofLine s).mapError .badMessage,
        { w with said := more } )

/- The state in which the worker ends. -/
def wait
    (w : Scripted) : WorkerState :=
  if w.exit = 0 then .stopped else .crashed

end Scripted

/- Workers that follow the lifetimes of a script. -/
def Transport.scripted :
    Transport (List Lifetime) Scripted where
  spawn := fun _ script =>
    match script with
    | [] => (.ok (.ofLifetime ⟨[], 0, false⟩), [])
    | l :: rest => (.ok (.ofLifetime l), rest)
  send := fun w _ script =>
    let (sent, w) := w.send
    (sent, w, script)
  receive := fun w script =>
    let (r, w) := w.receive
    (r, w, script)
  wait := fun w script => (w.wait, script)

end ModuleLint
