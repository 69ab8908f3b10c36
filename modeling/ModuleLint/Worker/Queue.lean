import ModuleLint.Worker.Message

/-
  Requests that wait while a scan is running.

  Requests leave in the order in which they came.  A request
  for a scan that is waiting already is merged with it.

  Key definitions include:
    * `RequestQueue`, `RequestQueue.holds`
    * `RequestQueue.push`, `RequestQueue.pop`
-/

namespace ModuleLint

/- Requests that wait, the oldest one first. -/
structure RequestQueue where
  pending : List Request
deriving DecidableEq, Repr, Inhabited

namespace RequestQueue

/- No requests. -/
def empty : RequestQueue :=
  ⟨[]⟩

/- A request can be merged with one that waits. -/
def holds
    (q : RequestQueue)
    (r : Request) : Bool :=
  r != .shutdown && q.pending.contains r

/-
  One more request, with the news whether it waits on its own.
  Requests that can be merged are equal, so that nothing changes
  when they are.
-/
def push
    (q : RequestQueue)
    (r : Request) : Bool × RequestQueue :=
  if q.holds r then (false, q)
  else (true, ⟨q.pending ++ [r]⟩)

/- The oldest request, and the others. -/
def pop
    (q : RequestQueue) : Option Request × RequestQueue :=
  match q.pending with
  | [] => (none, q)
  | r :: rs => (some r, ⟨rs⟩)

/- The number of requests. -/
def size
    (q : RequestQueue) : Nat :=
  q.pending.length

/- No request waits. -/
def isEmpty
    (q : RequestQueue) : Bool :=
  q.pending.isEmpty

end RequestQueue

end ModuleLint
