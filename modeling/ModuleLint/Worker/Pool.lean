import ModuleLint.Path.Basic

/-
  One place for each root.

  Roots are the same if their parts are, and the root that was
  registered first keeps its spelling.  A path belongs to the
  innermost root above it.

  Key definitions include:
    * `Pool`, `Pool.register`
    * `Pool.slotFor?`
-/

namespace ModuleLint

/- A root and what is kept for it. -/
structure Slot (α : Type) where
  root : RawText
  content : α
deriving DecidableEq, Repr, Inhabited

/- Roots in the order in which they were registered. -/
structure Pool (α : Type) where
  slots : List (Slot α)
deriving DecidableEq, Repr, Inhabited

namespace Slot

variable {α : Type}

/- The parts of the root. -/
def parts
    (s : Slot α) : List Part :=
  Path.partsOf s.root

/- The path lies at or below the root. -/
def covers
    (s : Slot α)
    (path : RawText) : Bool :=
  Path.isBelow s.root path

end Slot

namespace Pool

variable {α : Type}

/- No roots. -/
def empty : Pool α :=
  ⟨[]⟩

/- The number of roots. -/
def size
    (p : Pool α) : Nat :=
  p.slots.length

/- The slot of a root. -/
def slot?
    (p : Pool α)
    (root : RawText) : Option (Slot α) :=
  p.slots.find? (fun s => s.parts == Path.partsOf root)

/- One more root, unless it is known. -/
def register
    (p : Pool α)
    (root : RawText)
    (content : α) : Pool α :=
  match p.slot? root with
  | some _ => p
  | none => ⟨p.slots ++ [⟨root, content⟩]⟩

/- The deeper one of two slots. -/
def deeper
    (best : Option (Slot α))
    (s : Slot α) : Option (Slot α) :=
  match best with
  | none => some s
  | some b =>
      if b.parts.length < s.parts.length then some s else some b

/- The slot of the innermost root above a path. -/
def slotFor?
    (p : Pool α)
    (path : RawText) : Option (Slot α) :=
  (p.slots.filter (fun s => s.covers path)).foldl deeper none

/- The slots with what is kept for one root replaced. -/
def update
    (p : Pool α)
    (root : RawText)
    (content : α) : Pool α :=
  ⟨p.slots.map
    (fun s =>
      if s.parts == Path.partsOf root then { s with content }
      else s)⟩

end Pool

end ModuleLint
