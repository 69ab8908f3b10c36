import ModuleLint.Json.Basic

/-
  Taking values of other types out of JSON.

  A record is read from an object by the names of its fields,
  or from an array by their order.  A field that is known may
  be written only once; unknown fields are passed over.

  Key definitions include:
    * `Json.Row`, `Json.row?`
    * `Json.Row.required`, `Json.Row.optional`,
      `Json.Row.defaulted`
    * `Json.asEnum?`
-/

namespace ModuleLint

namespace Json

------------------------------------------------------------
-- Simple Values
------------------------------------------------------------

/- A natural number below a bound. -/
def asNatBelow?
    (bound : Nat) : Json → Option Nat
  | number n => n.toNatBelow? bound
  | _ => none

/- A natural number of thirty-two bits. -/
def asNat32? : Json → Option Nat :=
  asNatBelow? (Nat.pow 2 32)

/- A natural number of sixty-four bits. -/
def asNat64? : Json → Option Nat :=
  asNatBelow? (Nat.pow 2 64)

/- A floating point number. -/
def asFloat? : Json → Option Float
  | number n => some n.toFloat
  | _ => none

/- A truth value. -/
def asBool? : Json → Option Bool
  | bool b => some b
  | _ => none

/- All items of an array, if each can be taken. -/
def asList?
    {α : Type}
    (f : Json → Option α) : Json → Option (List α)
  | array xs => xs.mapM f
  | _ => none

/- A value that may be null. -/
def asNullable?
    {α : Type}
    (f : Json → Option α) : Json → Option (Option α)
  | null => some none
  | j => (f j).map some

/-
  One of several names, written as a text or as an object
  whose only member has that name and holds nothing.
-/
def asEnum?
    {α : Type}
    (f : String → Option α) : Json → Option α
  | string s => f s
  | object [(s, null)] => f s
  | _ => none

/-
  A dictionary.  Of several members with one name the last one
  counts, but it stands where the first one stood.
-/
def asDict?
    {α : Type}
    (f : Json → Option α) :
    Json → Option (List (String × α))
  | object ms => do
      let pairs ← ms.mapM (fun m => (f m.2).map (m.1, ·))
      some
        (pairs.foldl
          (fun seen p =>
            if seen.any (fun q => q.1 == p.1) then
              seen.map (fun q => if q.1 == p.1 then p else q)
            else
              seen ++ [p])
          [])
  | _ => none

------------------------------------------------------------
-- Records
------------------------------------------------------------

/- The fields of a record, by name or by position. -/
structure Row where
  cells : List (String × Json)
  positional : Bool
deriving Inhabited

/- The fields of a record with the given field names. -/
def row?
    (names : List String) : Json → Option Row
  | object ms =>
      let known := ms.filter (fun m => names.contains m.1)
      if (known.map (·.1)).Nodup then
        some ⟨known, false⟩
      else
        none
  | array xs =>
      if xs.length ≤ names.length then
        some ⟨names.zip xs, true⟩
      else
        none
  | _ => none

namespace Row

/- The field of the given name. -/
def cell?
    (r : Row)
    (name : String) : Option Json :=
  (r.cells.find? (fun c => c.1 == name)).map (·.2)

/- A field that has to be there. -/
def required
    {α : Type}
    (r : Row)
    (name : String)
    (f : Json → Option α) : Option α := do
  f (← r.cell? name)

/- A field that may be missing by name, or null. -/
def optional
    {α : Type}
    (r : Row)
    (name : String)
    (f : Json → Option α) : Option (Option α) :=
  match r.cell? name with
  | some j => asNullable? f j
  | none => if r.positional then none else some none

/- A field with a default. -/
def defaulted
    {α : Type}
    (r : Row)
    (name : String)
    (f : Json → Option α)
    (value : α) : Option α :=
  match r.cell? name with
  | some j => f j
  | none => some value

end Row

end Json

end ModuleLint
