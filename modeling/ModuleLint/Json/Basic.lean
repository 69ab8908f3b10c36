/-
  Values of the JSON data format.

  Whole numbers and others stay apart.  Objects keep every
  pair in the order in which it was written.

  Key definitions include:
    * `Numeral`
    * `Json`
    * `Numeral.toNatBelow?`, `Numeral.toFloat`
-/

namespace ModuleLint

------------------------------------------------------------
-- Numbers
------------------------------------------------------------

/- A number, with whole numbers kept apart from the others. -/
inductive Numeral where
  | whole (value : Int)
  | real (value : Float)
deriving Repr, Inhabited

namespace Numeral

/- A natural number. -/
def ofNat
    (n : Nat) : Numeral :=
  whole n

/- An integer. -/
def ofInt
    (n : Int) : Numeral :=
  whole n

/- The natural number below a bound. -/
def toNatBelow?
    (bound : Nat) : Numeral → Option Nat
  | whole n =>
      if 0 ≤ n && n < bound then some n.toNat else none
  | real _ => none

/- The nearest floating point number. -/
def toFloat : Numeral → Float
  | whole n => Float.ofInt n
  | real x => x

/-
  The floating point number nearest to digits times a power of
  ten, with powers that decide everything cut off.
-/
def scientific
    (digits : Nat)
    (exponent : Int) : Float :=
  if digits == 0 then
    0.0
  else if exponent > 400 then
    1.0 / 0.0
  else if exponent < -400 - (Nat.toDigits 10 digits).length then
    0.0
  else
    Float.ofScientific digits (exponent < 0) exponent.natAbs

end Numeral

------------------------------------------------------------
-- Values
------------------------------------------------------------

/- A value of the data format. -/
inductive Json where
  | null
  | bool (value : Bool)
  | number (value : Numeral)
  | string (value : String)
  | array (items : List Json)
  | object (members : List (String × Json))
deriving Repr, Inhabited

namespace Json

/- A natural number as a value. -/
def nat
    (n : Nat) : Json :=
  number (.ofNat n)

/- An integer as a value. -/
def int
    (n : Int) : Json :=
  number (.ofInt n)

/- The value or nothing. -/
def ofOption
    {α : Type}
    (f : α → Json) : Option α → Json
  | some a => f a
  | none => null

/- A list of texts. -/
def strings
    (ss : List String) : Json :=
  array (ss.map string)

/- The last member of the given name. -/
def get?
    (j : Json)
    (name : String) : Option Json :=
  match j with
  | object ms =>
      (ms.reverse.find? (fun m => m.1 == name)).map (·.2)
  | _ => none

mutual

/-
  The value with each name of an object once.  Of several
  members with one name the last one counts, where the first
  one stood.
-/
def unique : Json → Json
  | array xs => array (uniqueItems xs)
  | object ms => object (uniqueMembers ms)
  | j => j

/- The items of an array with each name once. -/
def uniqueItems : List Json → List Json
  | [] => []
  | x :: xs => x.unique :: uniqueItems xs

/- The members of an object with each name once. -/
def uniqueMembers :
    List (String × Json) → List (String × Json)
  | [] => []
  | (k, v) :: ms =>
      let later := uniqueMembers ms
      match later.find? (fun m => m.1 == k) with
      | some m => m :: later.filter (fun m => m.1 != k)
      | none => (k, v.unique) :: later

end

/- The text of a string value. -/
def asString? : Json → Option String
  | string s => some s
  | _ => none

/- The items of an array. -/
def asArray? : Json → Option (List Json)
  | array xs => some xs
  | _ => none

/- The members of an object. -/
def asObject? : Json → Option (List (String × Json))
  | object ms => some ms
  | _ => none

end Json

end ModuleLint
