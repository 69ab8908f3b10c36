/-
  Decimal texts of floating point numbers.

  A number is written with the fewest digits that read back as
  the same number.  The digits are found in exact arithmetic:
  on ever finer grids of powers of ten, the first point that
  rounds to the number.

  Key definitions include:
    * `Binary`, `Binary.ofFloat`
    * `Decimal`, `Decimal.shortest`
    * `Decimal.positional`
    * `Decimal.ofFloat`
-/

namespace ModuleLint

------------------------------------------------------------
-- Binary Numbers
------------------------------------------------------------

/-
  A positive finite number: its significand times a power of
  two.  The gap below is half as wide where the significand is
  the least one of its size.
-/
structure Binary where
  significand : Nat
  exponent : Int
  narrowBelow : Bool
deriving DecidableEq, Repr, Inhabited

namespace Binary

/- The magnitude of a floating point number. -/
def ofFloat
    (x : Float) : Binary :=
  let bits := x.toBits.toNat
  let field : Nat := bits / Nat.pow 2 52 % Nat.pow 2 11
  let fraction := bits % Nat.pow 2 52
  if field = 0 then
    ⟨fraction, -1074, false⟩
  else
    ⟨fraction + Nat.pow 2 52, (field : Int) - 1075,
      fraction == 0 && field > 1⟩

/- Four times the number, in units of its power of two. -/
def quarters
    (b : Binary) : Nat :=
  4 * b.significand

/- The least quarters that round to the number. -/
def lowQuarters
    (b : Binary) : Nat :=
  if b.narrowBelow then b.quarters - 1 else b.quarters - 2

/- The greatest quarters that round to the number. -/
def highQuarters
    (b : Binary) : Nat :=
  b.quarters + 2

/- The ends of the interval round to the number themselves. -/
def closed
    (b : Binary) : Bool :=
  b.significand % 2 == 0

end Binary

------------------------------------------------------------
-- Decimal Numbers
------------------------------------------------------------

/- Digits times a power of ten. -/
structure Decimal where
  digits : Nat
  exponent : Int
deriving DecidableEq, Repr, Inhabited

namespace Decimal

/- The part of a power that multiplies. -/
def powerAbove
    (base : Nat)
    (e : Int) : Nat :=
  Nat.pow base e.toNat

/- The part of a power that divides. -/
def powerBelow
    (base : Nat)
    (e : Int) : Nat :=
  Nat.pow base (-e).toNat

/-
  Quarters of a binary number and points of a decimal grid on
  one scale.
-/
structure Scale where
  quarter : Nat
  point : Nat

/- The scale of a binary number and a power of ten. -/
def Scale.of
    (b : Binary)
    (e : Int) : Scale :=
  { quarter :=
      powerAbove 2 (b.exponent - 2) * powerBelow 10 e
    point :=
      powerAbove 10 e * powerBelow 2 (b.exponent - 2) }

/- The point of the grid rounds to the number. -/
def fits
    (b : Binary)
    (s : Scale)
    (n : Nat) : Bool :=
  let low := b.lowQuarters * s.quarter
  let high := b.highQuarters * s.quarter
  let p := n * s.point
  if b.closed then low ≤ p && p ≤ high
  else low < p && p < high

/- The nearest point of the grid that rounds to the number. -/
def onGrid?
    (b : Binary)
    (e : Int) : Option Decimal :=
  let s := Scale.of b e
  let v := b.quarters * s.quarter
  let n := v / s.point
  let below := fits b s n
  let above := fits b s (n + 1)
  let lowNearer := v - n * s.point ≤ (n + 1) * s.point - v
  if below && (lowNearer || !above) then some ⟨n, e⟩
  else if above then some ⟨n + 1, e⟩
  else none

/- The first grid with a point that rounds to the number. -/
def search
    (b : Binary) : Nat → Int → Decimal
  | 0, e => ⟨0, e⟩
  | fuel + 1, e =>
      match onGrid? b e with
      | some d => d
      | none => search b fuel (e - 1)

/- The fewest digits that round to the number. -/
def shortest
    (b : Binary) : Decimal :=
  if b.significand = 0 then ⟨0, 0⟩ else search b 700 310

/- A decimal without an exponent. -/
def positional
    (d : Decimal) : String :=
  let digits := Nat.toDigits 10 d.digits
  if 0 ≤ d.exponent then
    if d.digits = 0 then "0"
    else
      String.ofList
        (digits ++ List.replicate d.exponent.toNat '0')
  else
    let places := (-d.exponent).toNat
    let padded :=
      List.replicate (places + 1 - digits.length) '0' ++ digits
    let whole := padded.take (padded.length - places)
    let fraction := padded.drop (padded.length - places)
    String.ofList (whole ++ '.' :: fraction)

/-
  A floating point number in decimal, without an exponent and
  without a point behind a whole number.
-/
def ofFloat
    (x : Float) : String :=
  if x.isNaN then "NaN"
  else
    let sign :=
      if x.toBits.toNat / Nat.pow 2 63 = 1 then "-" else ""
    if x.isInf then sign ++ "inf"
    else sign ++ (shortest (Binary.ofFloat x)).positional

end Decimal

end ModuleLint
