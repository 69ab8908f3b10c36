import ModuleLint.Decimal.Shortest

/-
  Numbers with a fixed number of decimal places.

  The exact value of a binary number is rounded to the nearest
  decimal number; a tie goes to the even one.

  Key definitions include:
    * `Decimal.roundDiv`
    * `Decimal.fixed`
-/

namespace ModuleLint

namespace Decimal

/- A quotient rounded to nearest, with ties to even. -/
def roundDiv
    (a b : Nat) : Nat :=
  let q := a / b
  let r := a % b
  if 2 * r < b then q
  else if b < 2 * r then q + 1
  else if q % 2 = 0 then q
  else q + 1

/- A count of last places as digits with a point. -/
def placeDigits
    (places n : Nat) : String :=
  let whole := n / Nat.pow 10 places
  let part := Nat.toDigits 10 (n % Nat.pow 10 places)
  let zeros := List.replicate (places - part.length) '0'
  if places = 0 then
    whole.repr
  else
    whole.repr ++ "." ++ String.ofList (zeros ++ part)

/- A number with the given number of places. -/
def fixed
    (places : Nat)
    (x : Float) : String :=
  if x.isNaN then
    "NaN"
  else
    let sign :=
      if x.toBits.toNat / Nat.pow 2 63 = 1 then "-" else ""
    if x.isInf then
      sign ++ "inf"
    else
      let b := Binary.ofFloat x
      let n :=
        roundDiv
          (b.significand * powerAbove 2 b.exponent *
            Nat.pow 10 places)
          (powerBelow 2 b.exponent)
      sign ++ placeDigits places n

end Decimal

end ModuleLint
