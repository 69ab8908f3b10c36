import ModuleLint.Json.Basic

/-
  Reading JSON.

  The reader takes exactly the texts of the data format.  It
  refuses numbers too large for a floating point number, half
  surrogate pairs and values nested too deeply.

  Key definitions include:
    * `Json.readString`
    * `Json.readNumber`
    * `Json.read?`
-/

namespace ModuleLint

namespace Json

------------------------------------------------------------
-- Spaces
------------------------------------------------------------

/- The characters that may stand between tokens. -/
def isGap
    (c : Char) : Bool :=
  c == ' ' || c == '\t' || c == '\n' || c == '\r'

/- The text behind the spaces at its front. -/
def skipGaps
    (cs : List Char) : List Char :=
  cs.dropWhile isGap

------------------------------------------------------------
-- Strings
------------------------------------------------------------

/- The value of a hexadecimal digit. -/
def hexValue?
    (c : Char) : Option Nat :=
  if '0' ≤ c && c ≤ '9' then some (c.toNat - 48)
  else if 'a' ≤ c && c ≤ 'f' then some (c.toNat - 87)
  else if 'A' ≤ c && c ≤ 'F' then some (c.toNat - 55)
  else none

/- Four hexadecimal digits. -/
def fourHex? : List Char → Option (Nat × List Char)
  | a :: b :: c :: d :: rest => do
      let a ← hexValue? a
      let b ← hexValue? b
      let c ← hexValue? c
      let d ← hexValue? d
      some (a * 4096 + b * 256 + c * 16 + d, rest)
  | _ => none

/-
  A character written by its code, behind the backslash and
  the `u`.  Characters beyond sixteen bits are written as two
  codes.
-/
def codePoint?
    (cs : List Char) : Option (Char × List Char) := do
  let (high, rest) ← fourHex? cs
  if 0xD800 ≤ high && high ≤ 0xDBFF then
    match rest with
    | '\\' :: 'u' :: more =>
        let (low, rest) ← fourHex? more
        if 0xDC00 ≤ low && low ≤ 0xDFFF then
          some
            ( Char.ofNat
                (0x10000 + (high - 0xD800) * 1024 +
                  (low - 0xDC00)),
              rest )
        else
          none
    | _ => none
  else if 0xDC00 ≤ high && high ≤ 0xDFFF then
    none
  else
    some (Char.ofNat high, rest)

/- The character of an escape that is a single letter. -/
def plainEscape? : Char → Option Char
  | '"' => some '"'
  | '\\' => some '\\'
  | '/' => some '/'
  | 'b' => some (Char.ofNat 8)
  | 'f' => some (Char.ofNat 12)
  | 'n' => some '\n'
  | 'r' => some '\r'
  | 't' => some '\t'
  | _ => none

/-
  The inside of a string up to its closing quote, with the
  characters read so far, last one first.
-/
def readString :
    Nat → List Char → List Char → Option (String × List Char)
  | 0, _, _ => none
  | fuel + 1, cs, seen =>
      match cs with
      | [] => none
      | '"' :: rest =>
          some (String.ofList seen.reverse, rest)
      | '\\' :: 'u' :: rest =>
          match codePoint? rest with
          | some (c, rest) => readString fuel rest (c :: seen)
          | none => none
      | '\\' :: e :: rest =>
          match plainEscape? e with
          | some c => readString fuel rest (c :: seen)
          | none => none
      | c :: rest =>
          if c.toNat < 0x20 || c == '\\' then none
          else readString fuel rest (c :: seen)

------------------------------------------------------------
-- Numbers
------------------------------------------------------------

/- The number that decimal digits stand for. -/
def digitsValue
    (cs : List Char) : Nat :=
  cs.foldl (fun n c => n * 10 + (c.toNat - 48)) 0

/- The digits at the front. -/
def digitsAt
    (cs : List Char) : List Char :=
  cs.takeWhile Char.isDigit

/- The fraction at the front, which may be missing. -/
def readFraction?
    (cs : List Char) :
    Option (Option (List Char) × List Char) :=
  match cs with
  | '.' :: rest =>
      match digitsAt rest with
      | [] => none
      | ds => some (some ds, rest.drop ds.length)
  | _ => some (none, cs)

/- The exponent at the front, which may be missing. -/
def readExponent?
    (cs : List Char) :
    Option (Option Int × List Char) :=
  match cs with
  | e :: rest =>
      if e == 'e' || e == 'E' then
        let (negative, rest) :=
          match rest with
          | '+' :: more => (false, more)
          | '-' :: more => (true, more)
          | more => (false, more)
        match digitsAt rest with
        | [] => none
        | ds =>
            let n : Int := digitsValue ds
            some
              (some (if negative then -n else n),
                rest.drop ds.length)
      else
        some (none, cs)
  | [] => some (none, cs)

/- A number of the given sign, and the text behind it. -/
def readMagnitude?
    (negative : Bool)
    (cs : List Char) : Option (Numeral × List Char) := do
  let whole := digitsAt cs
  let rest := cs.drop whole.length
  match whole with
  | [] => none
  | '0' :: _ :: _ => none
  | _ =>
      let (fraction, rest) ← readFraction? rest
      let (exponent, rest) ← readExponent? rest
      let part := fraction.getD []
      let n := digitsValue (whole ++ part)
      let signed : Int := if negative then -n else n
      if fraction.isNone && exponent.isNone &&
          -Int.pow 2 63 ≤ signed && signed < Int.pow 2 64 &&
          !(negative && n == 0) then
        some (.whole signed, rest)
      else
        let x :=
          Numeral.scientific n (exponent.getD 0 - part.length)
        if x.isInf then none
        else some (.real (if negative then -x else x), rest)

/- A number that is not too large. -/
def readNumber
    (cs : List Char) : Option (Numeral × List Char) :=
  match cs with
  | '-' :: more => readMagnitude? true more
  | _ => readMagnitude? false cs

------------------------------------------------------------
-- Values
------------------------------------------------------------

/- The deepest nesting that is read. -/
def maxDepth : Nat :=
  127

mutual

/- One value. -/
def readValue
    (fuel depth : Nat)
    (cs : List Char) : Option (Json × List Char) :=
  match fuel with
  | 0 => none
  | fuel + 1 =>
      match skipGaps cs with
      | 'n' :: 'u' :: 'l' :: 'l' :: rest => some (null, rest)
      | 't' :: 'r' :: 'u' :: 'e' :: rest =>
          some (bool true, rest)
      | 'f' :: 'a' :: 'l' :: 's' :: 'e' :: rest =>
          some (bool false, rest)
      | '"' :: rest =>
          match readString (rest.length + 1) rest [] with
          | some (s, rest) => some (string s, rest)
          | none => none
      | '[' :: rest =>
          match depth with
          | 0 => none
          | depth + 1 =>
              match skipGaps rest with
              | ']' :: rest => some (array [], rest)
              | rest => readItems fuel depth rest []
      | '\x7b' :: rest =>
          match depth with
          | 0 => none
          | depth + 1 =>
              match skipGaps rest with
              | '\x7d' :: rest => some (object [], rest)
              | rest => readMembers fuel depth rest []
      | cs =>
          match readNumber cs with
          | some (n, rest) => some (number n, rest)
          | none => none

/- The items of an array, with those read so far. -/
def readItems
    (fuel depth : Nat)
    (cs : List Char)
    (seen : List Json) : Option (Json × List Char) :=
  match fuel with
  | 0 => none
  | fuel + 1 =>
      match readValue fuel depth cs with
      | none => none
      | some (v, rest) =>
          match skipGaps rest with
          | ',' :: rest => readItems fuel depth rest (v :: seen)
          | ']' :: rest =>
              some (array (v :: seen).reverse, rest)
          | _ => none

/- The members of an object, with those read so far. -/
def readMembers
    (fuel depth : Nat)
    (cs : List Char)
    (seen : List (String × Json)) :
    Option (Json × List Char) :=
  match fuel with
  | 0 => none
  | fuel + 1 =>
      match skipGaps cs with
      | '"' :: rest =>
          match readString (rest.length + 1) rest [] with
          | none => none
          | some (name, rest) =>
              match skipGaps rest with
              | ':' :: rest =>
                  match readValue fuel depth rest with
                  | none => none
                  | some (v, rest) =>
                      match skipGaps rest with
                      | ',' :: rest =>
                          readMembers fuel depth rest
                            ((name, v) :: seen)
                      | '\x7d' :: rest =>
                          some
                            ( object
                                ((name, v) :: seen).reverse,
                              rest )
                      | _ => none
              | _ => none
      | _ => none

end

/- The value a whole text stands for. -/
def read?
    (s : String) : Option Json :=
  let cs := s.toList
  match readValue (2 * cs.length + 2) maxDepth cs with
  | some (v, rest) =>
      if (skipGaps rest).isEmpty then some v else none
  | none => none

end Json

end ModuleLint
