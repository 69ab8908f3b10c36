import ModuleLint.Text.Alphabetic
import ModuleLint.Text.Blank
import ModuleLint.Text.CaseFold
import ModuleLint.Text.Category
import ModuleLint.Text.WritingSystem
import ModuleLint.Json.Reader
import ModuleLint.Path.Basic

/-
  Sets of characters.

  A set is a list of ranges of codes, in order and apart from
  each other.

  Key definitions include:
    * `CharSet`, `CharSet.ofRanges`, `CharSet.contains`
    * `CharSet.union`, `CharSet.complement`
    * `CharSet.foldCase`
    * `CharSet.ofProperty?`
-/

namespace ModuleLint

/- A set of characters by the ranges of their codes. -/
structure CharSet where
  ranges : List (Nat × Nat)
deriving DecidableEq, Repr, Inhabited

namespace CharSet

------------------------------------------------------------
-- Ranges
------------------------------------------------------------

/- The greatest code of a character. -/
def maxCode : Nat :=
  0x10FFFF

/- Ranges in order, brought together where they touch. -/
def merge : List (Nat × Nat) → List (Nat × Nat)
  | [] => []
  | (a, b) :: rest =>
      match merge rest with
      | (c, d) :: more =>
          if c ≤ b + 1 then (a, max b d) :: more
          else (a, b) :: (c, d) :: more
      | [] => [(a, b)]

/- The set of given ranges. -/
def ofRanges
    (ranges : List (Nat × Nat)) : CharSet :=
  let proper := ranges.filter (fun r => r.1 ≤ r.2)
  ⟨merge (proper.mergeSort (fun r s => r.1 ≤ s.1))⟩

/- No character. -/
def empty : CharSet :=
  ⟨[]⟩

/- One character. -/
def single
    (c : Char) : CharSet :=
  ⟨[(c.toNat, c.toNat)]⟩

/- The code is in the set. -/
def containsCode
    (s : CharSet)
    (n : Nat) : Bool :=
  s.ranges.any (fun r => r.1 ≤ n && n ≤ r.2)

/- The character is in the set. -/
def contains
    (s : CharSet)
    (c : Char) : Bool :=
  s.containsCode c.toNat

/- The characters of either set. -/
def union
    (s t : CharSet) : CharSet :=
  ofRanges (s.ranges ++ t.ranges)

/- The ranges between ranges in order. -/
def gaps
    (top : Nat) : Nat → List (Nat × Nat) → List (Nat × Nat)
  | low, [] => if low ≤ top then [(low, top)] else []
  | low, (a, b) :: rest =>
      if low < a then (low, a - 1) :: gaps top (b + 1) rest
      else gaps top (b + 1) rest

/- The characters that are not in a set. -/
def complement
    (s : CharSet) : CharSet :=
  ⟨gaps maxCode 0 s.ranges⟩

/- The characters of both sets. -/
def inter
    (s t : CharSet) : CharSet :=
  (s.complement.union t.complement).complement

/- The characters of the first set that the other lacks. -/
def diff
    (s t : CharSet) : CharSet :=
  s.inter t.complement

/- The characters of exactly one of the sets. -/
def symmDiff
    (s t : CharSet) : CharSet :=
  (s.diff t).union (t.diff s)

/- All characters of the set are ASCII. -/
def isAscii
    (s : CharSet) : Bool :=
  s.ranges.all (fun r => r.2 < 0x80)

------------------------------------------------------------
-- Tables
------------------------------------------------------------

/- The number that hexadecimal digits stand for. -/
def hexNumber
    (s : String) : Nat :=
  s.toList.foldl
    (fun n c => n * 16 + (Json.hexValue? c).getD 0) 0

/- The range that is written down. -/
def readRange
    (s : String) : Nat × Nat :=
  match Text.splitAt '-' s with
  | [a, b] => (hexNumber a, hexNumber b)
  | _ => (hexNumber s, hexNumber s)

/- The set of the ranges that lines write down. -/
def ofTable
    (lines : List String) : CharSet :=
  ofRanges
    ((lines.flatMap (Text.splitAt ' ')).map readRange)

/- The groups of characters that differ only in case. -/
def caseGroups : List (List Nat) :=
  (Text.caseGroups.flatMap (Text.splitAt ',')).map
    (fun g =>
      ((Text.splitAt ' ' g).filter (· != "")).map hexNumber)

/- The set with all characters that differ only in case. -/
def foldCase
    (s : CharSet) : CharSet :=
  let groups :=
    caseGroups.filter (fun g => g.any s.containsCode)
  ofRanges (s.ranges ++ groups.flatten.map (fun n => (n, n)))

/- The same for the letters of ASCII alone. -/
def foldAscii
    (s : CharSet) : CharSet :=
  let letters := (List.range 26).map (fun i => (0x41 + i, 0x61 + i))
  let more :=
    letters.flatMap
      (fun l =>
        if s.containsCode l.1 || s.containsCode l.2 then
          [(l.1, l.1), (l.2, l.2)]
        else
          [])
  ofRanges (s.ranges ++ more)

------------------------------------------------------------
-- Properties
------------------------------------------------------------

/- The set of a category. -/
def ofCategory
    (short : String) : CharSet :=
  match Text.generalCategories.find? (fun p => p.short == short) with
  | some p => ofTable p.ranges
  | none => empty

/- The set of several categories. -/
def ofCategories
    (shorts : List String) : CharSet :=
  ofRanges (shorts.flatMap (fun s => (ofCategory s).ranges))

/- Decimal digits. -/
def digits : CharSet :=
  ofCategory "Nd"

/- White space. -/
def blanks : CharSet :=
  ofTable
    ["9-d 20 85 a0 1680 2000-200a 2028-2029 202f 205f 3000"]

/- Letters, and characters that act like letters. -/
def letters : CharSet :=
  ofTable Text.alphabetic.ranges

/- Characters of which words consist. -/
def words : CharSet :=
  ofRanges
    (letters.ranges ++
      (ofCategories ["Mn", "Mc", "Me", "Nd", "Pc"]).ranges ++
      [(0x200C, 0x200D)])

/- Names of properties without case, spaces and dashes. -/
def normalName
    (s : String) : String :=
  let cs :=
    (s.toList.filter
      (fun c =>
        !(Text.isAsciiBlank c) && c != '_' && c != '-')).map
      Char.toLower
  match cs with
  | ['i', 's'] => "is"
  | ['i', 's', 'c'] => "isc"
  | 'i' :: 's' :: rest => String.ofList rest
  | _ => String.ofList cs

/- Categories that consist of others. -/
def unitedCategories : List (String × String × List String) :=
  [ ("L", "Letter", ["Lu", "Ll", "Lt", "Lm", "Lo"]),
    ("LC", "Cased_Letter", ["Lu", "Ll", "Lt"]),
    ("M", "Mark", ["Mn", "Mc", "Me"]),
    ("N", "Number", ["Nd", "Nl", "No"]),
    ("P", "Punctuation",
      ["Pc", "Pd", "Ps", "Pe", "Pi", "Pf", "Po"]),
    ("S", "Symbol", ["Sm", "Sc", "Sk", "So"]),
    ("Z", "Separator", ["Zs", "Zl", "Zp"]) ]

/- All characters that have a meaning. -/
def assigned : CharSet :=
  ofCategories (Text.generalCategories.map (·.short))

/- Further names of categories. -/
def otherNames : List (String × String) :=
  [ ("digit", "nd"), ("punct", "p"), ("combiningmark", "m"),
    ("cntrl", "cc") ]

/- The category of a name without case and dashes. -/
def categoryOf?
    (name : String) : Option CharSet :=
  let name :=
    match otherNames.find? (fun p => p.1 == name) with
    | some p => p.2
    | none => name
  let fits := fun (short long : String) =>
    normalName short == name || normalName long == name
  if name == "any" then
    some ⟨[(0, maxCode)]⟩
  else if name == "ascii" then
    some ⟨[(0, 0x7F)]⟩
  else if name == "assigned" then
    some assigned
  else if name == "cn" || name == "unassigned" then
    some assigned.complement
  else if name == "c" || name == "other" then
    some
      (assigned.complement.union
        (ofCategories ["Cc", "Cf", "Cs", "Co"]))
  else
    match unitedCategories.find? (fun u => fits u.1 u.2.1) with
    | some u => some (ofCategories u.2.2)
    | none =>
        (Text.generalCategories.find?
          (fun p => fits p.short p.long)).map
          (fun p => ofTable p.ranges)

/- The writing system of a name without case and dashes. -/
def writingSystemOf?
    (name : String) : Option CharSet :=
  (Text.writingSystems.find?
    (fun p =>
      normalName p.short == name || normalName p.long == name)).map
    (fun p => ofTable p.ranges)

/- The property with two values that has the given name. -/
def plainProperty?
    (name : String) : Option CharSet :=
  if name == "whitespace" || name == "wspace" || name == "space" then
    some blanks
  else
    ([Text.alphabetic, Text.lowercase, Text.uppercase].find?
      (fun p =>
        normalName p.short == name ||
          normalName p.long == name)).map
      (fun p => ofTable p.ranges)

/- The set of a property by its name. -/
def ofProperty?
    (name : String) : Option CharSet :=
  let name := normalName name
  ((plainProperty? name).or (categoryOf? name)).or
    (writingSystemOf? name)

/- The set of a property by its name and its value. -/
def ofValue?
    (name value : String) : Option CharSet :=
  let name := normalName name
  let value := normalName value
  if name == "gc" || name == "generalcategory" then
    categoryOf? value
  else if name == "sc" || name == "script" || name == "scx" ||
      name == "scriptextensions" then
    writingSystemOf? value
  else
    none

end CharSet

end ModuleLint
