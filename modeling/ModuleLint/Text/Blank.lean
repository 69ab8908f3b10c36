/-
  Characters that separate words.

  Key definitions include:
    * `Text.isBlank`
    * `Text.trim`, `Text.trimStartBy`, `Text.trimEndBy`
    * `Text.trimBoth`
-/

namespace ModuleLint

namespace Text

------------------------------------------------------------
-- White Space
------------------------------------------------------------

/- The characters with the Unicode property White_Space. -/
def isBlank
    (c : Char) : Bool :=
  let n := c.toNat
  (9 ≤ n && n ≤ 13) || n == 0x20 || n == 0x85 || n == 0xA0 ||
    n == 0x1680 || (0x2000 ≤ n && n ≤ 0x200A) || n == 0x2028 ||
    n == 0x2029 || n == 0x202F || n == 0x205F || n == 0x3000

/- The white space of the ASCII range. -/
def isAsciiBlank
    (c : Char) : Bool :=
  let n := c.toNat
  (9 ≤ n && n ≤ 13) || n == 0x20

------------------------------------------------------------
-- Trimming
------------------------------------------------------------

/- Drop the leading characters that satisfy `p`. -/
def trimStartBy
    (p : Char → Bool)
    (s : String) : String :=
  String.ofList (s.toList.dropWhile p)

/- Drop the trailing characters that satisfy `p`. -/
def trimEndBy
    (p : Char → Bool)
    (s : String) : String :=
  String.ofList (s.toList.reverse.dropWhile p).reverse

/- Drop the characters that satisfy `p` at both ends. -/
def trimBoth
    (p : Char → Bool)
    (s : String) : String :=
  trimEndBy p (trimStartBy p s)

/- Drop white space at both ends. -/
def trim
    (s : String) : String :=
  trimBoth isBlank s

/- Everything after the last `sep`, or the whole text. -/
def afterLast
    (sep : Char)
    (s : String) : String :=
  String.ofList (s.toList.reverse.takeWhile (· != sep)).reverse

/- Everything before the first `sep`, or the whole text. -/
def beforeFirst
    (sep : Char)
    (s : String) : String :=
  String.ofList (s.toList.takeWhile (· != sep))

end Text

end ModuleLint
