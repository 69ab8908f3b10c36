/-
  Positions in a source text.

  A place knows how many bytes precede it and which line and
  column it has.  Lines and columns count from one, and a
  column counts characters.

  The line and the column of a byte offset are numbers of 32
  bits.  Behind the last of these the count starts again from
  zero.

  Key definitions include:
    * `Place`
    * `Place.after`
    * `Text.ordinal`
    * `Text.columnAt`
    * `Text.lineColumn`
-/

namespace ModuleLint

------------------------------------------------------------
-- Places
------------------------------------------------------------

/- A position between two characters of a text. -/
structure Place where
  offset : Nat
  line : Nat
  column : Nat
deriving DecidableEq, Repr, Inhabited

namespace Place

/- The place before the first character. -/
def origin : Place :=
  ⟨0, 1, 1⟩

/- The place behind one more character. -/
def after
    (p : Place)
    (c : Char) : Place :=
  if c == '\n' then
    ⟨p.offset + 1, p.line + 1, 1⟩
  else
    ⟨p.offset + c.utf8Size, p.line, p.column + 1⟩

end Place

------------------------------------------------------------
-- Byte Offsets
------------------------------------------------------------

namespace Text

/-
  The characters that end at or before a byte offset, last
  one first, together with the number of bytes they take.
-/
def before
    (offset : Nat) :
    List Char → Nat → List Char → List Char × Nat
  | [], n, seen => (seen, n)
  | c :: cs, n, seen =>
      if n + c.utf8Size ≤ offset then
        before offset cs (n + c.utf8Size) (c :: seen)
      else
        (seen, n)

/- The bytes of a list of characters in UTF-8. -/
def byteLength : List Char → Nat
  | [] => 0
  | c :: cs => c.utf8Size + byteLength cs

/- The number of what comes behind `n` others, in 32 bits. -/
def ordinal
    (n : Nat) : UInt32 :=
  UInt32.ofNat n + 1

/- The number is that of the count unless the bits run out. -/
theorem toNat_ordinal
    {n : Nat}
    (hFits : n + 1 < UInt32.size) :
    (ordinal n).toNat = n + 1 := by
  rw [ordinal, UInt32.toNat_add, UInt32.toNat_ofNat',
    Nat.mod_eq_of_lt (Nat.lt_of_succ_lt hFits)]
  exact Nat.mod_eq_of_lt hFits

/-
  The column of a byte offset, counted in characters.  An
  offset inside a character has no character count, so there
  the bytes since the line began are counted instead.  An
  offset behind the text means its end.
-/
def columnAt
    (source : String)
    (offset : Nat) : UInt32 :=
  let offset := min offset source.utf8ByteSize
  let (seen, n) := before offset source.toList 0 []
  let line := seen.takeWhile (· != '\n')
  if n == offset then
    ordinal line.length
  else
    ordinal (byteLength line + (offset - n))

/- The line and the column of a byte offset. -/
def lineColumn
    (source : String)
    (offset : Nat) : UInt32 × UInt32 :=
  let offset := min offset source.utf8ByteSize
  let (seen, _) := before offset source.toList 0 []
  (ordinal (seen.count '\n'), columnAt source offset)

end Text

end ModuleLint
