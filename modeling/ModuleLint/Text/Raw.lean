/-
  Names and paths as the system gives them.

  They are bytes, and mostly these are the bytes of a text in
  UTF-8.  To be shown, or to be sent to someone else, bytes
  that are no text become one: where no character can be read,
  a replacement character stands for the bytes that were read
  of it.

  Key definitions include:
    * `RawText`, `RawText.ofText`
    * `HalfChar`, `RawText.decode`
    * `RawText.toText`, `RawText.text?`
-/

namespace ModuleLint

/- Bytes that need not be a text. -/
@[ext]
structure RawText where
  bytes : List UInt8
deriving DecidableEq, Repr, Inhabited

namespace RawText

------------------------------------------------------------
-- Bytes of Texts
------------------------------------------------------------

/- The bytes of a text in UTF-8. -/
def ofText
    (s : String) : RawText :=
  ⟨s.toList.flatMap String.utf8EncodeChar⟩

instance : Coe String RawText :=
  ⟨ofText⟩

instance : Append RawText :=
  ⟨fun s t => ⟨s.bytes ++ t.bytes⟩⟩

/- In the order of their bytes. -/
instance : LT RawText :=
  ⟨fun s t => s.bytes < t.bytes⟩

instance
    (s t : RawText) :
    Decidable (s < t) :=
  inferInstanceAs (Decidable (s.bytes < t.bytes))

/- There are no bytes. -/
def isEmpty
    (s : RawText) : Bool :=
  s.bytes.isEmpty

/- The bytes begin with those of another text. -/
def startsWith
    (s front : RawText) : Bool :=
  front.bytes.isPrefixOf s.bytes

/- The bytes end with those of another text. -/
def endsWith
    (s back : RawText) : Bool :=
  back.bytes.isSuffixOf s.bytes

end RawText

------------------------------------------------------------
-- Reading Characters
------------------------------------------------------------

/-
  A character of which the first bytes were read: its bits so
  far, the bounds of the next byte, and the number of bytes
  that come after that one.
-/
structure HalfChar where
  bits : Nat
  low : Nat
  high : Nat
  later : Nat
deriving DecidableEq, Repr, Inhabited

namespace HalfChar

/- The character that begins with a byte, if one does. -/
def ofByte?
    (b : Nat) : Option HalfChar :=
  if 0xc2 ≤ b && b ≤ 0xdf then some ⟨b - 0xc0, 0x80, 0xbf, 0⟩
  else if b == 0xe0 then some ⟨0x0, 0xa0, 0xbf, 1⟩
  else if b == 0xed then some ⟨0xd, 0x80, 0x9f, 1⟩
  else if 0xe1 ≤ b && b ≤ 0xef then
    some ⟨b - 0xe0, 0x80, 0xbf, 1⟩
  else if b == 0xf0 then some ⟨0x0, 0x90, 0xbf, 2⟩
  else if 0xf1 ≤ b && b ≤ 0xf3 then
    some ⟨b - 0xf0, 0x80, 0xbf, 2⟩
  else if b == 0xf4 then some ⟨0x4, 0x80, 0x8f, 2⟩
  else none

/- The byte can come next. -/
def takes
    (h : HalfChar)
    (b : Nat) : Bool :=
  h.low ≤ b && b ≤ h.high

/- The bits with those of the next byte. -/
def bitsWith
    (h : HalfChar)
    (b : Nat) : Nat :=
  h.bits * 64 + b % 64

end HalfChar

namespace RawText

/- The character that stands for bytes that are none. -/
def replacement : Char :=
  '\uFFFD'

/- What comes of a byte where a character may begin. -/
def begin
    (b : Nat) : List Char × Option HalfChar :=
  if b < 0x80 then ([Char.ofNat b], none)
  else
    match HalfChar.ofByte? b with
    | some h => ([], some h)
    | none => ([replacement], none)

/- What comes of one more byte. -/
def step
    (half : Option HalfChar)
    (b : Nat) : List Char × Option HalfChar :=
  match half with
  | none => begin b
  | some h =>
      if h.takes b then
        match h.later with
        | 0 => ([Char.ofNat (h.bitsWith b)], none)
        | later + 1 => ([], some ⟨h.bitsWith b, 0x80, 0xbf, later⟩)
      else
        (replacement :: (begin b).1, (begin b).2)

/- The characters of bytes, behind a character half read. -/
def decode : Option HalfChar → List UInt8 → List Char
  | none, [] => []
  | some _, [] => [replacement]
  | half, b :: bs =>
      (step half b.toNat).1 ++ decode (step half b.toNat).2 bs

/- The text, with replacements for what is none. -/
def toText
    (s : RawText) : String :=
  String.ofList (decode none s.bytes)

/- The text whose bytes these are, if they are those of one. -/
def text?
    (s : RawText) : Option String :=
  if ofText s.toText = s then some s.toText else none

end RawText

end ModuleLint
