import ModuleLint.Script.Tree
import ModuleLint.Text.Blank

/-
  Tokens of a script.

  A cursor is a place together with the characters behind it.
  Tokens are read from a cursor on demand, because what a
  slash, a quote or a brace means depends on what the grammar
  expects there.

  Key definitions include:
    * `Cursor`
    * `Shape`, `Token`
    * `Cursor.token`
    * `Cursor.comment?`
    * `Cursor.pattern?`, `Cursor.templateChars?`,
      `Cursor.substitution?`, `Cursor.interpreter?`
    * `Cursor.markupText?`, `Cursor.markupName?`,
      `Cursor.markupString?`
-/

namespace ModuleLint

namespace Script

------------------------------------------------------------
-- Cursors
------------------------------------------------------------

/- A place, the characters that follow it and their number. -/
structure Cursor where
  place : Place
  rest : List Char
  left : Nat
deriving Inhabited

namespace Cursor

/- The cursor before a text. -/
def ofString
    (s : String) : Cursor :=
  ⟨.origin, s.toList, s.length⟩

/- Step over `n` characters, or to the end. -/
def advance
    (c : Cursor) : Nat → Cursor
  | 0 => c
  | n + 1 =>
      match c.rest with
      | [] => c
      | x :: xs => advance ⟨c.place.after x, xs, c.left - 1⟩ n

/- The number of characters from one cursor to a later one. -/
def distance
    (start stop : Cursor) : Nat :=
  start.left - stop.left

/- Step over the characters that satisfy `p`. -/
def skipWhile
    (p : Char → Bool)
    (c : Cursor) : Cursor :=
  c.advance (c.rest.takeWhile p).length

end Cursor

------------------------------------------------------------
-- Character Classes
------------------------------------------------------------

/- Characters that separate tokens. -/
def isSpace
    (c : Char) : Bool :=
  Text.isBlank c || c.toNat == 0xFEFF || c.toNat == 0x2060 ||
    c.toNat == 0x200B

/- The punctuation characters, none of which is part of a word. -/
def isMark
    (c : Char) : Bool :=
  ":;\x60\"'@#.,|^&<=>+-*/\\%?!~()[]\x7b\x7d".toList.contains c

/- Characters that may start a word. -/
def isWordStart
    (c : Char) : Bool :=
  0x20 ≤ c.toNat && !isSpace c && !c.isDigit && !isMark c

/- Characters that may continue a word. -/
def isWordPart
    (c : Char) : Bool :=
  isWordStart c || c.isDigit

/- Hexadecimal digits. -/
def isHex
    (c : Char) : Bool :=
  c.isDigit || ('a' ≤ c && c ≤ 'f') || ('A' ≤ c && c ≤ 'F')

/- The back quote, which opens and closes a template. -/
def backquote : Char :=
  Char.ofNat 96

------------------------------------------------------------
-- Lengths of Lexemes
------------------------------------------------------------

/- The length of a Unicode escape behind a backslash and `u`. -/
def unicodeEscape : List Char → Option Nat
  | '\x7b' :: cs =>
      let digits := cs.takeWhile isHex
      match digits, cs.drop digits.length with
      | _ :: _, '\x7d' :: _ => some (digits.length + 2)
      | _, _ => none
  | cs =>
      if (cs.take 4).length == 4 && (cs.take 4).all isHex then
        some 4
      else
        none

/-
  The length of a word's tail.  The first characters may belong
  to an escape; their number is given.
-/
def wordTail : Nat → List Char → Nat
  | _, [] => 0
  | n + 1, _ :: cs => 1 + wordTail n cs
  | 0, c :: cs =>
      match c, cs with
      | '\\', 'u' :: ds =>
          match unicodeEscape ds with
          | some n => 1 + wordTail (n + 1) cs
          | none => 0
      | c, _ =>
          if isWordPart c then 1 + wordTail 0 cs else 0

/- The length of the word at the front, zero if there is none. -/
def wordLength
    (cs : List Char) : Nat :=
  match cs with
  | '\\' :: 'u' :: _ => wordTail 0 cs
  | c :: _ => if isWordStart c then wordTail 0 cs else 0
  | [] => 0

/- The length of a run of digits and digit separators. -/
def digitsLength
    (p : Char → Bool)
    (cs : List Char) : Nat :=
  (cs.takeWhile (fun c => p c || c == '_')).length

/- The length of an exponent, zero if there is none. -/
def exponentLength : List Char → Nat
  | c :: cs =>
      if c == 'e' || c == 'E' then
        let signed :=
          match cs with
          | '+' :: ds => (1, ds)
          | '-' :: ds => (1, ds)
          | ds => (0, ds)
        match digitsLength Char.isDigit signed.2 with
        | 0 => 0
        | n => 1 + signed.1 + n
      else
        0
  | [] => 0

/- The length of a suffix that marks a big integer. -/
def bigSuffix : List Char → Nat
  | 'n' :: _ => 1
  | _ => 0

/- The length of the number at the front, zero if there is none. -/
def numberLength
    (cs : List Char) : Nat :=
  let radix (p : Char → Bool) (ds : List Char) : Nat :=
    match digitsLength p ds with
    | 0 => 1
    | n => 2 + n + bigSuffix (ds.drop n)
  let decimal : Nat :=
    let whole := digitsLength Char.isDigit cs
    match cs.drop whole with
    | '.' :: ds =>
        let part := digitsLength Char.isDigit ds
        whole + 1 + part + exponentLength (ds.drop part)
    | ds =>
        match exponentLength ds with
        | 0 => whole + bigSuffix ds
        | n => whole + n
  match cs with
  | '0' :: x :: ds =>
      if x == 'x' || x == 'X' then radix isHex ds
      else if x == 'o' || x == 'O' then
        radix (fun c => '0' ≤ c && c ≤ '7') ds
      else if x == 'b' || x == 'B' then
        radix (fun c => c == '0' || c == '1') ds
      else decimal
  | '.' :: d :: _ => if d.isDigit then decimal else 0
  | c :: _ => if c.isDigit then decimal else 0
  | [] => 0

/- The length of an escape behind its backslash. -/
def escapeLength : List Char → Option Nat
  | 'x' :: a :: b :: _ =>
      if isHex a && isHex b then some 3 else none
  | 'x' :: _ => none
  | 'u' :: cs => (unicodeEscape cs).map (· + 1)
  | '\r' :: '\n' :: _ => some 2
  | _ :: _ => some 1
  | [] => none

/-
  The length of a string's inside and its closing quote, if
  the string is closed on its line.  The first characters may
  belong to an escape; their number is given.
-/
def stringTail
    (quote : Char) : Nat → List Char → Option Nat
  | _, [] => none
  | n + 1, _ :: cs => (stringTail quote n cs).map (· + 1)
  | 0, c :: cs =>
      if c == '\\' then
        match escapeLength cs with
        | some n => (stringTail quote n cs).map (· + 1)
        | none => none
      else if c == quote then
        some 1
      else if c == '\n' || c == '\r' then
        none
      else
        (stringTail quote 0 cs).map (· + 1)

/- The punctuation tokens, longer ones first. -/
def glyphs : List String :=
  [ ">>>=",
    "...", "===", "!==", "**=", "<<=", ">>=", ">>>", "&&=",
    "||=", "??=",
    "=>", "==", "!=", "<=", ">=", "&&", "||", "??", "?.", "++",
    "--", "+=", "-=", "*=", "/=", "%=", "&=", "|=", "^=", "<<",
    ">>", "**",
    ":", ";", "\x60", "@", "#", ".", ",", "|", "^", "&", "<",
    "=", ">", "+", "-", "*", "/", "%", "?", "!", "~", "(", ")",
    "[", "]", "\x7b", "\x7d" ]

/-
  The punctuation token at the front.  A question mark and a
  dot before a digit are two tokens.
-/
def glyphAt
    (cs : List Char) : Option String :=
  match cs with
  | '?' :: '.' :: d :: _ =>
      if d.isDigit then some "?" else some "?."
  | _ => glyphs.find? (fun g => g.toList.isPrefixOf cs)

------------------------------------------------------------
-- Tokens
------------------------------------------------------------

/- The lexical classes. -/
inductive Shape where
  | word
  | number
  | string
  | privateName
  | glyph
  | finish
  | stray
deriving DecidableEq, Repr, Inhabited

/- A token, its text and where it stands. -/
structure Token where
  shape : Shape
  text : String
  start : Cursor
  stop : Cursor
deriving Inhabited

namespace Cursor

/- The token made of the next `n` characters. -/
def take
    (c : Cursor)
    (shape : Shape)
    (n : Nat) : Token :=
  { shape
    text := String.ofList (c.rest.take n)
    start := c
    stop := c.advance n }

/- The token that starts right at the cursor. -/
def token
    (c : Cursor) : Token :=
  match c.rest with
  | [] => c.take .finish 0
  | x :: xs =>
      if x == '"' || x == '\'' then
        match stringTail x 0 xs with
        | some n => c.take .string (n + 1)
        | none => c.take .stray 1
      else if x == '#' && wordLength xs > 0 then
        c.take .privateName (1 + wordLength xs)
      else
        match wordLength c.rest, numberLength c.rest with
        | 0, 0 =>
            match glyphAt c.rest with
            | some g => c.take .glyph g.length
            | none => c.take .stray 1
        | 0, n => c.take .number n
        | n, _ => c.take .word n

------------------------------------------------------------
-- Comments and Other Readings
------------------------------------------------------------

/- The length of a block comment behind its opening. -/
def blockTail : List Char → Nat → Option Nat
  | '*' :: '/' :: _, n => some (n + 2)
  | _ :: cs, n => blockTail cs (n + 1)
  | [], _ => none

/- The comment at the cursor, as the cursor behind it. -/
def comment?
    (c : Cursor) : Option Cursor :=
  match c.rest with
  | '/' :: '/' :: _ => some (c.skipWhile (· != '\n'))
  | '/' :: '*' :: cs =>
      (blockTail cs 2).map c.advance
  | _ => none

/-
  The length of a pattern's inside and its closing slash.
  Inside of a character class a slash does not close it.
-/
def patternTail : Bool → List Char → Option Nat
  | _, [] => none
  | inClass, '\\' :: x :: cs =>
      if x == '\n' then none
      else (patternTail inClass cs).map (· + 2)
  | inClass, c :: cs =>
      if c == '\n' || c == '\\' then
        none
      else if inClass then
        (patternTail (c != ']') cs).map (· + 1)
      else if c == '/' then
        some 1
      else
        (patternTail (c == '[') cs).map (· + 1)

/- The regular expression at the cursor, with its flags. -/
def pattern?
    (c : Cursor) : Option Cursor :=
  match c.rest with
  | '/' :: cs =>
      match patternTail false cs with
      | some n =>
          if n ≤ 1 then none
          else
            some
              ((c.advance (n + 1)).skipWhile Char.isAlpha)
      | none => none
  | _ => none

/- The length of template text up to a substitution or the end. -/
def templateTail : List Char → Nat → Option Nat
  | [], _ => none
  | '\\' :: _ :: cs, n => templateTail cs (n + 2)
  | '$' :: '\x7b' :: _, n => some n
  | c :: cs, n =>
      if c == backquote then some n
      else templateTail cs (n + 1)

/- The template text at the cursor, which is never empty. -/
def templateChars?
    (c : Cursor) : Option Cursor :=
  match templateTail c.rest 0 with
  | some 0 => none
  | some n => some (c.advance n)
  | none => none

/- The opening of a substitution in a template. -/
def substitution?
    (c : Cursor) : Option Cursor :=
  match c.rest with
  | '$' :: '\x7b' :: _ => some (c.advance 2)
  | _ => none

/- The line that names an interpreter, at the very start. -/
def interpreter?
    (c : Cursor) : Option Cursor :=
  match c.rest with
  | '#' :: '!' :: _ =>
      if c.place.offset == 0 then
        some (c.skipWhile (· != '\n'))
      else
        none
  | _ => none

/- Text between the tags of markup. -/
def markupText?
    (c : Cursor) : Option Cursor :=
  let n :=
    (c.rest.takeWhile
      (fun x =>
        x != '<' && x != '>' && x != '\x7b' &&
          x != '\x7d')).length
  if n == 0 then none else some (c.advance n)

/- Characters of a markup name behind its first. -/
def isMarkupName
    (c : Char) : Bool :=
  isWordPart c || c == '-' || c == '.' || c == ':'

/- A markup name at the cursor. -/
def markupName?
    (c : Cursor) : Option Cursor :=
  match c.rest with
  | x :: _ =>
      if isWordStart x then some (c.skipWhile isMarkupName)
      else none
  | [] => none

/- A quoted markup value, which knows no escapes. -/
def markupString?
    (c : Cursor) : Option Cursor :=
  match c.rest with
  | q :: cs =>
      if q == '"' || q == '\'' then
        let n := (cs.takeWhile (· != q)).length
        if (cs.drop n).isEmpty then none
        else some (c.advance (n + 2))
      else none
  | [] => none

end Cursor

end Script

end ModuleLint
