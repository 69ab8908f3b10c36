import ModuleLint.Json.Basic
import ModuleLint.Decimal.Shortest

/-
  Writing JSON.

  Key definitions include:
    * `Json.quote`
    * `Json.write`, on one line
    * `Json.writeIndented`, over several lines
-/

namespace ModuleLint

namespace Json

------------------------------------------------------------
-- Strings and Numbers
------------------------------------------------------------

/- A hexadecimal digit. -/
def hexDigit
    (n : Nat) : Char :=
  if n < 10 then Char.ofNat (48 + n) else Char.ofNat (87 + n)

/- How a character is written inside quotes. -/
def escapeChar
    (c : Char) : List Char :=
  if c == '"' then ['\\', '"']
  else if c == '\\' then ['\\', '\\']
  else if c.toNat == 8 then ['\\', 'b']
  else if c.toNat == 9 then ['\\', 't']
  else if c.toNat == 10 then ['\\', 'n']
  else if c.toNat == 12 then ['\\', 'f']
  else if c.toNat == 13 then ['\\', 'r']
  else if c.toNat < 0x20 then
    ['\\', 'u', '0', '0', hexDigit (c.toNat / 16),
      hexDigit (c.toNat % 16)]
  else [c]

/- A text in quotes. -/
def quote
    (s : String) : List Char :=
  '"' :: (s.toList.flatMap escapeChar ++ ['"'])

/- A whole number. -/
def writeInt
    (n : Int) : List Char :=
  (if n < 0 then ['-'] else []) ++ Nat.toDigits 10 n.natAbs

/- A number.  What has no digits is nothing. -/
def writeNumeral : Numeral → List Char
  | .whole n => writeInt n
  | .real x =>
      if x.isNaN || x.isInf then ['n', 'u', 'l', 'l']
      else (Decimal.ofFloat x).toList

------------------------------------------------------------
-- One Line
------------------------------------------------------------

mutual

/- A value without spaces. -/
def chars : Json → List Char
  | null => ['n', 'u', 'l', 'l']
  | bool true => ['t', 'r', 'u', 'e']
  | bool false => ['f', 'a', 'l', 's', 'e']
  | number n => writeNumeral n
  | string s => quote s
  | array [] => ['[', ']']
  | array (x :: xs) => '[' :: (chars x ++ charsItems xs)
  | object [] => ['\x7b', '\x7d']
  | object ((k, v) :: ms) =>
      '\x7b' :: (quote k ++ ':' :: (chars v ++ charsMembers ms))

/- The items behind the first one. -/
def charsItems : List Json → List Char
  | [] => [']']
  | x :: xs => ',' :: (chars x ++ charsItems xs)

/- The members behind the first one. -/
def charsMembers : List (String × Json) → List Char
  | [] => ['\x7d']
  | (k, v) :: ms =>
      ',' :: (quote k ++ ':' :: (chars v ++ charsMembers ms))

end

/- A value on one line. -/
def write
    (j : Json) : String :=
  String.ofList (chars j)

------------------------------------------------------------
-- Several Lines
------------------------------------------------------------

/- A line break and the indentation of the given depth. -/
def newline
    (depth : Nat) : String :=
  "\n" ++ String.ofList (List.replicate (2 * depth) ' ')

mutual

/- A value with one item or member a line. -/
def indented
    (depth : Nat) : Json → String
  | array [] => "[]"
  | array (x :: xs) =>
      "[" ++ newline (depth + 1) ++ indented (depth + 1) x ++
        indentedItems depth xs
  | object [] => "\x7b\x7d"
  | object ((k, v) :: ms) =>
      "\x7b" ++ newline (depth + 1) ++
        String.ofList (quote k) ++ ": " ++
        indented (depth + 1) v ++ indentedMembers depth ms
  | j => write j

/- The items behind the first one. -/
def indentedItems
    (depth : Nat) : List Json → String
  | [] => newline depth ++ "]"
  | x :: xs =>
      "," ++ newline (depth + 1) ++ indented (depth + 1) x ++
        indentedItems depth xs

/- The members behind the first one. -/
def indentedMembers
    (depth : Nat) : List (String × Json) → String
  | [] => newline depth ++ "\x7d"
  | (k, v) :: ms =>
      "," ++ newline (depth + 1) ++ String.ofList (quote k) ++
        ": " ++ indented (depth + 1) v ++
        indentedMembers depth ms

end

/- A value over several lines, two spaces a level. -/
def writeIndented
    (j : Json) : String :=
  indented 0 j

end Json

end ModuleLint
