import ModuleLint.Toml.Table
import ModuleLint.Json.Reader

/-
  Reading configuration texts.

  A text is a sequence of lines with a key and a value, or
  with a header that names the table of the lines below it.

  Key definitions include:
    * `Toml.readKey`, `Toml.readText`, `Toml.readNumber`
    * `Toml.readValue`
    * `Toml.read?`
-/

namespace ModuleLint

namespace Toml

/- A reader takes something off the front of a text. -/
abbrev Reader (α : Type) :=
  List Char → Option (α × List Char)

------------------------------------------------------------
-- Spaces and Comments
------------------------------------------------------------

/- A space within a line. -/
def isGap
    (c : Char) : Bool :=
  c == ' ' || c == '\t'

/- The text behind spaces. -/
def skipGaps
    (cs : List Char) : List Char :=
  cs.dropWhile isGap

/- A character that may stand in a comment. -/
def isCommentChar
    (c : Char) : Bool :=
  c == '\t' || (0x20 ≤ c.toNat && c.toNat != 0x7F)

/- The text behind a comment at the front, if there is one. -/
def skipComment : List Char → List Char
  | '#' :: rest => rest.dropWhile isCommentChar
  | cs => cs

/- The text behind a line break. -/
def newline? : List Char → Option (List Char)
  | '\n' :: rest => some rest
  | '\r' :: '\n' :: rest => some rest
  | _ => none

/- The text behind the rest of a line. -/
def lineEnd?
    (cs : List Char) : Option (List Char) :=
  match skipComment (skipGaps cs) with
  | [] => some []
  | cs => newline? cs

/- The text behind spaces, comments and line breaks. -/
def skipBlank : Nat → List Char → List Char
  | 0, cs => cs
  | fuel + 1, cs =>
      let cs := skipComment (skipGaps cs)
      match newline? cs with
      | some rest => skipBlank fuel rest
      | none => cs

------------------------------------------------------------
-- Texts
------------------------------------------------------------

/- A character that stands for itself between quotes. -/
def isTextChar
    (c : Char) : Bool :=
  c == '\t' || (0x20 ≤ c.toNat && c.toNat != 0x7F)

/- A character given by hexadecimal digits. -/
def readCode
    (digits : Nat) : Reader Char :=
  fun cs => do
    let ds := cs.take digits
    if ds.length < digits then
      none
    else
      let values ← ds.mapM Json.hexValue?
      let n := values.foldl (fun n d => n * 16 + d) 0
      if n < 0xD800 || (0xDFFF < n && n < 0x110000) then
        some (Char.ofNat n, cs.drop digits)
      else
        none

/- A character behind a backslash. -/
def readEscape : Reader Char
  | 'b' :: rest => some (Char.ofNat 8, rest)
  | 't' :: rest => some ('\t', rest)
  | 'n' :: rest => some ('\n', rest)
  | 'f' :: rest => some (Char.ofNat 12, rest)
  | 'r' :: rest => some ('\r', rest)
  | '"' :: rest => some ('"', rest)
  | '\\' :: rest => some ('\\', rest)
  | 'u' :: rest => readCode 4 rest
  | 'U' :: rest => readCode 8 rest
  | _ => none

/-
  The text behind a backslash at the end of a line, up to the
  next character that is no space.
-/
def skipFold?
    (cs : List Char) : Option (List Char) := do
  let rest ← newline? (skipGaps cs)
  some
    (rest.dropWhile
      (fun c => isGap c || c == '\n' || c == '\r'))

/- The inside of a quoted text, with escapes. -/
def readBasic : Nat → List Char → Reader String
  | 0, _, _ => none
  | _, seen, '"' :: rest =>
      some (String.ofList seen.reverse, rest)
  | fuel + 1, seen, '\\' :: rest => do
      let (c, rest) ← readEscape rest
      readBasic fuel (c :: seen) rest
  | fuel + 1, seen, c :: rest =>
      if isTextChar c then readBasic fuel (c :: seen) rest
      else none
  | _, _, [] => none

/- The inside of a quoted text without escapes. -/
def readLiteral : Nat → List Char → Reader String
  | 0, _, _ => none
  | _, seen, '\'' :: rest =>
      some (String.ofList seen.reverse, rest)
  | fuel + 1, seen, c :: rest =>
      if isTextChar c then readLiteral fuel (c :: seen) rest
      else none
  | _, _, [] => none

/-
  How many closing quotes belong to the text.  Three close it,
  and up to two more may stand before them.
-/
def extraQuotes
    (quote : Char)
    (cs : List Char) : Option Nat :=
  match (cs.takeWhile (· == quote)).length with
  | 0 => none
  | 1 => none
  | 2 => none
  | n => some (min (n - 3) 2)

/- The inside of a quoted text over several lines. -/
def readLong
    (quote : Char)
    (escapes : Bool) : Nat → List Char → Reader String
  | 0, _, _ => none
  | _, _, [] => none
  | fuel + 1, seen, c :: rest =>
      if c == quote then
        match extraQuotes quote (c :: rest) with
        | some n =>
            some
              ( String.ofList
                  (List.replicate n quote ++ seen).reverse,
                rest.drop (n + 2) )
        | none => readLong quote escapes fuel (c :: seen) rest
      else if c == '\\' && escapes then
        match skipFold? rest with
        | some rest => readLong quote escapes fuel seen rest
        | none => do
            let (e, rest) ← readEscape rest
            readLong quote escapes fuel (e :: seen) rest
      else if c == '\n' || isTextChar c then
        readLong quote escapes fuel (c :: seen) rest
      else
        match newline? (c :: rest) with
        | some rest =>
            readLong quote escapes fuel ('\n' :: seen) rest
        | none => none

/- A line break right behind the opening quotes is no text. -/
def dropFirstBreak
    (cs : List Char) : List Char :=
  (newline? cs).getD cs

/- A quoted text. -/
def readText : Reader String :=
  fun cs =>
    let fuel := cs.length + 1
    match cs with
    | '"' :: '"' :: '"' :: rest =>
        readLong '"' true fuel [] (dropFirstBreak rest)
    | '\'' :: '\'' :: '\'' :: rest =>
        readLong '\'' false fuel [] (dropFirstBreak rest)
    | '"' :: rest => readBasic fuel [] rest
    | '\'' :: rest => readLiteral fuel [] rest
    | _ => none

------------------------------------------------------------
-- Keys
------------------------------------------------------------

/- A character of a key without quotes. -/
def isKeyChar
    (c : Char) : Bool :=
  c.isAlphanum || c == '_' || c == '-'

/- One key. -/
def readSimpleKey : Reader String :=
  fun cs =>
    match cs with
    | '"' :: rest => readBasic (rest.length + 1) [] rest
    | '\'' :: rest => readLiteral (rest.length + 1) [] rest
    | _ =>
        match cs.takeWhile isKeyChar with
        | [] => none
        | key => some (String.ofList key, cs.drop key.length)

/- Keys with points between them, and spaces around them. -/
def readKeys : Nat → Reader (List String)
  | 0, _ => none
  | fuel + 1, cs => do
      let (key, rest) ← readSimpleKey (skipGaps cs)
      match skipGaps rest with
      | '.' :: rest => do
          let (keys, rest) ← readKeys fuel rest
          some (key :: keys, rest)
      | rest => some ([key], rest)

/- The keys on the way and the last key. -/
def readKey : Reader (List String × String) :=
  fun cs => do
    let (keys, rest) ← readKeys (cs.length + 1) cs
    match keys.reverse with
    | [] => none
    | key :: path => some ((path.reverse, key), rest)

------------------------------------------------------------
-- Numbers
------------------------------------------------------------

/-
  Digits with single underscores between them, and the text
  behind them.
-/
def readDigits
    (isDigit : Char → Bool) : Nat → Reader (List Char)
  | 0, _ => none
  | fuel + 1, cs =>
      match cs with
      | [] => none
      | c :: rest =>
          if isDigit c then
            let behind :=
              match rest with
              | '_' :: more => readDigits isDigit fuel more
              | _ => readDigits isDigit fuel rest
            match behind with
            | some (ds, rest) => some (c :: ds, rest)
            | none =>
                match rest with
                | '_' :: _ => none
                | _ => some ([c], rest)
          else
            none

/- Decimal digits. -/
def readDecimalDigits : Reader (List Char) :=
  fun cs => readDigits Char.isDigit (cs.length + 1) cs

/- A sign that may be missing. -/
def readSign : List Char → Option Bool × List Char
  | '+' :: rest => (some false, rest)
  | '-' :: rest => (some true, rest)
  | cs => (none, cs)

/- The digits of a whole number, without zeros in front. -/
def readWhole : Reader (List Char) :=
  fun cs =>
    match cs with
    | '0' :: rest => some (['0'], rest)
    | _ => readDecimalDigits cs

/- A whole number of sixty-four bits. -/
def wordNumber?
    (n : Int) : Option Json :=
  if -Int.pow 2 63 ≤ n && n < Int.pow 2 63 then
    some (.number (.whole n))
  else
    none

/- A whole number in another base. -/
def readBased
    (base : Nat) : Reader Json :=
  fun cs => do
    let isDigit := fun c =>
      ((Json.hexValue? c).filter (· < base)).isSome
    let (ds, rest) ← readDigits isDigit (cs.length + 1) cs
    let values := ds.filterMap Json.hexValue?
    let j ← wordNumber? (values.foldl (fun n d => n * base + d) 0 : Nat)
    some (j, rest)

/- The exponent of a number that is not whole. -/
def readPower : Reader Int :=
  fun cs =>
    match cs with
    | e :: rest =>
        if e == 'e' || e == 'E' then do
          let (sign, rest) := readSign rest
          let (ds, rest) ← readDecimalDigits rest
          let n : Int := Json.digitsValue ds
          some (if sign == some true then -n else n, rest)
        else
          none
    | [] => none

/- A number that is not whole. -/
def realNumber?
    (negative : Bool)
    (digits : List Char)
    (exponent : Int) : Option Json :=
  let x :=
    Numeral.scientific (Json.digitsValue digits) exponent
  if x.isInf then none
  else some (.number (.real (if negative then -x else x)))

/- A number in decimal digits. -/
def readDecimal : Reader Json :=
  fun cs => do
    let (sign, rest) := readSign cs
    let negative := sign == some true
    let (whole, rest) ← readWhole rest
    match rest with
    | '.' :: more => do
        let (part, rest) ← readDecimalDigits more
        let (power, rest) := (readPower rest).getD (0, rest)
        let j ←
          realNumber? negative (whole ++ part)
            (power - part.length)
        some (j, rest)
    | _ =>
        match readPower rest with
        | some (power, rest) => do
            let j ← realNumber? negative whole power
            some (j, rest)
        | none => do
            let n : Int := Json.digitsValue whole
            let j ← wordNumber? (if negative then -n else n)
            some (j, rest)

/- The numbers that have names. -/
def readNamed : Reader Json :=
  fun cs =>
    let (sign, rest) := readSign cs
    let signed := fun (x : Float) =>
      Json.number (.real (if sign == some true then -x else x))
    match rest with
    | 'i' :: 'n' :: 'f' :: rest => some (signed (1.0 / 0.0), rest)
    | 'n' :: 'a' :: 'n' :: rest => some (signed (0.0 / 0.0), rest)
    | _ => none

------------------------------------------------------------
-- Points in Time
------------------------------------------------------------

/- A number of so many digits, within bounds. -/
def readFixed
    (digits low high : Nat) : Reader Nat :=
  fun cs =>
    let ds := cs.take digits
    let n := Json.digitsValue ds
    if ds.length == digits && ds.all Char.isDigit && low ≤ n &&
        n ≤ high then
      some (n, cs.drop digits)
    else
      none

/- The given character. -/
def readChar
    (expected : Char) : Reader Unit
  | c :: rest => if c == expected then some ((), rest) else none
  | [] => none

/- The number of days of a month. -/
def daysOf
    (year month : Nat) : Nat :=
  let leap :=
    year % 4 == 0 && (year % 100 != 0 || year % 400 == 0)
  if month == 2 then (if leap then 29 else 28)
  else if [4, 6, 9, 11].contains month then 30
  else 31

/- A date. -/
def readDate : Reader Unit :=
  fun cs => do
    let (year, cs) ← readFixed 4 0 9999 cs
    let (_, cs) ← readChar '-' cs
    let (month, cs) ← readFixed 2 1 12 cs
    let (_, cs) ← readChar '-' cs
    let (_, cs) ← readFixed 2 1 (daysOf year month) cs
    some ((), cs)

/- A time of the day. -/
def readTime : Reader Unit :=
  fun cs => do
    let (_, cs) ← readFixed 2 0 23 cs
    let (_, cs) ← readChar ':' cs
    let (_, cs) ← readFixed 2 0 59 cs
    let (_, cs) ← readChar ':' cs
    let (_, cs) ← readFixed 2 0 60 cs
    match cs with
    | '.' :: d :: rest =>
        if d.isDigit then some ((), rest.dropWhile Char.isDigit)
        else some ((), cs)
    | _ => some ((), cs)

/- The distance to universal time, which may be missing. -/
def readOffset : Reader Unit
  | 'Z' :: rest => some ((), rest)
  | 'z' :: rest => some ((), rest)
  | cs =>
      match readSign cs with
      | (some _, rest) => do
          let (_, cs) ← readFixed 2 0 23 rest
          let (_, cs) ← readChar ':' cs
          let (_, cs) ← readFixed 2 0 59 cs
          some ((), cs)
      | (none, _) => some ((), cs)

/- A date, a time, or both. -/
def readMoment : Reader Unit :=
  fun cs =>
    match readDate cs with
    | none => readTime cs
    | some (_, rest) =>
        let time :=
          match rest with
          | c :: more =>
              if c == 'T' || c == 't' || c == ' ' then
                (readTime more).bind (fun t => readOffset t.2)
              else
                none
          | [] => none
        some (time.getD ((), rest))

/- A point in time as a value: a record of its own kind. -/
def momentValue
    (cs : List Char) : Json :=
  .object
    [("$__toml_private_datetime", .string (String.ofList cs))]

------------------------------------------------------------
-- Values
------------------------------------------------------------

/- A value that holds no other values. -/
def readScalar : Reader Json :=
  fun cs =>
    match cs with
    | [] => none
    | c :: _ =>
        if c == '"' || c == '\'' then
          (readText cs).map (fun r => (.string r.1, r.2))
        else if c == '+' || c == '-' || c.isDigit then
          match readMoment cs with
          | some (_, rest) =>
              some
                (momentValue (cs.take (cs.length - rest.length)),
                  rest)
          | none =>
              match cs with
              | '0' :: 'x' :: rest => readBased 16 rest
              | '0' :: 'o' :: rest => readBased 8 rest
              | '0' :: 'b' :: rest => readBased 2 rest
              | _ =>
                  match readNamed cs with
                  | some r => some r
                  | none => readDecimal cs
        else
          match cs with
          | 't' :: 'r' :: 'u' :: 'e' :: rest =>
              some (.bool true, rest)
          | 'f' :: 'a' :: 'l' :: 's' :: 'e' :: rest =>
              some (.bool false, rest)
          | _ => readNamed cs

mutual

/- A value. -/
def readValue
    (fuel : Nat)
    (cs : List Char) : Option (Json × List Char) :=
  match fuel with
  | 0 => none
  | fuel + 1 =>
      match cs with
      | '[' :: rest => readItems fuel [] rest
      | '\x7b' :: rest =>
          match skipGaps rest with
          | '\x7d' :: rest => some (.object [], rest)
          | rest => readMembers fuel [] rest
      | _ => readScalar cs

/- The items of a list, with those read so far. -/
def readItems
    (fuel : Nat)
    (seen : List Json)
    (cs : List Char) : Option (Json × List Char) :=
  match fuel with
  | 0 => none
  | fuel + 1 =>
      match skipBlank (cs.length + 1) cs with
      | ']' :: rest => some (.array seen.reverse, rest)
      | cs =>
          match readValue fuel cs with
          | none => none
          | some (v, rest) =>
              match skipBlank (rest.length + 1) rest with
              | ',' :: rest => readItems fuel (v :: seen) rest
              | ']' :: rest =>
                  some (.array (v :: seen).reverse, rest)
              | _ => none

/- The members of a table on one line. -/
def readMembers
    (fuel : Nat)
    (seen : Members)
    (cs : List Char) : Option (Json × List Char) :=
  match fuel with
  | 0 => none
  | fuel + 1 =>
      match readKey cs with
      | some ((path, key), '=' :: rest) =>
          match readValue fuel (skipGaps rest) with
          | none => none
          | some (v, rest) =>
              match putValue? path key v seen with
              | none => none
              | some seen =>
                  match skipGaps rest with
                  | ',' :: rest => readMembers fuel seen rest
                  | '\x7d' :: rest =>
                      some (.object (membersJson seen), rest)
                  | _ => none
      | _ => none

end

------------------------------------------------------------
-- Lines
------------------------------------------------------------

/- The tables so far and the header that is in force. -/
structure Draft where
  members : Members := []
  header : List String := []

/- A line with a key and a value. -/
def readPair
    (d : Draft) : Reader Draft :=
  fun cs => do
    let ((path, key), rest) ← readKey cs
    match rest with
    | '=' :: rest => do
        let rest := skipGaps rest
        let (v, rest) ← readValue (2 * rest.length + 2) rest
        let members ← putUnder? d.header path key v d.members
        some ({ d with members }, rest)
    | _ => none

/- A line with a header. -/
def readHeader
    (d : Draft) : Reader Draft :=
  fun cs =>
    match cs with
    | '[' :: '[' :: rest => do
        let ((path, key), rest) ← readKey rest
        match rest with
        | ']' :: ']' :: rest => do
            let members ← pushTable? path key d.members
            some (⟨members, path ++ [key]⟩, rest)
        | _ => none
    | '[' :: rest => do
        let ((path, key), rest) ← readKey rest
        match rest with
        | ']' :: rest => do
            let members ← openTable? path key d.members
            some (⟨members, path ++ [key]⟩, rest)
        | _ => none
    | _ => none

/- All lines of a text. -/
def readLines : Nat → Draft → List Char → Option Draft
  | 0, _, _ => none
  | fuel + 1, d, cs =>
      match skipBlank (cs.length + 1) cs with
      | [] => some d
      | c :: cs => do
          let (d, rest) ←
            if c == '[' then readHeader d (c :: cs)
            else readPair d (c :: cs)
          readLines fuel d (← lineEnd? rest)

/-
  The value of a configuration text.  A mark of the byte order
  may stand in front.
-/
def read?
    (s : String) : Option Json := do
  let cs :=
    match s.toList with
    | c :: cs => if c.toNat == 0xFEFF then cs else c :: cs
    | [] => []
  let d ← readLines (cs.length + 1) {} cs
  some (.object (membersJson d.members))

end Toml

end ModuleLint
