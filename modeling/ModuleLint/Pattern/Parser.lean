import ModuleLint.Pattern.Regex

/-
  Regular expressions as they are written.

  Key definitions include:
    * `Regex.Flags`
    * `Regex.parse?`
-/

namespace ModuleLint

namespace Regex

------------------------------------------------------------
-- Flags
------------------------------------------------------------

/- How what follows is read. -/
structure Flags where
  ignoreCase : Bool := false
  multiLine : Bool := false
  dotAll : Bool := false
  swapGreed : Bool := false
  unicode : Bool := true
  verbose : Bool := false
  crlf : Bool := false
deriving DecidableEq, Repr, Inhabited

/- A flag by its letter. -/
def Flags.set?
    (f : Flags)
    (letter : Char)
    (on : Bool) : Option Flags :=
  match letter with
  | 'i' => some { f with ignoreCase := on }
  | 'm' => some { f with multiLine := on }
  | 's' => some { f with dotAll := on }
  | 'U' => some { f with swapGreed := on }
  | 'u' => some { f with unicode := on }
  | 'x' => some { f with verbose := on }
  | 'R' => some { f with crlf := on }
  | _ => none

/-
  Letters of flags up to a colon or a closing bracket.  A dash
  turns off those behind it.
-/
def readFlags :
    List Char → Bool → List Char → Flags →
    Option (Flags × List Char)
  | [], _, _, _ => none
  | c :: cs, off, seen, f =>
      if c == ':' || c == ')' then
        if off && seen.head? == some '-' then none
        else if seen.isEmpty && c == ')' then none
        else some (f, c :: cs)
      else if c == '-' then
        if off then none else readFlags cs true ('-' :: seen) f
      else if seen.contains c then
        none
      else
        match f.set? c (!off) with
        | some f => readFlags cs off (c :: seen) f
        | none => none

------------------------------------------------------------
-- Spaces
------------------------------------------------------------

/- The text behind spaces and comments. -/
def skipVerbose : Nat → List Char → List Char
  | 0, cs => cs
  | fuel + 1, cs =>
      match cs.dropWhile Text.isBlank with
      | '#' :: rest =>
          skipVerbose fuel (rest.dropWhile (· != '\n'))
      | cs => cs

/- The text behind what is passed over. -/
def skip
    (f : Flags)
    (cs : List Char) : List Char :=
  if f.verbose then skipVerbose (cs.length + 1) cs else cs

------------------------------------------------------------
-- Escapes
------------------------------------------------------------

/- What a backslash and the text behind it stand for. -/
inductive Escape where
  | char (c : Char) (byte : Bool)
  | set (s : CharSet)
  | look (l : Look)

/- The character of a code. -/
def charOfCode?
    (n : Nat) : Option Char :=
  if n < 0xD800 || (0xDFFF < n && n < 0x110000) then
    some (Char.ofNat n)
  else
    none

/- The number of hexadecimal digits. -/
def hexOf?
    (ds : List Char) : Option Nat :=
  if ds.isEmpty then none
  else
    (ds.mapM Json.hexValue?).map
      (fun vs => vs.foldl (fun n v => n * 16 + v) 0)

/- A character by its code, with so many digits or in braces. -/
def readHex
    (digits : Nat)
    (byte : Bool) : List Char → Option (Escape × List Char)
  | '\x7b' :: rest => do
      let ds := rest.takeWhile (· != '\x7d')
      let behind := rest.drop (ds.length + 1)
      if rest.length == ds.length || ds.length > 8 then
        none
      else
        let c ← charOfCode? (← hexOf? (ds.filter (!Text.isBlank ·)))
        some (.char c false, behind)
  | cs => do
      let ds := cs.take digits
      if ds.length < digits then
        none
      else
        let c ← charOfCode? (← hexOf? ds)
        some (.char c byte, cs.drop digits)

/- Decimal digits of ASCII. -/
def asciiDigits : CharSet :=
  ⟨[(0x30, 0x39)]⟩

/- White space of ASCII. -/
def asciiBlanks : CharSet :=
  ⟨[(9, 13), (32, 32)]⟩

/- Characters of words of ASCII. -/
def asciiWords : CharSet :=
  ⟨[(0x30, 0x39), (0x41, 0x5A), (0x5F, 0x5F), (0x61, 0x7A)]⟩

/- The characters of words that the flags ask for. -/
def Flags.words
    (f : Flags) : CharSet :=
  if f.unicode then .words else asciiWords

/- The set with case ignored if the flags say so. -/
def Flags.fold
    (f : Flags)
    (s : CharSet) : CharSet :=
  if !f.ignoreCase then s
  else if f.unicode then s.foldCase
  else s.foldAscii

/-
  The set or its complement.  Without Unicode a set has to
  stay within ASCII.
-/
def Flags.finish?
    (f : Flags)
    (negated : Bool)
    (s : CharSet) : Option CharSet :=
  let s := f.fold s
  let s := if negated then s.complement else s
  if f.unicode || s.isAscii then some s else none

/- A property of characters behind its letter. -/
def readProperty
    (f : Flags)
    (negated : Bool)
    (cs : List Char) : Option (CharSet × List Char) := do
  if !f.unicode then
    none
  else
    let (found, rest) ←
      match cs with
      | '\x7b' :: rest =>
          let name := rest.takeWhile (· != '\x7d')
          let behind := rest.drop (name.length + 1)
          if rest.length == name.length then
            none
          else
            let (flip, name) :=
              match name with
              | '^' :: more => (true, more)
              | _ => (false, name)
            let front :=
              name.takeWhile
                (fun c => c != '=' && c != ':' && c != '!')
            let set : Option (CharSet × Bool) :=
              match name.drop front.length with
              | '!' :: '=' :: value =>
                  (CharSet.ofValue? (String.ofList front)
                    (String.ofList value)).map (·, true)
              | '=' :: value =>
                  (CharSet.ofValue? (String.ofList front)
                    (String.ofList value)).map (·, false)
              | ':' :: value =>
                  (CharSet.ofValue? (String.ofList front)
                    (String.ofList value)).map (·, false)
              | _ =>
                  (CharSet.ofProperty? (String.ofList name)).map
                    (·, false)
            set.map (fun s => ((s.1, s.2 != flip), behind))
      | c :: rest =>
          (CharSet.ofProperty? (String.singleton c)).map
            (fun s => ((s, false), rest))
      | [] => none
    let s ← f.finish? (found.2 != negated) found.1
    some (s, rest)

/- A set by its letter. -/
def readClassLetter?
    (f : Flags)
    (c : Char) : Option (Option CharSet) :=
  let pick := fun (full ascii : CharSet) (negated : Bool) =>
    let s := if f.unicode then full else ascii
    let s := if negated then s.complement else s
    some (if f.unicode || s.isAscii then some s else none)
  match c with
  | 'd' => pick .digits asciiDigits false
  | 'D' => pick .digits asciiDigits true
  | 's' => pick .blanks asciiBlanks false
  | 'S' => pick .blanks asciiBlanks true
  | 'w' => pick .words asciiWords false
  | 'W' => pick .words asciiWords true
  | _ => none

/- A condition on words, behind its letter. -/
def readWordLook
    (f : Flags)
    (cs : List Char) : Option (Escape × List Char) :=
  match cs with
  | '\x7b' :: rest =>
      let name := rest.takeWhile (· != '\x7d')
      let behind := rest.drop (name.length + 1)
      let closed := rest.length != name.length
      match String.ofList name, closed with
      | "start", true => some (.look (.wordStart f.words), behind)
      | "end", true => some (.look (.wordEnd f.words), behind)
      | "start-half", true =>
          some (.look (.halfStart f.words), behind)
      | "end-half", true =>
          some (.look (.halfEnd f.words), behind)
      | _, _ => some (.look (.wordEdge f.words), cs)
  | _ => some (.look (.wordEdge f.words), cs)

/- A character that a backslash makes plain. -/
def isEscapable
    (c : Char) : Bool :=
  c.toNat < 0x80 && !c.isAlphanum && c != '<' && c != '>'

/- What stands behind a backslash. -/
def readEscape
    (f : Flags)
    (cs : List Char) : Option (Escape × List Char) :=
  match cs with
  | [] => none
  | c :: rest =>
      match readClassLetter? f c with
      | some s => s.map (fun s => (.set s, rest))
      | none =>
          let plain := fun (n : Nat) =>
            some (Escape.char (Char.ofNat n) false, rest)
          if c == 'p' || c == 'P' then
            (readProperty f (c == 'P') rest).map
              (fun r => (.set r.1, r.2))
          else if c == 'a' then plain 7
          else if c == 'f' then plain 12
          else if c == 't' then plain 9
          else if c == 'n' then plain 10
          else if c == 'r' then plain 13
          else if c == 'v' then plain 11
          else if c == 'x' then readHex 2 true rest
          else if c == 'u' then readHex 4 false rest
          else if c == 'U' then readHex 8 false rest
          else if c == 'A' then some (.look .textStart, rest)
          else if c == 'z' then some (.look .textEnd, rest)
          else if c == 'b' then readWordLook f rest
          else if c == 'B' then
            if f.unicode then
              some (.look (.noWordEdge f.words), rest)
            else
              none
          else if c == '<' then
            some (.look (.wordStart f.words), rest)
          else if c == '>' then
            some (.look (.wordEnd f.words), rest)
          else if isEscapable c then some (.char c false, rest)
          else none

------------------------------------------------------------
-- Classes
------------------------------------------------------------

/- Named sets of ASCII characters. -/
def asciiClass? : String → Option CharSet
  | "alnum" =>
      some ⟨[(0x30, 0x39), (0x41, 0x5A), (0x61, 0x7A)]⟩
  | "alpha" => some ⟨[(0x41, 0x5A), (0x61, 0x7A)]⟩
  | "ascii" => some ⟨[(0, 0x7F)]⟩
  | "blank" => some ⟨[(9, 9), (32, 32)]⟩
  | "cntrl" => some ⟨[(0, 0x1F), (0x7F, 0x7F)]⟩
  | "digit" => some asciiDigits
  | "graph" => some ⟨[(0x21, 0x7E)]⟩
  | "lower" => some ⟨[(0x61, 0x7A)]⟩
  | "print" => some ⟨[(0x20, 0x7E)]⟩
  | "punct" =>
      some
        ⟨[(0x21, 0x2F), (0x3A, 0x40), (0x5B, 0x60),
          (0x7B, 0x7E)]⟩
  | "space" => some asciiBlanks
  | "upper" => some ⟨[(0x41, 0x5A)]⟩
  | "word" => some asciiWords
  | "xdigit" =>
      some ⟨[(0x30, 0x39), (0x41, 0x46), (0x61, 0x66)]⟩
  | _ => none

/- A named set behind an opening bracket. -/
def readAsciiClass
    (f : Flags)
    (cs : List Char) : Option (CharSet × List Char) :=
  match cs with
  | ':' :: rest =>
      let (negated, rest) :=
        match rest with
        | '^' :: more => (true, more)
        | _ => (false, rest)
      let name := rest.takeWhile (· != ':')
      match rest.drop name.length with
      | ':' :: ']' :: behind => do
          let s ← asciiClass? (String.ofList name)
          some (← f.finish? negated s, behind)
      | _ => none
  | _ => none

/- One item of a class: a character or a set. -/
def readClassItem
    (f : Flags)
    (cs : List Char) :
    Option ((Char ⊕ CharSet) × List Char) :=
  match cs with
  | [] => none
  | '\\' :: rest =>
      match readEscape f rest with
      | some (.char c byte, rest) =>
          if !f.unicode && byte && c.toNat > 0x7F then none
          else some (.inl c, rest)
      | some (.set s, rest) => some (.inr s, rest)
      | _ => none
  | c :: rest =>
      if !f.unicode && c.toNat > 0x7F then none
      else some (.inl c, rest)

/- An item or a range of a class. -/
def readClassRange
    (f : Flags)
    (cs : List Char) : Option (CharSet × List Char) := do
  let (first, rest) ← readClassItem f cs
  let whole : Option (CharSet × List Char) :=
    match first with
    | .inl c => some (.single c, rest)
    | .inr s => some (s, rest)
  match skip f rest with
  | '-' :: more =>
      let behind := skip f more
      if behind.head? == some ']' || behind.head? == some '-' then
        whole
      else do
        let (second, rest) ← readClassItem f behind
        match first, second with
        | .inl a, .inl b =>
            if a ≤ b then
              some (⟨[(a.toNat, b.toNat)]⟩, rest)
            else
              none
        | _, _ => none
  | _ => whole

/- How two sets are combined. -/
inductive SetOp where
  | inter
  | diff
  | symmDiff

/- The combination of two sets. -/
def SetOp.apply : SetOp → CharSet → CharSet → CharSet
  | inter, s, t => s.inter t
  | diff, s, t => s.diff t
  | symmDiff, s, t => s.symmDiff t

/- A set combined with the one before it, if there is one. -/
def combine
    (f : Flags)
    (pending : Option (CharSet × SetOp))
    (s : CharSet) : CharSet :=
  match pending with
  | some (left, op) => op.apply (f.fold left) (f.fold s)
  | none => s

/- The operator at the front. -/
def readSetOp : List Char → Option (SetOp × List Char)
  | '&' :: '&' :: rest => some (.inter, rest)
  | '-' :: '-' :: rest => some (.diff, rest)
  | '~' :: '~' :: rest => some (.symmDiff, rest)
  | _ => none

/- Dashes at the front of a class stand for themselves. -/
def leadingDashes
    (f : Flags) : Nat → List Char → CharSet → CharSet × List Char
  | 0, cs, s => (s, cs)
  | fuel + 1, cs, s =>
      match cs with
      | '-' :: rest =>
          leadingDashes f fuel (skip f rest)
            (s.union (.single '-'))
      | _ => (s, cs)

/- The front of a class: negation, dashes and a bracket. -/
def openClass
    (f : Flags)
    (cs : List Char) : Bool × CharSet × List Char :=
  let cs := skip f cs
  let (negated, cs) :=
    match cs with
    | '^' :: rest => (true, skip f rest)
    | _ => (false, cs)
  let (s, cs) := leadingDashes f cs.length cs .empty
  match s.ranges.isEmpty, cs with
  | true, ']' :: rest => (negated, .single ']', rest)
  | _, cs => (negated, s, cs)

/-
  The inside of a class, with the set so far and the set on
  the left of an operator.
-/
def readClass
    (f : Flags) :
    Nat → Bool → Option (CharSet × SetOp) → CharSet →
    List Char → Option (CharSet × List Char)
  | 0, _, _, _, _ => none
  | fuel + 1, negated, pending, s, cs =>
      let cs := skip f cs
      match cs with
      | [] => none
      | ']' :: rest => do
          some (← f.finish? negated (combine f pending s), rest)
      | '[' :: rest =>
          match readAsciiClass f rest with
          | some (t, rest) =>
              readClass f fuel negated pending (s.union t) rest
          | none =>
              let (inner, start, body) := openClass f rest
              match readClass f fuel inner none start body with
              | some (t, rest) =>
                  readClass f fuel negated pending (s.union t)
                    rest
              | none => none
      | _ =>
          match readSetOp cs with
          | some (op, rest) =>
              readClass f fuel negated
                (some (combine f pending s, op)) .empty rest
          | none =>
              match readClassRange f cs with
              | some (t, rest) =>
                  readClass f fuel negated pending (s.union t)
                    rest
              | none => none

------------------------------------------------------------
-- Repetitions
------------------------------------------------------------

/- A decimal number with spaces around it. -/
def readCount
    (cs : List Char) : Option (Nat × List Char) :=
  let cs := cs.dropWhile Text.isBlank
  let ds := cs.takeWhile Char.isDigit
  let n := Json.digitsValue ds
  if ds.isEmpty || Nat.pow 2 32 ≤ n then none
  else some (n, (cs.drop ds.length).dropWhile Text.isBlank)

/- The bounds of a counted repetition, behind its brace. -/
def readBounds
    (cs : List Char) :
    Option (Nat × Option Nat × List Char) := do
  let (low, rest) ← readCount cs
  match rest with
  | '\x7d' :: rest => some (low, some low, rest)
  | ',' :: rest =>
      match rest.dropWhile Text.isBlank with
      | '\x7d' :: rest => some (low, none, rest)
      | rest => do
          let (high, rest) ← readCount rest
          match rest with
          | '\x7d' :: rest =>
              if low ≤ high then some (low, some high, rest)
              else none
          | _ => none
  | _ => none

/- The greatest room that an expression may take. -/
def maxWeight : Nat :=
  200000

/- So many repetitions, unless they take too much room. -/
def repeatBetween?
    (greedy : Bool)
    (r : Regex)
    (low : Nat)
    (high : Option Nat) : Option Regex :=
  if r.weight * (max low (high.getD low) + 1) > maxWeight then
    none
  else
    match low, high with
    | 0, none => some (star greedy r)
    | 1, none => some (repeated greedy r)
    | n + 2, none =>
        some (both (times r (n + 1)) (repeated greedy r))
    | n, some m =>
        if n = m then some (times r n)
        else if n = 0 then some (atMost greedy r m)
        else some (both (times r n) (atMost greedy r (m - n)))

/- The operator of a repetition at the front. -/
def readRepeat
    (cs : List Char) :
    Option (Option (Nat × Option Nat × List Char)) :=
  match cs with
  | '?' :: rest => some (some (0, some 1, rest))
  | '*' :: rest => some (some (0, none, rest))
  | '+' :: rest => some (some (1, none, rest))
  | '\x7b' :: rest => some (readBounds rest)
  | _ => none

------------------------------------------------------------
-- Expressions
------------------------------------------------------------

/- Flags, names of groups and the text that is left. -/
structure Reading where
  flags : Flags
  names : List String
  rest : List Char

/- The name of a group up to its closing bracket. -/
def readName
    (cs : List Char) : Option (String × List Char) :=
  let name := cs.takeWhile (· != '>')
  let isFirst := fun (c : Char) =>
    c == '_' || CharSet.letters.contains c
  let isLater := fun (c : Char) =>
    isFirst c || c.isDigit || c == '.' || c == '[' || c == ']'
  match name with
  | [] => none
  | c :: more =>
      if cs.length != name.length && isFirst c &&
          more.all isLater then
        some (String.ofList name, cs.drop (name.length + 1))
      else
        none

/- What opens a group, behind its bracket. -/
inductive Opening where
  | group (s : Reading)
  | flags (s : Reading)

/- The opening of a group. -/
def readOpening
    (s : Reading) : Option Opening :=
  let named := fun (rest : List Char) => do
    let (name, rest) ← readName rest
    if s.names.contains name then none
    else
      some
        (Opening.group
          { s with names := name :: s.names, rest })
  match s.rest with
  | '?' :: 'P' :: '<' :: rest => named rest
  | '?' :: '<' :: '=' :: _ => none
  | '?' :: '<' :: '!' :: _ => none
  | '?' :: '<' :: rest => named rest
  | '?' :: rest =>
      match readFlags rest false [] s.flags with
      | some (f, ':' :: rest) =>
          some (.group { s with flags := f, rest })
      | some (f, ')' :: rest) =>
          some (.flags { s with flags := f, rest })
      | _ => none
  | rest => some (.group { s with rest })

/- A character that stands for itself. -/
def literal
    (f : Flags)
    (c : Char) : Regex :=
  oneOf (f.fold (.single c))

/- Any character, or any but the end of a line. -/
def anyChar?
    (f : Flags) : Option Regex :=
  let s : CharSet :=
    if f.dotAll then .empty
    else if f.crlf then ⟨[(10, 10), (13, 13)]⟩
    else .single '\n'
  if f.unicode then some (oneOf s.complement) else none

/- What a single character outside of classes stands for. -/
def readPlain
    (f : Flags)
    (cs : List Char) : Option (Regex × List Char) :=
  match cs with
  | [] => none
  | '.' :: rest => (anyChar? f).map (·, rest)
  | '^' :: rest =>
      some
        (look (if f.multiLine then .lineStart f.crlf else .textStart),
          rest)
  | '$' :: rest =>
      some
        (look (if f.multiLine then .lineEnd f.crlf else .textEnd),
          rest)
  | '\\' :: rest =>
      match readEscape f rest with
      | some (.char c byte, rest) =>
          if !f.unicode && byte && c.toNat > 0x7F then none
          else some (literal f c, rest)
      | some (.set s, rest) => some (oneOf s, rest)
      | some (.look l, rest) => some (look l, rest)
      | none => none
  | '[' :: rest =>
      let (negated, start, body) := openClass f rest
      (readClass f (2 * cs.length + 2) negated none start body).map
        (fun r => (oneOf r.1, r.2))
  | c :: rest => some (literal f c, rest)

/- Expressions one after another. -/
def joinAll
    (items : List Regex) : Regex :=
  match items with
  | [] => nothing
  | r :: rs => rs.foldl (fun later r => both r later) r

mutual

/-
  Alternatives up to a closing bracket or the end, with those
  read so far.
-/
def readAlternatives
    (fuel : Nat)
    (s : Reading) : Option (Regex × Reading) :=
  match fuel with
  | 0 => none
  | fuel + 1 =>
      match readSequence fuel [] none s with
      | none => none
      | some (r, s) =>
          match s.rest with
          | '|' :: rest =>
              match readAlternatives fuel { s with rest } with
              | some (more, s) => some (either r more, s)
              | none => none
          | _ => some (r, s)

/-
  Expressions one after another, last one first.  The last one
  stands apart while it may still be repeated.
-/
def readSequence
    (fuel : Nat)
    (seen : List Regex)
    (last : Option Regex)
    (s : Reading) : Option (Regex × Reading) :=
  match fuel with
  | 0 => none
  | fuel + 1 =>
      let rest := skip s.flags s.rest
      let seen' := last.toList ++ seen
      match rest with
      | [] => some (joinAll seen', { s with rest })
      | '|' :: _ => some (joinAll seen', { s with rest })
      | ')' :: _ => some (joinAll seen', { s with rest })
      | '(' :: inner =>
          match readOpening { s with rest := inner } with
          | none => none
          | some (.flags s) => readSequence fuel seen' none s
          | some (.group g) =>
              match readAlternatives fuel g with
              | some (r, t) =>
                  match t.rest with
                  | ')' :: rest =>
                      readSequence fuel seen' (some r)
                        { s with names := t.names, rest }
                  | _ => none
              | none => none
      | _ =>
          match readRepeat rest with
          | some none => none
          | some (some (low, high, rest)) =>
              match last with
              | none => none
              | some r =>
                  let (lazy, rest) :=
                    match rest with
                    | '?' :: more => (true, more)
                    | _ => (false, rest)
                  let greedy := lazy == s.flags.swapGreed
                  match repeatBetween? greedy r low high with
                  | some r =>
                      readSequence fuel seen (some r)
                        { s with rest }
                  | none => none
          | none =>
              match readPlain s.flags rest with
              | some (r, rest) =>
                  readSequence fuel seen' (some r) { s with rest }
              | none => none

end

/- The expression that a text writes down. -/
def parse?
    (pattern : String) : Option Regex :=
  let cs := pattern.toList
  match readAlternatives (2 * cs.length + 2) ⟨{}, [], cs⟩ with
  | some (r, s) =>
      if s.rest.isEmpty && r.weight ≤ maxWeight then some r
      else none
  | none => none

end Regex

end ModuleLint
