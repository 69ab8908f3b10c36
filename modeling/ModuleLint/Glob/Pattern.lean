/-
  Patterns for paths.

  A star stands for any text within one step of a path, a
  question mark for one byte of it, and two stars for any
  number of steps.  Brackets list bytes, braces list
  alternatives.

  Key definitions include:
    * `Glob.Token`
    * `Glob.Fault`, `Glob.Fault.message`
    * `Glob.tokensOf`
-/

namespace ModuleLint

namespace Glob

------------------------------------------------------------
-- Tokens
------------------------------------------------------------

/- One element of a pattern. -/
inductive Token where
  | literal (char : Char)
  | one
  | many
  | leadingSteps
  | trailingSteps
  | innerSteps
  | oneOf (negated : Bool) (ranges : List (Char × Char))
  | either (branches : List (List Token))
deriving Repr, Inhabited

/- Why a text is no pattern. -/
inductive Fault where
  | unclosedClass
  | invalidRange (low high : Char)
  | unopenedGroup
  | unclosedGroup
  | danglingEscape
deriving DecidableEq, Repr, Inhabited

/- The words for a fault. -/
def Fault.message : Fault → String
  | unclosedClass => "unclosed character class; missing ']'"
  | invalidRange low high =>
      "invalid range; '" ++ String.singleton low ++ "' > '" ++
        String.singleton high ++ "'"
  | unopenedGroup =>
      "unopened alternate group; missing '\x7b' " ++
        "(maybe escape '\x7d' with '[\x7d]'?)"
  | unclosedGroup =>
      "unclosed alternate group; missing '\x7d' " ++
        "(maybe escape '\x7b' with '[\x7b]'?)"
  | danglingEscape => "dangling '\\'"

------------------------------------------------------------
-- Classes
------------------------------------------------------------

/- A class under construction: its ranges, last one first. -/
structure ClassState where
  ranges : List (Char × Char) := []
  first : Bool := true
  spanning : Bool := false

/- One more character of a class that does not end it. -/
def ClassState.add
    (s : ClassState)
    (c : Char) : Except Fault ClassState :=
  if s.spanning then
    match s.ranges with
    | (low, _) :: rest =>
        if c < low then
          .error (.invalidRange low c)
        else
          .ok ⟨(low, c) :: rest, false, false⟩
    | [] => .ok ⟨[(c, c)], false, false⟩
  else if c == '-' && !s.first then
    .ok ⟨s.ranges, false, true⟩
  else
    .ok ⟨(c, c) :: s.ranges, false, false⟩

/- The ranges of a class that has ended. -/
def ClassState.finish
    (s : ClassState) : List (Char × Char) :=
  (if s.spanning then ('-', '-') :: s.ranges else s.ranges).reverse

/-
  The ranges of a class up to its closing bracket, and how
  many characters were taken.
-/
def classRanges :
    List Char → ClassState → Nat →
    Except Fault (List (Char × Char) × Nat)
  | [], _, _ => .error .unclosedClass
  | c :: cs, s, n =>
      if c == ']' && !s.first then
        .ok (s.finish, n + 1)
      else
        match s.add c with
        | .ok s => classRanges cs s (n + 1)
        | .error e => .error e

/- The class behind an opening bracket. -/
def readClass
    (cs : List Char) : Except Fault (Token × Nat) :=
  match cs with
  | '!' :: rest => do
      let (ranges, n) ← classRanges rest {} 1
      .ok (.oneOf true ranges, n)
  | '^' :: rest => do
      let (ranges, n) ← classRanges rest {} 1
      .ok (.oneOf true ranges, n)
  | _ => do
      let (ranges, n) ← classRanges cs {} 0
      .ok (.oneOf false ranges, n)

------------------------------------------------------------
-- Groups
------------------------------------------------------------

/-
  What has been read: the branch in progress, last token
  first, and for every open group around it the branches that
  have ended and the branch it stands in.
-/
structure Draft where
  branch : List Token := []
  groups : List (List (List Token) × List Token) := []

namespace Draft

/- One more token. -/
def push
    (d : Draft)
    (t : Token) : Draft :=
  { d with branch := t :: d.branch }

/- A group opens. -/
def openGroup
    (d : Draft) : Draft :=
  ⟨[], ([], d.branch) :: d.groups⟩

/- A branch ends and the next one begins. -/
def nextBranch
    (d : Draft) : Draft :=
  match d.groups with
  | (ended, outer) :: rest =>
      ⟨[], (d.branch.reverse :: ended, outer) :: rest⟩
  | [] => d.push (.literal ',')

/- A group closes. -/
def closeGroup
    (d : Draft) : Except Fault Draft :=
  match d.groups with
  | (ended, outer) :: rest =>
      .ok
        ⟨.either (d.branch.reverse :: ended).reverse :: outer,
          rest⟩
  | [] => .error .unopenedGroup

/- A group is open. -/
def inGroup
    (d : Draft) : Bool :=
  !d.groups.isEmpty

end Draft

------------------------------------------------------------
-- Stars
------------------------------------------------------------

/- What two stars stand for. -/
inductive Stars where
  | plain
  | leading
  | trailing
  | inner
deriving DecidableEq, Repr

/-
  What two stars stand for, from the character before them
  and the text behind them.  Steps have to be whole: a slash,
  an end or the edge of a branch stands on either side.
-/
def Stars.classify
    (d : Draft)
    (before : Option Char)
    (behind : List Char) : Stars :=
  let atEdge :=
    d.inGroup && (before == some ',' || before == some '\x7b')
  if d.branch.isEmpty then
    match behind with
    | [] => leading
    | c :: _ => if c == '/' then leading else plain
  else if before != some '/' && !atEdge then
    plain
  else
    match behind with
    | [] => trailing
    | c :: _ =>
        if c == '/' then inner
        else if (c == ',' || c == '\x7d') && d.inGroup then
          trailing
        else
          plain

/-
  The draft behind two stars.  They take the slash before them
  along, and stars that already stand there stay.
-/
def Draft.steps
    (d : Draft)
    (t : Token) : Draft :=
  match d.branch with
  | .leadingSteps :: rest => ⟨.leadingSteps :: rest, d.groups⟩
  | .trailingSteps :: rest => ⟨.trailingSteps :: rest, d.groups⟩
  | _ :: rest => ⟨t :: rest, d.groups⟩
  | [] => ⟨[t], d.groups⟩

/-
  The draft behind two stars, whether they take the slash
  behind them along, and so what the last character is.
-/
def Draft.stars
    (d : Draft)
    (before : Option Char)
    (behind : List Char) : Draft × Bool :=
  match Stars.classify d before behind with
  | .plain => ((d.push .many).push .many, false)
  | .leading => (d.push .leadingSteps, !behind.isEmpty)
  | .trailing => (d.steps .trailingSteps, false)
  | .inner => (d.steps .innerSteps, true)

------------------------------------------------------------
-- Patterns
------------------------------------------------------------

/-
  The class behind an opening bracket and how many characters
  it takes.  A lenient reader takes a bracket that is never
  closed for itself.
-/
def classOrBracket
    (lenient : Bool)
    (cs : List Char) : Except Fault (Token × Nat) :=
  match readClass cs with
  | .error .unclosedClass =>
      if lenient then .ok (.literal '[', 0)
      else .error .unclosedClass
  | r => r

/-
  The tokens of a pattern.  The number counts characters that
  have been taken along already.
-/
def readTokens
    (lenient : Bool) :
    List Char → Nat → Option Char → Draft → Except Fault Draft
  | [], _, _, d =>
      if d.inGroup then .error .unclosedGroup else .ok d
  | c :: cs, skip + 1, _, d =>
      readTokens lenient cs skip (some c) d
  | c :: cs, 0, before, d =>
      if c == '?' then
        readTokens lenient cs 0 (some c) (d.push .one)
      else if c == '*' then
        match cs with
        | '*' :: behind =>
            let (d, slash) := d.stars before behind
            readTokens lenient cs (if slash then 2 else 1)
              (some c) d
        | _ => readTokens lenient cs 0 (some c) (d.push .many)
      else if c == '[' then
        match classOrBracket lenient cs with
        | .ok (t, n) =>
            readTokens lenient cs n (some c) (d.push t)
        | .error e => .error e
      else if c == '\x7b' then
        readTokens lenient cs 0 (some c) d.openGroup
      else if c == '\x7d' then
        match d.closeGroup with
        | .ok d => readTokens lenient cs 0 (some c) d
        | .error e => .error e
      else if c == ',' then
        readTokens lenient cs 0 (some c) d.nextBranch
      else if c == '\\' then
        match cs with
        | [] => .error .danglingEscape
        | e :: _ =>
            readTokens lenient cs 1 (some c)
              (d.push (.literal e))
      else
        readTokens lenient cs 0 (some c) (d.push (.literal c))

/- The tokens of a pattern. -/
def tokensOf
    (lenient : Bool)
    (pattern : String) : Except Fault (List Token) :=
  match readTokens lenient pattern.toList 0 none {} with
  | .ok d => .ok d.branch.reverse
  | .error e => .error e

end Glob

end ModuleLint
