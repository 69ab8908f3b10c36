import ModuleLint.Pattern.CharSet

/-
  Regular expressions.

  An expression is matched at a spot of a text.  It may end at
  several spots, and these come in the order in which they are
  preferred: the first alternative before the second one, and
  more repetitions before fewer unless told otherwise.

  Key definitions include:
    * `Regex`, `Regex.Spot`
    * `Regex.ends`
    * `Regex.find?`, `Regex.matches`
-/

namespace ModuleLint

namespace Regex

------------------------------------------------------------
-- Spots
------------------------------------------------------------

/- A spot between two characters of a text. -/
structure Spot where
  offset : Nat
  before : Option Char
  rest : List Char
deriving DecidableEq, Repr, Inhabited

/- The spot before the first character. -/
def Spot.start
    (s : String) : Spot :=
  ⟨0, none, s.toList⟩

/- The spot behind the next character. -/
def Spot.next?
    (p : Spot) : Option Spot :=
  match p.rest with
  | [] => none
  | c :: cs => some ⟨p.offset + c.utf8Size, some c, cs⟩

------------------------------------------------------------
-- Conditions
------------------------------------------------------------

/- What may be asked of a spot. -/
inductive Look where
  | textStart
  | textEnd
  | lineStart (crlf : Bool)
  | lineEnd (crlf : Bool)
  | wordEdge (letters : CharSet)
  | noWordEdge (letters : CharSet)
  | wordStart (letters : CharSet)
  | wordEnd (letters : CharSet)
  | halfStart (letters : CharSet)
  | halfEnd (letters : CharSet)
deriving DecidableEq, Repr, Inhabited

/- A word goes on at this character. -/
def inWord
    (letters : CharSet)
    (c : Option Char) : Bool :=
  match c with
  | some c => letters.contains c
  | none => false

/- The spot is as asked. -/
def Look.holds
    (p : Spot) : Look → Bool
  | textStart => p.before.isNone
  | textEnd => p.rest.isEmpty
  | lineStart crlf =>
      p.before.isNone || p.before == some '\n' ||
        (crlf && p.before == some '\r' &&
          p.rest.head? != some '\n')
  | lineEnd crlf =>
      if crlf then
        p.rest.isEmpty || p.rest.head? == some '\r' ||
          (p.rest.head? == some '\n' && p.before != some '\r')
      else
        p.rest.isEmpty || p.rest.head? == some '\n'
  | wordEdge w => inWord w p.before != inWord w p.rest.head?
  | noWordEdge w => inWord w p.before == inWord w p.rest.head?
  | wordStart w => !inWord w p.before && inWord w p.rest.head?
  | wordEnd w => inWord w p.before && !inWord w p.rest.head?
  | halfStart w => !inWord w p.before
  | halfEnd w => !inWord w p.rest.head?

end Regex

------------------------------------------------------------
-- Expressions
------------------------------------------------------------

/- A regular expression. -/
inductive Regex where
  | nothing
  | oneOf (set : CharSet)
  | look (condition : Regex.Look)
  | both (first second : Regex)
  | either (first second : Regex)
  | repeated (greedy : Bool) (body : Regex)
deriving Repr, Inhabited

namespace Regex

/- Any number of repetitions, and none. -/
def star
    (greedy : Bool)
    (r : Regex) : Regex :=
  if greedy then either (repeated true r) nothing
  else either nothing (repeated false r)

/- The expression or nothing. -/
def optional
    (greedy : Bool)
    (r : Regex) : Regex :=
  if greedy then either r nothing else either nothing r

/- A number of repetitions. -/
def times
    (r : Regex) : Nat → Regex
  | 0 => nothing
  | 1 => r
  | n + 2 => both r (times r (n + 1))

/- At most a number of repetitions. -/
def atMost
    (greedy : Bool)
    (r : Regex) : Nat → Regex
  | 0 => nothing
  | n + 1 => optional greedy (both r (atMost greedy r n))

/- How much room an expression takes. -/
def weight : Regex → Nat
  | nothing => 1
  | oneOf s => 1 + s.ranges.length
  | look _ => 1
  | both a b => a.weight + b.weight
  | either a b => 1 + a.weight + b.weight
  | repeated _ r => 1 + r.weight

------------------------------------------------------------
-- Matching
------------------------------------------------------------

/- Each spot once, where it came first. -/
def distinct
    (spots : List Spot) : List Spot :=
  (spots.foldl
    (fun seen p =>
      if seen.any (fun q => q.offset == p.offset) then seen
      else p :: seen)
    []).reverse

/- Spots reached and spots from which the body was tried. -/
structure Loop where
  reached : List Spot := []
  tried : List Nat := []

namespace Loop

/- A spot is reached. -/
def reach
    (l : Loop)
    (p : Spot) : Loop :=
  { l with reached := p :: l.reached }

end Loop

/-
  The spots behind one repetition or more, last one first.  A
  repetition that takes nothing ends there.
-/
def loopEnds
    (greedy : Bool)
    (body : Spot → List Spot) : Nat → Spot → Loop → Loop
  | 0, _, l => l
  | fuel + 1, p, l =>
      if l.tried.contains p.offset then
        l
      else
        (body p).foldl
          (fun l e =>
            if e.offset == p.offset then
              l.reach e
            else if greedy then
              (loopEnds greedy body fuel e l).reach e
            else
              loopEnds greedy body fuel e (l.reach e))
          { l with tried := p.offset :: l.tried }

/- The spots where an expression may end, preferred ones first. -/
def ends : Regex → Spot → List Spot
  | nothing, p => [p]
  | oneOf s, p =>
      match p.rest with
      | [] => []
      | c :: _ => if s.contains c then p.next?.toList else []
  | look l, p => if l.holds p then [p] else []
  | both a b, p =>
      distinct ((ends a p).flatMap (fun q => ends b q))
  | either a b, p => distinct (ends a p ++ ends b p)
  | repeated greedy r, p =>
      distinct
        (loopEnds greedy (fun q => ends r q) (p.rest.length + 1) p
          {}).reached.reverse

/- The first match at a spot or behind it. -/
def findFrom?
    (r : Regex) : Nat → Spot → Option (Spot × Spot)
  | 0, _ => none
  | fuel + 1, p =>
      match r.ends p with
      | e :: _ => some (p, e)
      | [] =>
          match p.next? with
          | some q => findFrom? r fuel q
          | none => none

/- The first match at a spot or behind it. -/
def find?
    (r : Regex)
    (p : Spot) : Option (Spot × Spot) :=
  r.findFrom? (p.rest.length + 1) p

/-
  The next match at a spot or behind it, other than an empty
  one where the last match ended.
-/
def nextMatch?
    (r : Regex)
    (lastEnd : Option Nat)
    (p : Spot) : Option (Spot × Spot) :=
  match r.find? p with
  | none => none
  | some (b, e) =>
      if b.offset == e.offset && lastEnd == some e.offset then
        match p.next? with
        | some q => r.find? q
        | none => none
      else
        some (b, e)

/- The offsets at which matches start. -/
def matchesFrom
    (r : Regex) : Nat → Option Nat → Spot → List Nat
  | 0, _, _ => []
  | fuel + 1, lastEnd, p =>
      match r.nextMatch? lastEnd p with
      | none => []
      | some (b, e) =>
          b.offset :: matchesFrom r fuel (some e.offset) e

/- The offsets at which matches in a text start. -/
def «matches»
    (r : Regex)
    (s : String) : List Nat :=
  r.matchesFrom (2 * s.length + 2) none (.start s)

end Regex

end ModuleLint
