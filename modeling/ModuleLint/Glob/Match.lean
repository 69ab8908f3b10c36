import ModuleLint.Glob.Pattern

/-
  Paths that match patterns.

  A pattern is matched against the bytes of a path.  Each
  token has a list of the texts that may be left behind it,
  and a path matches if nothing may be left behind the last
  token.

  Key definitions include:
    * `Glob.Token.rests`, `Glob.rests`
    * `Glob`, `Glob.ofPattern`
    * `Glob.acceptsBytes`, `Glob.accepts`
    * `GlobSet.ofPatterns`, `GlobSet.accepts`
-/

namespace ModuleLint

namespace Glob

------------------------------------------------------------
-- Bytes
------------------------------------------------------------

/- The byte that divides the steps of a path. -/
def slash : UInt8 :=
  47

/- The bytes of a character. -/
def charBytes
    (c : Char) : List UInt8 :=
  String.utf8EncodeChar c

/- The bytes of a text. -/
def textBytes
    (s : String) : List UInt8 :=
  s.toList.flatMap charBytes

/-
  The ranges of bytes that a range of characters stands for.
  The last byte of the first character and the first byte of
  the second one bound a range, and their other bytes stand
  for themselves.
-/
def byteRanges
    (low high : Char) : List (UInt8 × UInt8) :=
  if low == high then
    (charBytes low).map (fun b => (b, b))
  else
    match (charBytes low).reverse, charBytes high with
    | a :: as, b :: bs =>
        (as.map (fun x => (x, x))) ++ [(a, b)] ++
          (bs.map (fun x => (x, x)))
    | _, _ => []

/- The byte is in a class. -/
def inClass
    (negated : Bool)
    (ranges : List (Char × Char))
    (b : UInt8) : Bool :=
  let found :=
    ranges.any
      (fun r =>
        (byteRanges r.1 r.2).any
          (fun p => p.1 ≤ b && b ≤ p.2))
  found != negated

------------------------------------------------------------
-- What May Be Left
------------------------------------------------------------

/- The text itself and all that may be left behind its bytes. -/
def allRests : List UInt8 → List (List UInt8)
  | [] => [[]]
  | b :: bs => (b :: bs) :: allRests bs

/- What may be left behind any bytes of one step. -/
def stepRests : List UInt8 → List (List UInt8)
  | [] => [[]]
  | b :: bs =>
      if b == slash then [b :: bs]
      else (b :: bs) :: stepRests bs

/- What may be left behind a slash at any place. -/
def slashRests : List UInt8 → List (List UInt8)
  | [] => []
  | b :: bs =>
      if b == slash then bs :: slashRests bs
      else slashRests bs

/- What is left behind given bytes. -/
def bytesRests
    (expected : List UInt8)
    (s : List UInt8) : List (List UInt8) :=
  match expected, s with
  | [], s => [s]
  | _ :: _, [] => []
  | e :: es, b :: bs => if e == b then bytesRests es bs else []

/- What may be left behind whole steps at the front. -/
def leadingRests
    (s : List UInt8) : List (List UInt8) :=
  s :: slashRests s

/- What may be left behind a slash and whole steps. -/
def innerRests : List UInt8 → List (List UInt8)
  | [] => []
  | b :: bs =>
      if b == slash then bs :: slashRests bs else []

/- What may be left behind a slash and anything. -/
def trailingRests : List UInt8 → List (List UInt8)
  | [] => []
  | b :: bs => if b == slash then allRests bs else []

/- What is left behind one byte that satisfies `p`. -/
def byteRests
    (p : UInt8 → Bool) : List UInt8 → List (List UInt8)
  | [] => []
  | b :: bs => if p b then [bs] else []

/- Each rest once. -/
def distinct
    (rests : List (List UInt8)) : List (List UInt8) :=
  rests.foldr
    (fun r seen =>
      if seen.any (fun q => q.length == r.length) then seen
      else r :: seen)
    []

mutual

/- The token never takes anything and is never refused. -/
def Token.isVoid : Token → Bool
  | .either branches => areVoid branches
  | _ => false

/- All tokens are void. -/
def isVoid : List Token → Bool
  | [] => true
  | t :: ts => t.isVoid && isVoid ts

/- All branches are void. -/
def areVoid : List (List Token) → Bool
  | [] => true
  | b :: bs => isVoid b && areVoid bs

end

mutual

/-
  What may be left behind a token.  Of alternatives only those
  that ask for something count, unless none of them does.
-/
def Token.rests : Token → List UInt8 → List (List UInt8)
  | .literal c, s => bytesRests (charBytes c) s
  | .one, s => byteRests (· != slash) s
  | .many, s => stepRests s
  | .leadingSteps, s => leadingRests s
  | .trailingSteps, s => trailingRests s
  | .innerSteps, s => innerRests s
  | .oneOf negated ranges, s =>
      byteRests (inClass negated ranges) s
  | .either branches, s =>
      if areVoid branches then [s] else branchRests branches s

/- What may be left behind tokens after one of several texts. -/
def rests :
    List Token → List (List UInt8) → List (List UInt8)
  | [], ss => ss
  | t :: ts, ss =>
      rests ts (distinct (ss.flatMap (fun s => t.rests s)))

/- What may be left behind one of several branches. -/
def branchRests :
    List (List Token) → List UInt8 → List (List UInt8)
  | [], _ => []
  | b :: bs, s =>
      (if isVoid b then [] else rests b [s]) ++ branchRests bs s

end

end Glob

------------------------------------------------------------
-- Globs
------------------------------------------------------------

/- A pattern that has been read. -/
structure Glob where
  tokens : List Glob.Token
deriving Repr, Inhabited

namespace Glob

/- The glob of a pattern. -/
def ofPattern
    (pattern : String)
    (lenient : Bool := false) : Except Fault Glob :=
  match tokensOf lenient pattern with
  | .ok ts => .ok ⟨ts⟩
  | .error e => .error e

/- The bytes match.  Two stars alone match all bytes. -/
def acceptsBytes
    (g : Glob)
    (path : List UInt8) : Bool :=
  match g.tokens with
  | [.leadingSteps] => true
  | ts => (rests ts [path]).any List.isEmpty

/- The path matches. -/
def accepts
    (g : Glob)
    (path : String) : Bool :=
  g.acceptsBytes (textBytes path)

end Glob

------------------------------------------------------------
-- Sets of Globs
------------------------------------------------------------

/- Several globs. -/
structure GlobSet where
  globs : List Glob
deriving Repr, Inhabited

namespace GlobSet

/- The set without globs. -/
def empty : GlobSet :=
  ⟨[]⟩

/- The globs of patterns, or the first faulty pattern. -/
def ofPatterns :
    List String → Except (String × Glob.Fault) GlobSet
  | [] => .ok empty
  | p :: ps =>
      match Glob.ofPattern p with
      | .error e => .error (p, e)
      | .ok g =>
          match ofPatterns ps with
          | .error e => .error e
          | .ok gs => .ok ⟨g :: gs.globs⟩

/- The path matches one of the globs. -/
def accepts
    (gs : GlobSet)
    (path : String) : Bool :=
  gs.globs.any (fun g => g.accepts path)

end GlobSet

end ModuleLint
