import ModuleLint.Script.Machine
import ModuleLint.Script.Grammar

/-
  Trees of whole texts, faulty ones included.

  A text that the grammar does not fit is repaired: what fits
  nowhere is set aside in a node of kind `ERROR`, or a token is
  assumed.  Each repair has a cost, and the cheapest repairs
  that make the text fit are taken.

  Key definitions include:
    * `Repair.cost`
    * `Plan`, `Attempt`, `Plan.extend`
    * `Script.search`
    * `Script.parse`
-/

namespace ModuleLint

namespace Script

------------------------------------------------------------
-- Costs
------------------------------------------------------------

/- What every stretch that is set aside costs. -/
def recoveryCost : Nat :=
  500

/- What an assumed token costs on top of that. -/
def missingCost : Nat :=
  110

/- What the root of a tree costs, if it was set aside. -/
def rootCost
    (l : Label)
    (children : List Tree) : Nat :=
  match l.standing with
  | .sound => 0
  | .missing => recoveryCost + missingCost
  | .misplaced =>
      let trees :=
        children.filter
          (fun c =>
            c.kind != "comment" &&
              !(c.kind == "ERROR" && c.children.isEmpty))
      recoveryCost + 100 * trees.length +
        (l.stop.offset - l.start.offset) +
        30 * (l.stop.line - l.start.line)

/- What a tree costs. -/
def treeCost : Tree → Nat
  | .node l cs => rootCost l cs + total (cs.map treeCost)

/- What a repair costs. -/
def Repair.cost : Repair → Nat
  | pass _ tree _ => treeCost tree
  | assume _ _ _ => recoveryCost + missingCost

------------------------------------------------------------
-- Plans
------------------------------------------------------------

/-
  Repairs in the order of the text.  They are of use if they
  let the token at `beyond` be read.
-/
structure Plan where
  repairs : List Repair
  beyond : Cursor
deriving Inhabited

/- What a plan costs. -/
def Plan.cost
    (p : Plan) : Nat :=
  total (p.repairs.map Repair.cost)

/- A node for trees that fit nowhere. -/
def asideTree
    (source : String)
    (start stop : Place)
    (children : List Tree) : Tree :=
  .node
    { kind := "ERROR"
      named := true
      field := none
      standing := .misplaced
      damaged := true
      text := Text.slice source start.offset stop.offset
      start
      stop }
    children

/- A leaf that fits nowhere. -/
def strayLeaf
    (isStray : Bool)
    (start stop : Cursor) : Tree :=
  let text := String.ofList (start.rest.take (start.distance stop))
  .node
    { kind := if isStray then "ERROR" else text
      named := isStray
      field := none
      standing := if isStray then .misplaced else .sound
      damaged := isStray
      text
      start := start.place
      stop := stop.place }
    []

/-
  The leaves of a token that fits nowhere.  A string falls into
  its quotes and what stands between them.
-/
def strayLeaves
    (t : Token) : List Tree :=
  if t.shape == .string then
    let first := t.start.advance 1
    let last := t.start.advance (t.start.distance t.stop - 1)
    let inside :=
      if first.left == last.left then []
      else [strayLeaf false first last]
    [strayLeaf false t.start first] ++ inside ++
      [strayLeaf false last t.stop]
  else
    [strayLeaf (t.shape == .stray) t.start t.stop]

/-
  The trees between two trees set aside are set aside with
  them: trees of the given kind that stand right before a
  stretch become part of it.
-/
def absorbed
    (before : List Tree) : List Tree :=
  (before.reverse.takeWhile
    (fun t => t.kind == "ERROR")).reverse

/- Trees set aside, as the trees they hold. -/
def unpacked
    (ts : List Tree) : List Tree :=
  ts.flatMap
    (fun t => if t.kind == "ERROR" then t.children else [t])

/-
  Set aside the given trees and go on at the cursor.  Repairs
  that lie in the stretch give way to it.
-/
def Plan.setAside
    (p : Plan)
    (source : String)
    (k : Stuck)
    (trees : List Tree)
    (resume : Cursor) : Option Plan := do
  let first ← trees.head?
  let last ← trees.getLast?
  let start := first.label.start
  let tree :=
    asideTree source start last.label.stop (unpacked trees)
  let outside :=
    p.repairs.filter (fun r => r.offset < start.offset)
  some
    { repairs := outside ++ [.pass start.offset tree resume]
      beyond := k.reader.ahead.start }

/- Assume a token before the one that does not fit. -/
def Plan.supply
    (p : Plan)
    (k : Stuck)
    (e : Expected) : Option Plan :=
  if e.shape == .finish || e.shape == .stray then
    none
  else
    some
      { repairs :=
          p.repairs.filter
              (fun r => r.offset < k.reader.offset) ++
            [.assume k.reader.offset e.shape e.text]
        beyond := k.reader.ahead.start }

/-
  The trees to set aside if the last `n + 1` pieces of a stand
  are given up.
-/
def Stuck.givenUp
    (k : Stuck)
    (stand : List Piece)
    (n : Nat) : Option (List Tree) := do
  let given := (stand.take (n + 1)).reverse
  let first ← given.head?
  if stand.length ≤ n then
    none
  else
    some
      (absorbed first.extras ++ Piece.inside given ++
        k.reader.extras)

/- Where the first of some trees starts. -/
def startOffset
    (ts : List Tree) : Option Nat :=
  ts.head?.map (·.label.start.offset)

/- Of the lists that start at the same place, the shortest. -/
def shortest
    (ts : List Tree) : List (List Tree) → List (List Tree)
  | [] => [ts]
  | us :: rest =>
      if startOffset us == startOffset ts then
        (if ts.length < us.length then ts else us) :: rest
      else
        us :: shortest ts rest

/-
  Set aside what the readings made of the text before the token
  that does not fit.  What more was made of counts as less.
-/
def Plan.retreats
    (p : Plan)
    (source : String)
    (k : Stuck) : List Plan :=
  let all :=
    k.stands.flatMap
      (fun stand =>
        (List.range Furthest.standLength).filterMap
          (k.givenUp stand))
  (all.foldl (fun seen ts => shortest ts seen) []).filterMap
    (fun ts => p.setAside source k ts k.reader.ahead.start)

/- How many tokens are skipped at once at most. -/
def maxSkipped : Nat :=
  8

/-
  The trees of the next tokens, added to those before, and the
  cursors behind them.
-/
def strays : Nat → List Tree → Token → List (List Tree × Cursor)
  | 0, _, _ => []
  | n + 1, before, t =>
      if t.shape == .finish then
        []
      else
        let trees := before ++ strayLeaves t
        let next := Reader.behind t.stop [] false
        (trees, t.stop) ::
          strays n (trees ++ next.extras) next.ahead

/- Punctuation that may end what stands before it. -/
def closers : List String :=
  [";", ")", "]", "\x7d", ">", "\x60"]

/- A plan, and those to try instead if it is of no use. -/
structure Attempt where
  plan : Plan
  others : List Plan
deriving Inhabited

/- What an attempt costs. -/
def Attempt.cost
    (a : Attempt) : Nat :=
  a.plan.cost

/- The attempt of a list of plans. -/
def Attempt.ofPlans : List Plan → Option Attempt
  | [] => none
  | p :: ps => some ⟨p, ps⟩

/-
  The attempts to deal with the token that does not fit.  Of
  the tokens that could be assumed, only the first one that is
  of use is.
-/
def Plan.extend
    (p : Plan)
    (source : String)
    (k : Stuck) : List Attempt :=
  let skips :=
    strays maxSkipped (absorbed k.reader.extras) k.reader.ahead
  let passes :=
    skips.filterMap (fun x => p.setAside source k x.1 x.2)
  let names :=
    k.expected.filter (fun e => e.text.isEmpty)
  let others :=
    k.expected.filter (fun e => closers.contains e.text)
  let supplies :=
    (names ++ others.reverse).eraseDups.filterMap (p.supply k)
  (passes ++ p.retreats source k).map (⟨·, []⟩) ++
    (Attempt.ofPlans supplies).toList

------------------------------------------------------------
-- The Cheapest Plan
------------------------------------------------------------

/- The pieces of a whole text as its tree. -/
def wholeTree
    (source : String)
    (ps : List Piece) : Tree :=
  let stop := (ps.getLast?.map (·.stop)).getD .origin
  Tree.assemble
    { kind := "program"
      named := true
      field := none
      standing := .sound
      damaged := false
      text := source
      start := .origin
      stop }
    (Piece.trees (ps.map (fun p =>
      if p.kind == "end" then { p with tree := none } else p)))

/- A text of which nothing could be made. -/
def brokenTree
    (source : String)
    (k : Stuck) : Tree :=
  let trees := Piece.trees k.pieces.reverse
  let start :=
    (trees.head?.map (·.label.start)).getD
      k.reader.ahead.start.place
  asideTree source start k.reader.ahead.stop.place trees

/- Put an attempt behind those that cost no more. -/
def enqueue
    (a : Attempt) : List Attempt → List Attempt
  | [] => [a]
  | b :: rest =>
      if b.cost ≤ a.cost then b :: enqueue a rest
      else a :: b :: rest

/- The number of tokens from a cursor up to an offset. -/
def tokensUntil
    (offset : Nat) : Nat → Cursor → Nat
  | 0, _ => 0
  | fuel + 1, c =>
      let t := (Reader.behind c [] false).ahead
      if t.start.place.offset < offset then
        1 + tokensUntil offset fuel t.stop
      else
        0

/- How far a difference in cost may go. -/
def maxDifference : Nat :=
  1600

/-
  An attempt is still worth while if it does not cost much more
  than a plan that has read the given number of tokens.
-/
def Attempt.rivals
    (p : Plan)
    (tokens : Nat)
    (a : Attempt) : Bool :=
  (a.cost - p.cost) * (1 + tokens) ≤ maxDifference

/- Where a plan got stuck, and what stands right before. -/
structure Impasse where
  offset : Nat
  kinds : List String
deriving DecidableEq, Repr, Inhabited

/- The impasse of a reading that got stuck. -/
def Impasse.ofStuck
    (k : Stuck) : Impasse :=
  ⟨k.reader.offset, (k.pieces.take 4).map Piece.kind⟩

/-
  Try plans, the cheapest first, until one makes the text fit
  or the tries or the steps are used up.  A plan that gets stuck
  just as a cheaper one did is not followed.
-/
def search
    (d : Dialect)
    (source : String)
    (broken : Tree) :
    Nat → Nat → List Impasse → List Attempt → Tree
  | 0, _, _, _ => broken
  | _, 0, _, _ => broken
  | _, _, _, [] => broken
  | tries + 1, fuel + 1, seen, a :: rest =>
      let instead :=
        (Attempt.ofPlans a.others).toList ++ rest
      let p := a.plan
      match
        Machine.run Grammar.rule .program d source p.repairs
          fuel with
      | (_, .complete ps) => wholeTree source ps
      | (left, .stuck none) =>
          search d source broken tries left seen instead
      | (left, .stuck (some k)) =>
          let impasse := Impasse.ofStuck k
          if k.reader.offset ≤ p.beyond.place.offset then
            search d source broken tries left seen instead
          else if seen.contains impasse then
            search d source broken tries left seen rest
          else
            let tokens :=
              tokensUntil k.reader.offset p.beyond.left p.beyond
            search d source broken tries left (impasse :: seen)
              ((p.extend source k).foldl
                (fun queue b => enqueue b queue)
                (rest.filter (Attempt.rivals p tokens)))

/- How many plans are tried at most. -/
def maxTries : Nat :=
  400

/- How many steps all the tries may take together. -/
def maxSteps
    (source : String) : Nat :=
  20000000 + 2000 * source.length

/-
  The tree of a text.  The first reading may take more steps
  than any text that fits needs.
-/
def parse
    (d : Dialect)
    (source : String) : Tree :=
  let fuel := 20000 * (source.length + 100)
  match
    (Machine.run Grammar.rule .program d source [] fuel).2 with
  | .complete ps => wholeTree source ps
  | .stuck none => wholeTree source []
  | .stuck (some k) =>
      let start : Plan := ⟨[], Cursor.ofString source⟩
      search d source (brokenTree source k) maxTries
        (maxSteps source) []
        ((start.extend source k).foldl
          (fun queue a => enqueue a queue) [])

end Script

end ModuleLint
