import ModuleLint.Script.Piece

/-
  Reading tokens past comments and repairs.

  A reader stands behind the last token and knows the next
  one together with the comments before it.  Repairs make a
  faulty text readable: a stretch can be passed over, and a
  token can be assumed where none stands.

  Key definitions include:
    * `Repair`
    * `Reader`
    * `Reader.behind`, `Reader.take`
    * `Reader.impliedAt?`
-/

namespace ModuleLint

namespace Script

------------------------------------------------------------
-- Repairs
------------------------------------------------------------

/-
  A change to the text.  `pass` puts the tree in place of the
  text between its offset and the cursor, and `assume` puts an
  empty token before the token at its offset.
-/
inductive Repair where
  | pass (offset : Nat) (tree : Tree) (resume : Cursor)
  | assume (offset : Nat) (shape : Shape) (text : String)
deriving Inhabited

/- Where a repair takes effect. -/
def Repair.offset : Repair → Nat
  | pass n _ _ => n
  | assume n _ _ => n

------------------------------------------------------------
-- Readers
------------------------------------------------------------

/-
  The cursor behind the last token, what precedes the next
  token, and that token.  Behind a repair the next token is
  settled: no semicolon can be implied before it.
-/
structure Reader where
  cursor : Cursor
  extras : List Tree
  ahead : Token
  settled : Bool
  repairs : List Repair
deriving Inhabited

/- A comment as a tree. -/
def commentTree
    (start stop : Cursor) : Tree :=
  let n := start.distance stop
  .node
    { kind := "comment"
      named := true
      field := none
      standing := .sound
      damaged := false
      text := String.ofList (start.rest.take n)
      start := start.place
      stop := stop.place }
    []

/-
  Pass over space, comments and repaired stretches.  The result
  is the cursor behind the last comment, the cursor at the next
  token, the trees passed over, last one first, and the repairs
  that are left.
-/
def gather :
    Nat → Cursor → List Repair → List Tree →
      Cursor × Cursor × List Tree × List Repair
  | 0, c, rs, seen => (c, c, seen, rs)
  | fuel + 1, c, rs, seen =>
      let start := c.skipWhile isSpace
      match rs with
      | .pass n tree resume :: later =>
          if n == start.place.offset then
            gather fuel resume later (tree :: seen)
          else
            match start.comment? with
            | some stop =>
                gather fuel stop rs
                  (commentTree start stop :: seen)
            | none => (c, start, seen, rs)
      | _ =>
          match start.comment? with
          | some stop =>
              gather fuel stop rs
                (commentTree start stop :: seen)
          | none => (c, start, seen, rs)

namespace Reader

/- The reader behind a cursor. -/
def behind
    (cursor : Cursor)
    (repairs : List Repair)
    (settled : Bool) : Reader :=
  let (last, start, seen, left) :=
    gather (cursor.left + repairs.length + 1) cursor
      repairs []
  let settled :=
    settled || seen.any (fun t => t.kind == "ERROR")
  match left with
  | .assume n shape text :: _ =>
      if n == start.place.offset then
        { cursor
          extras := seen.reverse
          ahead := ⟨shape, text, last, last⟩
          settled
          repairs := left }
      else
        { cursor
          extras := seen.reverse
          ahead := start.token
          settled
          repairs := left }
  | _ =>
      { cursor
        extras := seen.reverse
        ahead := start.token
        settled
        repairs := left }

/- The next token is an assumed one. -/
def assumes
    (r : Reader) : Bool :=
  match r.repairs with
  | .assume _ _ _ :: _ =>
      r.ahead.start.left == r.ahead.stop.left &&
        r.ahead.shape != .finish
  | _ => false

/- The offset of the next token. -/
def offset
    (r : Reader) : Nat :=
  r.ahead.start.place.offset

/- A leaf of the tree. -/
def leafTree
    (r : Reader)
    (kind : String)
    (named : Bool)
    (text : String)
    (start stop : Place) : Tree :=
  let standing : Standing :=
    if r.assumes then .missing else .sound
  .node
    { kind
      named
      field := none
      standing
      damaged := r.assumes
      text := if r.assumes then "" else text
      start
      stop }
    []

/-
  Take the next token, or its first part, as a leaf of the
  given kind.
-/
def take
    (r : Reader)
    (kind : String)
    (named : Bool)
    (text : String)
    (stop : Cursor) : Piece × Reader :=
  let start := r.ahead.start.place
  let piece : Piece :=
    { extras := r.extras
      tree := some (r.leafTree kind named text start stop.place)
      start
      stop := stop.place }
  let next :=
    if r.assumes then
      Reader.behind stop r.repairs.tail true
    else
      Reader.behind stop r.repairs false
  (piece, next)

/- Take the whole next token. -/
def takeToken
    (r : Reader)
    (kind : String)
    (named : Bool) : Piece × Reader :=
  r.take kind named r.ahead.text r.ahead.stop

------------------------------------------------------------
-- Implied Semicolons
------------------------------------------------------------

/-
  The comments before an implied semicolon and the cursor at
  it.  If none is implied right behind the last token, one may
  be implied behind a comment that follows.
-/
def impliedFrom
    (d : Dialect)
    (s : Setting) :
    Nat → Cursor → List Tree → Option (List Tree × Cursor)
  | 0, _, _ => none
  | fuel + 1, c, seen =>
      if Semicolon.implied d s c then
        some (seen.reverse, c)
      else
        let start := c.skipWhile isSpace
        match start.comment? with
        | some stop =>
            impliedFrom d s fuel stop
              (commentTree start stop :: seen)
        | none => none

/- Where a semicolon is implied behind the last token. -/
def impliedAt?
    (r : Reader)
    (d : Dialect)
    (s : Setting) : Option (List Tree × Cursor) :=
  if r.settled || r.assumes then
    none
  else
    impliedFrom d s (r.cursor.left + 1) r.cursor []

end Reader

end Script

end ModuleLint
