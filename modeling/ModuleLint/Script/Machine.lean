import ModuleLint.Script.Reader

/-
  A machine that reads a text by a grammar.

  The machine keeps what is left to do on a stack of its own,
  so that the nesting of a text is bounded by memory alone.
  It goes forward through a form and, when a token does not
  fit, back to the last open choice.  It remembers the furthest
  token that fitted nowhere and what was expected there.

  Key definitions include:
    * `Frame`, `Machine.State`
    * `Machine.step`
    * `Machine.run`
-/

namespace ModuleLint

namespace Script

------------------------------------------------------------
-- States
------------------------------------------------------------

/- What a token could have been. -/
structure Expected where
  shape : Shape
  text : String
deriving DecidableEq, Repr, Inhabited

/- What is restored when a choice is taken back. -/
structure Saved where
  reader : Reader
  pieces : List Piece
  mode : Mode
deriving Inhabited

/-
  What to do once a form is done or has failed.  `outer` holds
  the pieces that were read before the form, last one first.
-/
inductive Frame (σ : Type) where
  | next (items : List (Form σ))
  | orElse (items : List (Form σ)) (saved : Saved)
  | again (item : Form σ) (saved : Saved)
  | optional (saved : Saved)
  | intoField (name : String) (outer : List Piece)
  | intoNode (kind : String) (outer : List Piece)
  | intoGroup (kind : String) (outer : List Piece)
  | intoOperators (outer : List Piece)
  | look (wanted : Bool) (saved : Saved)
  | restore (mode : Mode)
deriving Inhabited

namespace Frame

/- The pieces set aside by a frame. -/
def outer
    {σ : Type} : Frame σ → List Piece
  | intoField _ ps => ps
  | intoNode _ ps => ps
  | intoGroup _ ps => ps
  | intoOperators ps => ps
  | _ => []

/- The frame belongs to a mere look ahead. -/
def looks
    {σ : Type} : Frame σ → Bool
  | look _ _ => true
  | _ => false

end Frame

/-
  Where the reading got stuck, and what was read before.  The
  readings that got as far differ in what they made of it:
  `stands` holds the last pieces of each, last one first.
-/
structure Stuck where
  reader : Reader
  pieces : List Piece
  stands : List (List Piece)
  expected : List Expected
deriving Inhabited

/- The furthest token that fitted nowhere, with the stacks there. -/
structure Furthest (σ : Type) where
  reader : Reader
  pieces : List Piece
  stack : List (Frame σ)
  others : List (List Piece × List (Frame σ))
  expected : List Expected
deriving Inhabited

namespace Furthest

variable {σ : Type}

/- The last `n` of the given pieces and those on the stack. -/
def lastPieces
    (n : Nat)
    (ps : List Piece) : List (Frame σ) → List Piece
  | [] => ps.take n
  | f :: fs =>
      if n ≤ ps.length then ps.take n
      else ps ++ lastPieces (n - ps.length) f.outer fs

/- How many pieces of a stand are kept. -/
def standLength : Nat :=
  17

/- Everything read so far and not yet taken back, last first. -/
def report
    (f : Furthest σ) : Stuck :=
  { reader := f.reader
    pieces := f.pieces ++ (f.stack.map Frame.outer).flatten
    stands :=
      ((f.pieces, f.stack) :: f.others.reverse).map
        (fun x => lastPieces standLength x.1 x.2)
    expected := f.expected }

end Furthest

namespace Machine

variable {σ : Type}

/- What the machine is about to do. -/
inductive Control (σ : Type) where
  | read (item : Form σ)
  | done
  | failed

/- The state of the machine. -/
structure State (σ : Type) where
  control : Control σ
  stack : List (Frame σ)
  reader : Reader
  pieces : List Piece
  mode : Mode
  furthest : Option (Furthest σ)
  misses : Nat
  patience : Nat

/- The state to go back to. -/
def State.backTo
    (s : State σ)
    (saved : Saved) : State σ :=
  { s with
    reader := saved.reader
    pieces := saved.pieces
    mode := saved.mode }

/- What is to be restored later. -/
def State.save
    (s : State σ) : Saved :=
  ⟨s.reader, s.pieces, s.mode⟩

------------------------------------------------------------
-- Tokens
------------------------------------------------------------

/-
  Remember a token that did not fit, if none further did.  Once
  too many tokens did not fit since the furthest one, nothing
  else is tried.
-/
def State.miss
    (s : State σ)
    (e : Expected) : State σ :=
  let failed :=
    { s with
      control := .failed
      stack := if s.patience < s.misses then [] else s.stack
      misses := s.misses + 1 }
  let here : Furthest σ :=
    ⟨s.reader, s.pieces, s.stack, [], [e]⟩
  match s.furthest with
  | none => { failed with furthest := some here }
  | some k =>
      if k.reader.offset < s.reader.offset ||
          k.reader.repairs.length >
            s.reader.repairs.length then
        { failed with
          furthest := some here
          misses := 0 }
      else if k.reader.offset == s.reader.offset then
        { failed with
          furthest :=
            some
              { k with
                others := (s.pieces, s.stack) :: k.others
                expected := e :: k.expected } }
      else
        failed

/- Go on behind a token. -/
def State.accept
    (s : State σ)
    (taken : Piece × Reader) : State σ :=
  { s with
    control := .done
    reader := taken.2
    pieces := taken.1 :: s.pieces }

/- Read a token of the given shape that satisfies `p`. -/
def State.token
    (s : State σ)
    (shape : Shape)
    (p : String → Bool)
    (kind : String)
    (named : Bool)
    (e : Expected) : State σ :=
  let t := s.reader.ahead
  if t.shape == shape && p t.text then
    s.accept (s.reader.takeToken kind named)
  else
    s.miss e

/- Read punctuation that may go on in its token. -/
def State.leading
    (s : State σ)
    (text : String) : State σ :=
  let t := s.reader.ahead
  if t.shape == .glyph && text.isPrefixOf t.text then
    let stop :=
      if s.reader.assumes then t.stop
      else t.start.advance text.length
    s.accept (s.reader.take text false text stop)
  else
    s.miss ⟨.glyph, text⟩

/-
  Read characters under a reading of their own, starting at
  the next token or, for text, right behind the last one.
-/
def State.reading
    (s : State σ)
    (how : Reading)
    (kind : String) : State σ :=
  let start :=
    match how with
    | .templateChars => s.reader.cursor
    | .substitution => s.reader.cursor
    | .markupText => s.reader.cursor
    | _ => s.reader.ahead.start
  let stop? :=
    match how with
    | .pattern => start.pattern?
    | .templateChars => start.templateChars?
    | .markupText => start.markupText?
    | .markupName => start.markupName?
    | .markupString => start.markupString?
    | .substitution => start.substitution?
    | .interpreter => start.interpreter?
  match stop? with
  | some stop =>
      let n := start.distance stop
      let extras :=
        match how with
        | .templateChars => []
        | .substitution => []
        | .markupText => []
        | _ => s.reader.extras
      let tree :=
        s.reader.leafTree kind (how != .substitution)
          (String.ofList (start.rest.take n)) start.place
          stop.place
      s.accept
        ( { extras, tree := some tree, start := start.place
            stop := stop.place },
          Reader.behind stop s.reader.repairs false )
  | none => s.miss ⟨.stray, kind⟩

/- Read an implied semicolon. -/
def State.implied
    (s : State σ)
    (setting : Setting) : State σ :=
  match s.reader.impliedAt? s.mode.dialect setting with
  | some (extras, c) =>
      s.accept
        ( { extras, tree := none, start := c.place
            stop := c.place },
          Reader.behind c s.reader.repairs false )
  | none => { s with control := .failed }

/- Decide a condition. -/
def State.holds
    (s : State σ) : Test → Bool
  | .types => s.mode.dialect.hasTypes
  | .noTypes => !s.mode.dialect.hasTypes
  | .markup => s.mode.dialect.hasMarkup
  | .noMarkup => !s.mode.dialect.hasMarkup
  | .goesOn =>
      !s.mode.ends ||
        (s.reader.impliedAt? s.mode.dialect
          ⟨true, false⟩).isNone
  | .runsOn =>
      !s.mode.ends ||
        (s.reader.impliedAt? s.mode.dialect
          ⟨false, false⟩).isNone
  | .last kinds =>
      match s.pieces with
      | p :: _ => kinds.contains p.kind
      | [] => false
  | .declares => s.mode.declares
  | .unbroken => !s.reader.extras.any Tree.damaged

------------------------------------------------------------
-- Steps
------------------------------------------------------------

/- Go into a form. -/
def State.enter
    (g : σ → Form σ)
    (s : State σ) : Form σ → State σ
  | .word text =>
      s.token .word (· == text) text false ⟨.word, text⟩
  | .keyword text =>
      s.token .word (· == text) text true ⟨.word, text⟩
  | .glyph text =>
      s.token .glyph (· == text) text false ⟨.glyph, text⟩
  | .lead text => s.leading text
  | .leaf shape kind =>
      s.token shape (fun _ => true) kind true ⟨shape, kind⟩
  | .name barred kind =>
      s.token .word (fun w => !barred.contains w) kind true
        ⟨.word, ""⟩
  | .reading how kind => s.reading how kind
  | .implied setting => s.implied setting
  | .finish =>
      s.token .finish (fun _ => true) "end" false ⟨.finish, ""⟩
  | .sym x => { s with control := .read (g x) }
  | .seq [] => { s with control := .done }
  | .seq (f :: fs) =>
      { s with
        control := .read f
        stack := .next fs :: s.stack }
  | .choice [] => { s with control := .failed }
  | .choice [f] => { s with control := .read f }
  | .choice (f :: fs) =>
      { s with
        control := .read f
        stack := .orElse fs s.save :: s.stack }
  | .many f =>
      { s with
        control := .read f
        stack := .again f s.save :: s.stack }
  | .maybe f =>
      { s with
        control := .read f
        stack := .optional s.save :: s.stack }
  | .field name f =>
      { s with
        control := .read f
        stack := .intoField name s.pieces :: s.stack
        pieces := [] }
  | .node kind f =>
      { s with
        control := .read f
        stack := .intoNode kind s.pieces :: s.stack
        pieces := [] }
  | .group kind f =>
      { s with
        control := .read f
        stack := .intoGroup kind s.pieces :: s.stack
        pieces := [] }
  | .wrap kind name f =>
      match s.pieces with
      | head :: outer =>
          let head :=
            match name with
            | some n => head.withField n
            | none => head
          { s with
            control := .read f
            stack := .intoNode kind outer :: s.stack
            pieces := [head] }
      | [] => { s with control := .failed }
  | .operators f =>
      { s with
        control := .read f
        stack := .intoOperators s.pieces :: s.stack
        pieces := [] }
  | .ahead f =>
      { s with
        control := .read f
        stack := .look true s.save :: s.stack }
  | .notAhead f =>
      { s with
        control := .read f
        stack := .look false s.save :: s.stack }
  | .test condition =>
      if s.holds condition then { s with control := .done }
      else { s with control := .failed }
  | .under change f =>
      { s with
        control := .read f
        stack := .restore s.mode :: s.stack
        mode := s.mode.under change }

/- Go on after a form is done. -/
def State.resume
    (source : String)
    (s : State σ) : Frame σ → State σ
  | .next [] => s
  | .next (f :: fs) =>
      match fs with
      | [] => { s with control := .read f }
      | _ =>
          { s with
            control := .read f
            stack := .next fs :: s.stack }
  | .orElse _ _ => s
  | .again f saved =>
      if s.reader.cursor.left == saved.reader.cursor.left &&
          s.reader.repairs.length ==
            saved.reader.repairs.length then
        s
      else
        { s with
          control := .read f
          stack := .again f s.save :: s.stack }
  | .optional _ => s
  | .intoField name outer =>
      { s with
        pieces := s.pieces.map (Piece.withField name) ++ outer }
  | .intoNode kind outer =>
      { s with
        pieces :=
          Piece.node source kind s.reader.cursor.place
            s.pieces.reverse :: outer }
  | .intoGroup kind outer =>
      match s.pieces with
      | [p] => { s with pieces := p :: outer }
      | ps =>
          { s with
            pieces :=
              Piece.node source kind s.reader.cursor.place
                ps.reverse :: outer }
  | .intoOperators outer =>
      { s with
        pieces :=
          Piece.operators source s.pieces.reverse ++ outer }
  | .look true saved => s.backTo saved
  | .look false _ => { s with control := .failed }
  | .restore m => { s with mode := m }

/- Go back after a form has failed. -/
def State.recoil
    (s : State σ) : Frame σ → State σ
  | .orElse [] _ => s
  | .orElse [f] saved =>
      { s.backTo saved with control := .read f }
  | .orElse (f :: fs) saved =>
      { s.backTo saved with
        control := .read f
        stack := .orElse fs saved :: s.stack }
  | .again _ saved => { s.backTo saved with control := .done }
  | .optional saved => { s.backTo saved with control := .done }
  | .look false saved =>
      { s.backTo saved with control := .done }
  | _ => s

/- One step, if there is anything left to do. -/
def step
    (g : σ → Form σ)
    (source : String)
    (s : State σ) : Option (State σ) :=
  match s.control, s.stack with
  | .read f, _ => some (s.enter g f)
  | .done, [] => none
  | .done, f :: fs =>
      some ({ s with stack := fs }.resume source f)
  | .failed, [] => none
  | .failed, f :: fs => some ({ s with stack := fs }.recoil f)

/-
  Steps until nothing is left to do or the fuel is spent, with
  the fuel that is left.
-/
def iterate
    (g : σ → Form σ)
    (source : String) : Nat → State σ → Nat × State σ
  | 0, s => (0, s)
  | fuel + 1, s =>
      match step g source s with
      | some s' => iterate g source fuel s'
      | none => (fuel, s)

/- The outcome of a reading. -/
inductive Outcome where
  | complete (pieces : List Piece)
  | stuck (at? : Option Stuck)
deriving Inhabited

/- Read a text by a grammar in a bounded number of steps. -/
def run
    (g : σ → Form σ)
    (start : σ)
    (d : Dialect)
    (source : String)
    (repairs : List Repair)
    (fuel : Nat) : Nat × Outcome :=
  let s : State σ :=
    { control := .read (.sym start)
      stack := []
      reader := Reader.behind (Cursor.ofString source) repairs false
      pieces := []
      mode := ⟨d, true, true⟩
      furthest := none
      misses := 0
      patience := 100 * (source.length + 100) }
  let (left, final) := iterate g source fuel s
  match final.control with
  | .done => (left, .complete final.pieces.reverse)
  | _ => (left, .stuck (final.furthest.map Furthest.report))

end Machine

end Script

end ModuleLint
