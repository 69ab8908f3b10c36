import ModuleLint.Script.Form

/-
  Pieces of a tree under construction.

  A piece is a tree with the comments that stand before it.
  Comments belong to the innermost node that has tokens on
  both sides of them: when pieces become a node, the comments
  before the first one stay outside of it.

  Key definitions include:
    * `Piece`
    * `Piece.node`
    * `Piece.operators`
-/

namespace ModuleLint

/- The part of a text between two byte offsets. -/
def Text.slice
    (s : String)
    (start stop : Nat) : String :=
  String.Pos.Raw.extract s ⟨start⟩ ⟨stop⟩

namespace Script

/-
  A tree with the trees that precede it.  A piece without a
  tree is a token that shows in no tree but still extends the
  node around it.
-/
structure Piece where
  extras : List Tree
  tree : Option Tree
  start : Place
  stop : Place
deriving Inhabited

namespace Piece

------------------------------------------------------------
-- Building Nodes
------------------------------------------------------------

/- The trees of a list of pieces, with their extras. -/
def trees : List Piece → List Tree
  | [] => []
  | p :: ps => p.extras ++ p.tree.toList ++ trees ps

/- The trees of a list of pieces without the leading extras. -/
def inside : List Piece → List Tree
  | [] => []
  | p :: ps => p.tree.toList ++ trees ps

/- The pieces, in order, as one node of the given kind. -/
def node
    (source : String)
    (kind : String)
    (fallback : Place)
    (ps : List Piece) : Piece :=
  let start := (ps.head?.map (·.start)).getD fallback
  let stop := (ps.getLast?.map (·.stop)).getD fallback
  let tree :=
    Tree.assemble
      { kind
        named := true
        field := none
        standing := .sound
        damaged := false
        text := Text.slice source start.offset stop.offset
        start
        stop }
      (inside ps)
  { extras := (ps.head?.map (·.extras)).getD []
    tree := some tree
    start
    stop }

/- The piece with its tree in a field. -/
def withField
    (field : String)
    (p : Piece) : Piece :=
  { p with tree := p.tree.map (Tree.withField field) }

/- The kind of the piece's tree, empty if it has none. -/
def kind
    (p : Piece) : String :=
  (p.tree.map Tree.kind).getD ""

------------------------------------------------------------
-- Precedence
------------------------------------------------------------

/- How tightly a binary operator binds. -/
def strength : String → Nat
  | "**" => 12
  | "*" => 11
  | "/" => 11
  | "%" => 11
  | "+" => 10
  | "-" => 10
  | "<<" => 9
  | ">>" => 9
  | ">>>" => 9
  | "<" => 8
  | "<=" => 8
  | ">" => 8
  | ">=" => 8
  | "in" => 8
  | "instanceof" => 8
  | "==" => 7
  | "!=" => 7
  | "===" => 7
  | "!==" => 7
  | "&" => 6
  | "^" => 5
  | "|" => 4
  | "&&" => 3
  | _ => 2

/- One operator between two operands. -/
def binary
    (source : String)
    (left operator right : Piece) : Piece :=
  node source "binary_expression" left.start
    [ left.withField "left", operator.withField "operator",
      right.withField "right" ]

/-
  Group the waiting operands whose operators bind at least as
  tightly as `floor`; the operator of powers groups from the
  right.
-/
def settle
    (source : String)
    (floor : Nat) :
    List (Piece × Piece) → Piece → List (Piece × Piece) × Piece
  | [], right => ([], right)
  | (left, op) :: waiting, right =>
      let s := strength op.kind
      if floor < s || (floor == s && s != 12) then
        settle source floor waiting
          (binary source left op right)
      else
        ((left, op) :: waiting, right)

/- Group operands and operators, read from the left. -/
def regroup
    (source : String) :
    List Piece → List (Piece × Piece) → Piece → Piece
  | op :: right :: ps, waiting, left =>
      let (waiting, left) :=
        settle source (strength op.kind) waiting left
      regroup source ps ((left, op) :: waiting) right
  | _, waiting, left =>
      (settle source 0 waiting left).2

/- Operands and operators in turn, grouped by precedence. -/
def operators
    (source : String) : List Piece → List Piece
  | [] => []
  | first :: ps => [regroup source ps [] first]

end Piece

end Script

end ModuleLint
