import ModuleLint.Script.Token

/-
  Semicolons that may be left out.

  Where a statement could end, a line break, a closing brace
  or the end of the text stands for a semicolon, unless the
  next line starts with something that must continue the
  statement.

  Key definitions include:
    * `Dialect`
    * `Setting`
    * `Semicolon.implied`
-/

namespace ModuleLint

namespace Script

/-
  The written languages: scripts without types, scripts with
  types, and scripts with types that may hold markup.
-/
inductive Dialect where
  | plain
  | typed
  | typedMarkup
deriving DecidableEq, Repr, Inhabited

namespace Dialect

/- The dialect writes types. -/
def hasTypes : Dialect → Bool
  | plain => false
  | typed => true
  | typedMarkup => true

/- The dialect writes markup. -/
def hasMarkup : Dialect → Bool
  | plain => true
  | typed => false
  | typedMarkup => true

/- The dialect of files with the given ending of their name. -/
def ofExtension
    (ext : String) : Dialect :=
  if ext == "tsx" then typedMarkup
  else if ["js", "jsx", "mjs", "cjs"].contains ext then plain
  else typed

end Dialect

/- What stands before the place where a semicolon is implied. -/
structure Setting where
  afterExpression : Bool
  afterSignature : Bool
deriving DecidableEq, Repr, Inhabited

namespace Semicolon

------------------------------------------------------------
-- Skipping
------------------------------------------------------------

/- The characters that end a line. -/
def endsLine
    (c : Char) : Bool :=
  c == '\n' || c.toNat == 0x2028 || c.toNat == 0x2029

/-
  The text behind a block comment whose opening has been read,
  and whether the comment crossed a line.
-/
def behindBlock : List Char → Bool → List Char × Bool
  | '*' :: '/' :: cs, crossed => (cs, crossed)
  | c :: cs, crossed => behindBlock cs (crossed || endsLine c)
  | [], crossed => ([], crossed)

/- Where a comment is passed over. -/
inductive Passing where
  | gap
  | line
  | block
deriving DecidableEq, Repr, Inhabited

/-
  The text behind white space and comments.  A slash that opens
  no comment gives nothing.
-/
def behindComments : Passing → List Char → Option (List Char)
  | _, [] => some []
  | .line, c :: cs =>
      if !endsLine c then behindComments .line cs
      else if Text.isAsciiBlank c then behindComments .gap cs
      else some (c :: cs)
  | .block, '*' :: '/' :: cs => behindComments .gap cs
  | .block, _ :: cs => behindComments .block cs
  | .gap, '/' :: '/' :: cs => behindComments .line cs
  | .gap, '/' :: '*' :: cs => behindComments .block cs
  | .gap, '/' :: _ => none
  | .gap, c :: cs =>
      if Text.isAsciiBlank c then behindComments .gap cs
      else some (c :: cs)

------------------------------------------------------------
-- The Next Line
------------------------------------------------------------

/- The operators `in` and `instanceof` continue an expression. -/
def startsOperator
    (cs : List Char) : Bool :=
  let ends (ds : List Char) : Bool :=
    !(ds.headD ' ').isAlpha
  match cs with
  | 'i' :: 'n' :: ds =>
      ends ds ||
        ("stanceof".toList.isPrefixOf ds && ends (ds.drop 8))
  | _ => false

/- The next line starts with something that cannot continue. -/
def startsAfresh
    (d : Dialect)
    (s : Setting) : List Char → Bool
  | [] => true
  | '+' :: cs => cs.head? == some '+'
  | '-' :: cs => cs.head? == some '-'
  | '!' :: cs => cs.head? != some '='
  | '.' :: cs =>
      !d.hasTypes && (cs.headD ' ').isDigit
  | c :: cs =>
      if c == '(' || c == '[' then
        d.hasTypes && !s.afterExpression
      else if c == '\x7b' then
        !(d.hasTypes && s.afterSignature)
      else if c == 'i' then
        !startsOperator (c :: cs)
      else
        !"\x60,:;*%><=?^|&/".toList.contains c

/- Decide behind a line break. -/
def behindBreak
    (d : Dialect)
    (s : Setting)
    (cs : List Char) : Bool :=
  match behindComments .gap cs with
  | some ds => startsAfresh d s ds
  | none => false

------------------------------------------------------------
-- Implied Semicolons
------------------------------------------------------------

/-
  A comment that ends a line ends a statement with it, in the
  dialect without types and where no operator could follow.
  The result tells what the comment decides, if anything, and
  the text behind it.
-/
def acrossComment
    (s : Setting)
    (cs : List Char) : Option (Bool × List Char) :=
  let decide (crossed : Bool) (ds : List Char) :
      Bool × List Char :=
    (crossed && !s.afterExpression &&
      ds.head? != some ',' && ds.head? != some '=', ds)
  match cs with
  | '/' :: '*' :: ds =>
      let (es, crossed) := behindBlock ds false
      if es.head? == some '/' then
        (behindComments .gap es).map (decide true)
      else
        some (decide crossed es)
  | _ =>
      (behindComments .gap cs).map (decide true)

/- A semicolon is implied right here. -/
def here
    (d : Dialect)
    (s : Setting) : Nat → List Char → Bool
  | _, [] => true
  | 0, _ => false
  | fuel + 1, c :: cs =>
      if c == '\x7d' then
        let next := cs.dropWhile Text.isAsciiBlank
        !d.hasTypes || next.head? != some ':' ||
          s.afterExpression
      else if c == '/' && !d.hasTypes then
        match acrossComment s (c :: cs) with
        | some (true, _) => true
        | some (false, ds) =>
            if ds.head? == some '/' then false
            else here d s fuel ds
        | none => false
      else if endsLine c then
        behindBreak d s cs
      else if Text.isAsciiBlank c then
        here d s fuel cs
      else
        false

/- A semicolon is implied before the given characters. -/
def implied
    (d : Dialect)
    (s : Setting)
    (c : Cursor) : Bool :=
  here d s (c.left + 1) c.rest

end Semicolon

end Script

end ModuleLint
