import ModuleLint.Text.Raw

/-
  Paths of files and directories.

  A path is made of steps divided by slashes.  Empty steps and
  steps that stay where they are carry no meaning, except that
  a path may start at the root or at the current directory.
  The steps need not be texts: what is shown of a path, or
  sent to someone else, is the text that stands for it.

  Key definitions include:
    * `RawText.steps`, `RawText.ofSteps`
    * `Path`, `Path.ofText`, `Path.text`
    * `Part`, `Path.parts`
    * `Path.behind?`, `Path.relative`
    * `Path.join`
    * `Path.fileName?`, `Path.extension?`
-/

namespace ModuleLint

------------------------------------------------------------
-- Steps
------------------------------------------------------------

namespace Text

/- The pieces between the occurrences of a separator. -/
def pieces
    {α : Type}
    [DecidableEq α]
    (sep : α) : List α → List (List α)
  | [] => [[]]
  | c :: cs =>
      if c = sep then
        [] :: pieces sep cs
      else
        match pieces sep cs with
        | p :: ps => (c :: p) :: ps
        | [] => [[c]]

/- The texts between the occurrences of a separator. -/
def splitAt
    (sep : Char)
    (s : String) : List String :=
  (pieces sep s.toList).map String.ofList

/- The texts with a separator between them. -/
def joinWith
    (sep : String) : List String → String
  | [] => ""
  | [s] => s
  | s :: ss => s ++ sep ++ joinWith sep ss

end Text

namespace RawText

/- What is between the slashes. -/
def steps
    (s : RawText) : List RawText :=
  (Text.pieces 0x2f s.bytes).map RawText.mk

/- The steps with slashes between them. -/
def ofSteps : List RawText → RawText
  | [] => ""
  | [s] => s
  | s :: ss => s ++ "/" ++ ofSteps ss

end RawText

/- Where a path starts. -/
inductive Start where
  | root
  | here
  | inner
deriving DecidableEq, Repr, Inhabited

/- A path: where it starts and the steps from there. -/
structure Path where
  start : Start
  steps : List RawText
deriving DecidableEq, Repr, Inhabited

/- A meaningful part of a path. -/
inductive Part where
  | root
  | here
  | parent
  | name (text : RawText)
deriving DecidableEq, Repr, Inhabited

/- The part that a step is, if it means anything. -/
def Part.ofStep?
    (step : RawText) : Option Part :=
  if step == "" || step == "." then none
  else if step == ".." then some .parent
  else some (.name step)

/- The step has no meaning. -/
def Path.isIdle
    (step : RawText) : Bool :=
  step == "" || step == "."

namespace Path

------------------------------------------------------------
-- Reading and Writing
------------------------------------------------------------

/- The path that bytes are. -/
def ofText
    (s : RawText) : Path :=
  match s.steps with
  | first :: rest =>
      if first == "" && !rest.isEmpty then
        ⟨.root, rest⟩
      else if first == "." then
        ⟨.here, rest⟩
      else
        ⟨.inner, first :: rest⟩
  | [] => ⟨.inner, []⟩

/- The bytes of a path. -/
def text
    (p : Path) : RawText :=
  let steps := RawText.ofSteps p.steps
  match p.start with
  | .root => "/" ++ steps
  | .here => if p.steps.isEmpty then "." else "./" ++ steps
  | .inner => steps

------------------------------------------------------------
-- Parts
------------------------------------------------------------

/- The first part that comes from where a path starts. -/
def Start.parts : Start → List Part
  | .root => [.root]
  | .here => [.here]
  | .inner => []

/- The meaningful parts of a path. -/
def parts
    (p : Path) : List Part :=
  Start.parts p.start ++ p.steps.filterMap Part.ofStep?

/- The parts of the path that bytes are. -/
def partsOf
    (s : RawText) : List Part :=
  (ofText s).parts

/- The path starts at the root. -/
def isAbsolute
    (s : RawText) : Bool :=
  s.startsWith "/"

/- The first part of a path and the path behind it. -/
def first?
    (p : Path) : Option (Part × Path) :=
  match p.start with
  | .root => some (.root, ⟨.inner, p.steps⟩)
  | .here => some (.here, ⟨.inner, p.steps⟩)
  | .inner =>
      match p.steps.dropWhile isIdle with
      | [] => none
      | s :: rest =>
          some
            (if s == ".." then .parent else .name s,
              ⟨.inner, rest⟩)

/- The path behind the given parts, if it begins with them. -/
def behindParts? : List Part → Path → Option Path
  | [], p => some p
  | b :: bs, p =>
      match p.first? with
      | some (a, rest) =>
          if a = b then behindParts? bs rest else none
      | none => none

/- The path without meaningless steps at its ends. -/
def trimmed
    (p : Path) : Path :=
  let steps := (p.steps.reverse.dropWhile isIdle).reverse
  { p with
    steps :=
      if p.start == .inner then steps.dropWhile isIdle
      else steps }

/- What is left of a path behind a base it begins with. -/
def behind?
    (base path : RawText) : Option RawText :=
  (behindParts? (partsOf base) (ofText path)).map
    (fun p => p.trimmed.text)

/- The parts of the base are the first parts of the path. -/
def isBelow
    (base path : RawText) : Bool :=
  (partsOf base).isPrefixOf (partsOf path)

/- A text with slashes in place of backslashes. -/
def slashed
    (s : String) : String :=
  String.ofList
    (s.toList.map (fun c => if c == '\\' then '/' else c))

/-
  The text of a path as seen from a root, with slashes only.
  A path that is not below the root is kept whole.
-/
def relative
    (root path : RawText) : String :=
  slashed ((behind? root path).getD path).toText

/-
  A path as seen from a base.  A path that starts at the root
  is not changed by the base.
-/
def join
    (base path : RawText) : RawText :=
  if isAbsolute path then path
  else if base.isEmpty || base.endsWith "/" then base ++ path
  else base ++ "/" ++ path

------------------------------------------------------------
-- Names
------------------------------------------------------------

/- The name at the end of a path. -/
def fileName?
    (path : RawText) : Option RawText :=
  match (partsOf path).getLast? with
  | some (.name s) => some s
  | _ => none

/-
  The text behind the last point of a name, if it is one.  A
  name whose only point comes first has none.
-/
def nameExtension?
    (name : RawText) : Option String :=
  let bs := name.bytes.reverse
  let ending := bs.takeWhile (· != 0x2e)
  match bs.drop ending.length with
  | _ :: _ :: _ => RawText.text? ⟨ending.reverse⟩
  | _ => none

/- The text behind the last point of the name at the end. -/
def extension?
    (path : RawText) : Option String :=
  (fileName? path).bind nameExtension?

end Path

end ModuleLint
