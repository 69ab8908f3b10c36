import ModuleLint.Disk.Basic
import ModuleLint.Glob.Match
import ModuleLint.Text.Blank

/-
  Files that list what to ignore.

  Every line is a pattern.  A pattern without a slash matches
  at any depth, a pattern with a slash at its end matches only
  directories, and a pattern with an exclamation mark in front
  keeps what other patterns ignore.  The last pattern that
  matches decides.

  Key definitions include:
    * `IgnoreRule`, `IgnoreRule.ofLine?`
    * `Verdict`, `IgnoreRule.verdict`
    * `Layer`, `Layers.verdict`
-/

namespace ModuleLint

------------------------------------------------------------
-- Lines
------------------------------------------------------------

/- A pattern of a list of what to ignore. -/
structure IgnoreRule where
  glob : Glob
  keeps : Bool
  onlyDirectories : Bool
deriving Repr, Inhabited

namespace IgnoreRule

/- The line without what its front stands for. -/
structure Stripped where
  keeps : Bool
  anchored : Bool
  rest : List Char

/- The marks at the front of a line. -/
def stripFront : List Char → Stripped
  | '\\' :: '!' :: rest => ⟨false, false, '!' :: rest⟩
  | '\\' :: '#' :: rest => ⟨false, false, '#' :: rest⟩
  | '!' :: '/' :: rest => ⟨true, true, rest⟩
  | '!' :: rest => ⟨true, false, rest⟩
  | '/' :: rest => ⟨false, true, rest⟩
  | rest => ⟨false, false, rest⟩

/- The slash at the end of a line, and a line without it. -/
def stripEnd
    (cs : List Char) : Bool × List Char :=
  match cs.reverse with
  | '/' :: '\\' :: rest => (true, rest.reverse)
  | '/' :: rest => (true, rest.reverse)
  | _ => (false, cs)

/- The pattern for a line without marks. -/
def patternOf
    (anchored : Bool)
    (line : String) : String :=
  let free :=
    !anchored && !line.toList.contains '/' && line != "**"
  let p := if free then "**/" ++ line else line
  if p.endsWith "/**" then p ++ "/*" else p

/- The rule of a line, if it has one. -/
def ofLine?
    (line : String) : Option IgnoreRule :=
  if line.startsWith "#" then
    none
  else
    let line :=
      if line.endsWith "\\ " then line
      else Text.trimEndBy Text.isBlank line
    if line.isEmpty then
      none
    else
      let front := stripFront line.toList
      let (onlyDirectories, rest) := stripEnd front.rest
      let p := patternOf front.anchored (String.ofList rest)
      match Glob.ofPattern p true with
      | .ok glob => some ⟨glob, front.keeps, onlyDirectories⟩
      | .error _ => none

/- The lines of a text. -/
def linesOf
    (text : String) : List String :=
  (Text.splitAt '\n' text).map
    (fun l =>
      match l.toList.reverse with
      | '\r' :: rest => String.ofList rest.reverse
      | _ => l)

/- The rules of a text. -/
def ofText
    (text : String) : List IgnoreRule :=
  let cs := text.toList
  let cs :=
    cs.dropWhile (fun c => c.toNat == 0xFEFF)
  (linesOf (String.ofList cs)).filterMap ofLine?

end IgnoreRule

------------------------------------------------------------
-- Verdicts
------------------------------------------------------------

/- What rules say about an entry. -/
inductive Verdict where
  | ignored
  | kept
deriving DecidableEq, Repr, Inhabited

/- What the last rule that matches says. -/
def IgnoreRule.verdict
    (rules : List IgnoreRule)
    (path : RawText)
    (directory : Bool) : Option Verdict :=
  (rules.reverse.find?
      (fun r =>
        (!r.onlyDirectories || directory) &&
          r.glob.acceptsBytes path.bytes)).map
    (fun r => if r.keeps then .kept else .ignored)

------------------------------------------------------------
-- Layers
------------------------------------------------------------

/- Which files with rules are obeyed, and how. -/
structure IgnoreOptions where
  customName : Option String
  skipHidden : Bool
  useGitIgnore : Bool
  requireGit : Bool
deriving DecidableEq, Repr, Inhabited

/-
  The rules that a directory brings: its own list, the general
  list, the list of a repository, and the private list of a
  repository.  The trail leads from the directory to where the
  walk has come.
-/
structure Layer where
  custom : List IgnoreRule
  general : List IgnoreRule
  repository : List IgnoreRule
  exclude : List IgnoreRule
  hasGit : Bool
  trail : List RawText
deriving Repr, Inhabited

/- The rules in a file, if it is there. -/
def Entry.rulesAt
    (e : Entry)
    (names : List RawText) : List IgnoreRule :=
  match names.foldl (fun e n => e.bind (·.member? n)) (some e) with
  | some (.file (.text s)) => IgnoreRule.ofText s
  | _ => []

namespace Layer

/- The rules of a directory. -/
def ofDirectory
    (o : IgnoreOptions)
    (e : Entry) : Layer :=
  { custom :=
      match o.customName with
      | some name => e.rulesAt [name]
      | none => []
    general := e.rulesAt [".ignore"]
    repository :=
      if o.useGitIgnore then e.rulesAt [".gitignore"] else []
    exclude := e.rulesAt [".git", "info", "exclude"]
    hasGit := (e.member? ".git").isSome
    trail := [] }

/- The layer seen from one step further down. -/
def descend
    (l : Layer)
    (name : RawText) : Layer :=
  { l with trail := l.trail ++ [name] }

/- The path of an entry as the layer sees it. -/
def pathTo
    (l : Layer)
    (name : RawText) : RawText :=
  RawText.ofSteps (l.trail ++ [name])

end Layer

namespace Layers

/- What the nearest layer with an opinion says. -/
def first?
    (rules : Layer → List IgnoreRule)
    (name : RawText)
    (directory : Bool) : List Layer → Option Verdict
  | [] => none
  | l :: ls =>
      (IgnoreRule.verdict (rules l) (l.pathTo name) directory).or
        (first? rules name directory ls)

/- The layers up to the nearest repository. -/
def withinRepository : List Layer → List Layer
  | [] => []
  | l :: ls =>
      if l.hasGit then [l] else l :: withinRepository ls

/-
  What the layers say, nearest one first.  The directory's own
  lists count more than general ones, and those more than the
  lists of a repository.
-/
def verdict
    (o : IgnoreOptions)
    (layers : List Layer)
    (name : RawText)
    (directory : Bool) : Option Verdict :=
  let git :=
    if o.requireGit && !layers.any (·.hasGit) then []
    else withinRepository layers
  let answer :=
    ((first? (·.custom) name directory layers).or
      (first? (·.general) name directory layers)).or
    ((first? (·.repository) name directory git).or
      (first? (·.exclude) name directory git))
  answer.or
    (if o.skipHidden && name.startsWith "." then some .ignored
     else none)

end Layers

end ModuleLint
