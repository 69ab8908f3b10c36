import ModuleLint.Settings.Validate
import ModuleLint.Disk.Walk

/-
  Files that belong to a scan.

  Key definitions include:
    * `Selector`, `Selector.ofConfig`, `Selector.accepts`
    * `Disk.sourceFiles`
-/

namespace ModuleLint

------------------------------------------------------------
-- Selectors
------------------------------------------------------------

/- The endings of names of files that can be read. -/
def supportedExtensions : List String :=
  ["ts", "tsx", "js", "jsx", "mjs", "cjs"]

/- Patterns of files that belong to a scan. -/
structure Selector where
  included : Option GlobSet
  excluded : GlobSet
deriving Inhabited

namespace Selector

/- The patterns that are set. -/
def ofConfig
    (c : Config) : Except ConfigFault Selector := do
  let included ←
    if c.included.isEmpty then
      .ok none
    else
      match Config.globs c.included with
      | .ok gs => .ok (some gs)
      | .error e => .error e
  let excluded ← Config.globs c.excludes
  .ok ⟨included, excluded⟩

/- The name of the file has a supported ending. -/
def isSupported
    (path : RawText) : Bool :=
  match Path.extension? path with
  | some ext => supportedExtensions.contains ext
  | none => false

/-
  The file belongs to a scan of the root.  Patterns of files
  to leave out count more than patterns of files to take.
-/
def accepts
    (s : Selector)
    (root path : RawText) : Bool :=
  let rel := Path.relative root path
  isSupported path && !s.excluded.accepts rel &&
    match s.included with
    | some gs => gs.accepts rel
    | none => true

end Selector

------------------------------------------------------------
-- Files on Disk
------------------------------------------------------------

/- How directories are walked for source files. -/
def sourceWalk : IgnoreOptions :=
  { customName := some ".nestlintignore"
    skipHidden := true
    useGitIgnore := true
    requireGit := false }

/- A path below a directory. -/
def Path.below
    (base : RawText)
    (names : List RawText) : RawText :=
  names.foldl Path.join base

/- The source files below a root, in the order of their paths. -/
def Disk.sourceFiles
    (d : Disk)
    (root : RawText)
    (c : Config) : Except ConfigFault (List RawText) := do
  let selector ← Selector.ofConfig c
  .ok
    (((d.filesBelow sourceWalk root).map (Path.below root)).filter
      (fun p => selector.accepts root p))

end ModuleLint
