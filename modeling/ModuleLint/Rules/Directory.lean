import ModuleLint.Rules.Builtin
import ModuleLint.Disk.Walk
import ModuleLint.Toml.Reader

/-
  Rules found in a directory.

  Every file may hold definitions.  Files and entries that
  cannot be read are passed over.

  Key definitions include:
    * `ruleEntries`
    * `Disk.rulesIn`
    * `Disk.loadRegistry`
-/

namespace ModuleLint

/- How directories are walked for rules. -/
def ruleWalk : IgnoreOptions :=
  { customName := none
    skipHidden := false
    useGitIgnore := false
    requireGit := true }

/-
  The entries of a file with rules: a list, or what is listed
  under `rule` or else under `rules`.
-/
def ruleEntries : Json → List Json
  | .array items => items
  | .object ms =>
      let j := Json.object ms
      match (j.get? "rule").or (j.get? "rules") with
      | some (.array items) => items
      | some (.object single) => [.object single]
      | _ => []
  | _ => []

/- The value of a file with rules. -/
def ruleDocument?
    (name : RawText)
    (text : String) : Option Json :=
  if Path.nameExtension? name == some "json" then
    (Json.read? text).map Json.unique
  else
    Toml.read? text

/- The rules of a file. -/
def rulesOfFile
    (name : RawText)
    (text : String) : List Rule :=
  match ruleDocument? name text with
  | none => []
  | some j =>
      (ruleEntries j).flatMap
        (fun e =>
          match RuleDefinition.ofJson? e with
          | some d => d.toRules
          | none => [])

/- The name of the file is that of a file with rules. -/
def isRuleFile
    (name : RawText) : Bool :=
  Path.nameExtension? name == some "toml" ||
    Path.nameExtension? name == some "json"

namespace Disk

/- The rules of one file below a directory. -/
def rulesAt
    (d : Disk)
    (dir : RawText)
    (names : List RawText) : List Rule :=
  match names.getLast? with
  | none => []
  | some name =>
      if isRuleFile name then
        match d.read (RawText.ofSteps (dir :: names)) with
        | .ok text => rulesOfFile name text
        | .error _ => []
      else
        []

/- The rules in a directory, in the order of its files. -/
def rulesIn
    (d : Disk)
    (dir : RawText) : List Rule :=
  if d.isDirectory dir then
    (d.filesBelow ruleWalk dir).flatMap (d.rulesAt dir)
  else
    []

/- The built-in rules and those of the directory that is set. -/
def loadRegistry
    (d : Disk)
    (root : RawText)
    (c : Config) : Registry :=
  match c.rulesDirIn root with
  | some dir => Registry.withBuiltins.register (d.rulesIn dir)
  | none => .withBuiltins

end Disk

end ModuleLint
