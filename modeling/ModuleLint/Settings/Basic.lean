import ModuleLint.Glob.Match
import ModuleLint.Path.Basic
import ModuleLint.Score.Policy
import ModuleLint.Decimal.Shortest

/-
  Settings of a project.

  Key definitions include:
    * `IgnoreLists`, `Thresholds`, `Config`
    * `Config.excludes`
    * `Config.rulesDirIn`
    * `ConfigFault`, `ConfigFault.message`
-/

namespace ModuleLint

------------------------------------------------------------
-- Settings
------------------------------------------------------------

/- Diagnostics to drop after a scan. -/
structure IgnoreLists where
  rules : List String := []
  files : List String := []
deriving DecidableEq, Repr, Inhabited

/- Limits that rules compare with. -/
structure Thresholds where
  moduleProviders : Nat := 10
  constructorDependencies : Nat := 8
  controllerRoutes : Nat := 15
deriving DecidableEq, Repr, Inhabited

/-
  Everything that can be set.  Without include patterns every
  supported file is scanned.  Switches are kept by the name of
  a rule and by the name of a category.
-/
structure Config where
  included : List String := []
  excluded : List String := []
  skipDefaultExcludes : Bool := false
  ignore : IgnoreLists := {}
  rules : List (String × Bool) := []
  categories : List (String × Bool) := []
  thresholds : Thresholds := {}
  scoring : Policy Float := Policy.standard
  rulesDir : Option String := none
deriving Repr

instance : Inhabited Config :=
  ⟨{}⟩

/- Patterns of files that are left out unless asked for. -/
def defaultExcludes : List String :=
  [ "**/node_modules/**", "**/dist/**", "**/coverage/**",
    "**/.git/**", "**/*.d.ts" ]

namespace Config

/- A pattern added unless it is there. -/
def addPattern
    (patterns : List String)
    (p : String) : List String :=
  if patterns.contains p then patterns else patterns ++ [p]

/- The patterns of all files that are left out. -/
def excludes
    (c : Config) : List String :=
  c.excluded.foldl addPattern
    (if c.skipDefaultExcludes then [] else defaultExcludes)

/- The directory with further rules. -/
def rulesDirIn
    (c : Config)
    (root : RawText) : Option RawText :=
  c.rulesDir.map (fun dir => Path.join root (.ofText dir))

end Config

------------------------------------------------------------
-- Faults
------------------------------------------------------------

/- Why a file could not be read as text. -/
inductive ReadFault where
  | missing
  | directory
  | notDirectory
  | notText
deriving DecidableEq, Repr, Inhabited

/- The words for a file that could not be read. -/
def ReadFault.message : ReadFault → String
  | missing => "No such file or directory (os error 2)"
  | directory => "Is a directory (os error 21)"
  | notDirectory => "Not a directory (os error 20)"
  | notText => "stream did not contain valid UTF-8"

/- What is wrong with settings. -/
inductive ConfigFault where
  | unreadable (path : String) (cause : ReadFault)
  | unparsable (path : String)
  | unknownCategory (name : String)
  | repeatedCategory (first second : String) (category : Category)
  | zeroThreshold (key : String)
  | badWeight (key : String) (value : Float)
  | badGlob (pattern : String) (cause : Glob.Fault)
deriving Repr, Inhabited

/- The words for a fault. -/
def ConfigFault.message : ConfigFault → String
  | unreadable path cause =>
      "cannot read " ++ path ++ ": " ++ cause.message
  | unparsable path => path
  | unknownCategory name =>
      "unknown category '" ++ name ++ "' (expected one of: " ++
        "security, performance, correctness, architecture)"
  | repeatedCategory first second category =>
      "categories '" ++ first ++ "' and '" ++ second ++
        "' both configure " ++ category.name
  | zeroThreshold key =>
      "threshold '" ++ key ++ "' must be at least 1"
  | badWeight key value =>
      "scoring." ++ key ++
        " must be a non-negative number, got " ++
        Decimal.ofFloat value
  | badGlob pattern cause =>
      "invalid glob '" ++ pattern ++ "': error parsing glob '" ++
        pattern ++ "': " ++ cause.message

end ModuleLint
