import ModuleLint.Settings.Basic

/-
  Settings that make sense.

  Settings are checked before anything is scanned.  Names of
  categories are read without regard to case, and each
  category may be set once.

  Key definitions include:
    * `Category.ofSpelling?`
    * `Config.validate`
    * `Config.isEnabled`
    * `Switches`, `RuleSettings`, `Config.ruleSettings`
-/

namespace ModuleLint

------------------------------------------------------------
-- Names of Categories
------------------------------------------------------------

/- The two texts differ in the case of ASCII letters at most. -/
def Text.sameIgnoringCase
    (s t : String) : Bool :=
  s.toList.map Char.toLower == t.toList.map Char.toLower

/- The category that a text spells in any case. -/
def Category.ofSpelling?
    (s : String) : Option Category :=
  all.find? (fun c => Text.sameIgnoringCase c.name s)

------------------------------------------------------------
-- Checks
------------------------------------------------------------

namespace Config

/- The names of the categories that are set, in order. -/
def categoryNames
    (c : Config) : List String :=
  (c.categories.map (·.1)).mergeSort (fun a b => a ≤ b)

/-
  Every name spells a category, and no two names spell the
  same one.  The names seen so far come with their categories.
-/
def checkCategories :
    List String → List (Category × String) →
    Except ConfigFault Unit
  | [], _ => .ok ()
  | name :: names, seen =>
      match Category.ofSpelling? name with
      | none => .error (.unknownCategory name)
      | some c =>
          match seen.find? (fun s => s.1 == c) with
          | some (_, first) =>
              .error (.repeatedCategory first name c)
          | none => checkCategories names ((c, name) :: seen)

/- No limit is zero. -/
def checkThresholds :
    List (String × Nat) → Except ConfigFault Unit
  | [] => .ok ()
  | (key, n) :: rest =>
      if n = 0 then .error (.zeroThreshold key)
      else checkThresholds rest

/- The limits with their names. -/
def namedThresholds
    (t : Thresholds) : List (String × Nat) :=
  [ ("max_module_providers", t.moduleProviders),
    ("max_constructor_dependencies", t.constructorDependencies),
    ("max_controller_routes", t.controllerRoutes) ]

/- A number that may weigh something. -/
def isWeight
    (x : Float) : Bool :=
  x.isFinite && !(x < 0.0)

/- All weights are numbers that are not negative. -/
def checkWeights :
    List (String × Float) → Except ConfigFault Unit
  | [] => .ok ()
  | (key, x) :: rest =>
      if isWeight x then checkWeights rest
      else .error (.badWeight key x)

/- The weights with their names. -/
def namedWeights
    (p : Policy Float) : List (String × Float) :=
  [ ("severity_weights.error", p.weights.error),
    ("severity_weights.warning", p.weights.warning),
    ("severity_weights.info", p.weights.info),
    ("category_multipliers.security", p.multipliers.security),
    ("category_multipliers.correctness",
      p.multipliers.correctness),
    ("category_multipliers.architecture",
      p.multipliers.architecture),
    ("category_multipliers.performance",
      p.multipliers.performance) ]

/- The globs of patterns, or what is wrong with them. -/
def globs
    (patterns : List String) : Except ConfigFault GlobSet :=
  match GlobSet.ofPatterns patterns with
  | .ok gs => .ok gs
  | .error (p, e) => .error (.badGlob p e)

/- The settings make sense, or the first thing that does not. -/
def validate
    (c : Config) : Except ConfigFault Unit := do
  checkCategories c.categoryNames []
  checkThresholds (namedThresholds c.thresholds)
  checkWeights (namedWeights c.scoring)
  let _ ← globs c.included
  let _ ← globs c.excludes
  let _ ← globs c.ignore.files

------------------------------------------------------------
-- Switches
------------------------------------------------------------

/- The switch of a rule. -/
def ruleSwitch?
    (c : Config)
    (id : String) : Option Bool :=
  (c.rules.find? (fun r => r.1 == id)).map (·.2)

/-
  The switch of a category.  Of several spellings the first
  one in order counts.
-/
def categorySwitch?
    (c : Config)
    (category : Category) : Option Bool := do
  let name ←
    c.categoryNames.find?
      (fun n => Category.ofSpelling? n == some category)
  (c.categories.find? (fun p => p.1 == name)).map (·.2)

/-
  The rule runs.  Its own switch counts more than that of its
  category.
-/
def isEnabled
    (c : Config)
    (id : String)
    (category : Category) : Bool :=
  match c.ruleSwitch? id with
  | some on => on
  | none => (c.categorySwitch? category).getD true

end Config

------------------------------------------------------------
-- What Rules Are Told
------------------------------------------------------------

/- The switches of rules and of categories. -/
structure Switches where
  rules : List (String × Bool) := []
  categories : List (Category × Bool) := []
deriving DecidableEq, Repr, Inhabited

/-
  The rule runs.  Its own switch counts more than that of its
  category.
-/
def Switches.isEnabled
    (s : Switches)
    (id : String)
    (category : Category) : Bool :=
  match s.rules.find? (fun r => r.1 == id) with
  | some (_, on) => on
  | none =>
      match s.categories.find? (fun r => r.1 == category) with
      | some (_, on) => on
      | none => true

/- The settings that every rule can see. -/
structure RuleSettings where
  thresholds : Thresholds := {}
  switches : Switches := {}
deriving DecidableEq, Repr, Inhabited

namespace Config

/- The switches, with those of categories by category. -/
def switches
    (c : Config) : Switches :=
  { rules := c.rules
    categories :=
      Category.all.filterMap
        (fun k => (c.categorySwitch? k).map (fun on => (k, on))) }

/- The settings that every rule can see. -/
def ruleSettings
    (c : Config) : RuleSettings :=
  { thresholds := c.thresholds
    switches := c.switches }

end Config

end ModuleLint
