import ModuleLint.Rules.Basic
import ModuleLint.Settings.Validate

/-
  Rules brought together.

  Built-in rules come first.  Further rules are added in the
  order they are found, unless their name is taken.

  Key definitions include:
    * `MergeWarning`
    * `Registry`, `Registry.ofBuiltins`
    * `Registry.register`
    * `Registry.enabled`
    * `Merge`, `Merge.ofRules`
-/

namespace ModuleLint

/- A rule that was not added. -/
inductive MergeWarning where
  | conflict (id : String)
  | repeated (id : String)
deriving DecidableEq, Repr, Inhabited

/- The words for a rule that was not added. -/
def MergeWarning.message : MergeWarning → String
  | conflict id =>
      "external rule '" ++ id ++
        "' conflicts with a built-in rule and was ignored"
  | repeated id =>
      "external rule '" ++ id ++
        "' is defined more than once; " ++
        "only the first definition is used"

/- Built-in rules, rules that were added, and warnings. -/
structure Registry where
  builtins : List Rule
  added : List Rule
  warnings : List MergeWarning

namespace Registry

/- Built-in rules alone. -/
def ofBuiltins
    (builtins : List Rule) : Registry :=
  ⟨builtins, [], []⟩

/- All rules in order. -/
def rules
    (g : Registry) : List Rule :=
  g.builtins ++ g.added

/- The name belongs to a built-in rule. -/
def isBuiltin
    (g : Registry)
    (id : String) : Bool :=
  g.builtins.any (fun r => r.id == id)

/- One more rule, or a warning. -/
def add
    (g : Registry)
    (r : Rule) : Registry :=
  if g.isBuiltin r.id then
    { g with warnings := g.warnings ++ [.conflict r.id] }
  else if g.added.any (fun s => s.id == r.id) then
    { g with warnings := g.warnings ++ [.repeated r.id] }
  else
    { g with added := g.added ++ [r] }

/- Several more rules. -/
def register
    (g : Registry)
    (rs : List Rule) : Registry :=
  rs.foldl add g

/- A rule is switched on. -/
def isOn
    (c : Config)
    (r : Rule) : Bool :=
  c.isEnabled r.id r.category

/- The rules that run: first the built-in ones, then others. -/
def enabled
    (g : Registry)
    (c : Config) : List Rule :=
  g.builtins.filter (isOn c) ++
    g.rules.filter (fun r => !g.isBuiltin r.id && isOn c r)

end Registry

------------------------------------------------------------
-- All Rules at Once
------------------------------------------------------------

/- Rules, the names that are taken, and warnings. -/
structure Merge where
  rules : List Rule
  taken : List String
  warnings : List MergeWarning

namespace Merge

/- One more rule, or a warning.  Some names are reserved. -/
def add
    (reserved : List String)
    (m : Merge)
    (r : Rule) : Merge :=
  if reserved.contains r.id then
    { m with warnings := m.warnings ++ [.conflict r.id] }
  else if m.taken.contains r.id then
    { m with warnings := m.warnings ++ [.repeated r.id] }
  else
    { m with
      rules := m.rules ++ [r]
      taken := r.id :: m.taken }

/-
  Built-in rules, and all others behind them.  The names of
  built-in rules are reserved.
-/
def ofRules
    (builtins others : List Rule) : Merge :=
  let reserved := builtins.map (·.id)
  others.foldl (add reserved) ⟨builtins, reserved, []⟩

end Merge

end ModuleLint
