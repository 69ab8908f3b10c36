import ModuleLint.Settings.Validate
import ModuleLint.Json.Reader
import ModuleLint.Json.Decode
import ModuleLint.Toml.Reader

/-
  Settings written down.

  Key definitions include:
    * `Config.ofJson?`
    * `Config.ofText`
-/

namespace ModuleLint

open Json (row? asList? asDict? asNat64? asString? asBool?
  asFloat? asNullable?)

------------------------------------------------------------
-- Parts
------------------------------------------------------------

/- Lists of what to ignore. -/
def IgnoreLists.ofJson?
    (j : Json) : Option IgnoreLists := do
  let r ← row? ["rules", "files"] j
  some
    { rules := ← r.defaulted "rules" (asList? asString?) []
      files := ← r.defaulted "files" (asList? asString?) [] }

/- Limits. -/
def Thresholds.ofJson?
    (j : Json) : Option Thresholds := do
  let r ←
    row?
      [ "max_module_providers", "max_constructor_dependencies",
        "max_controller_routes" ] j
  some
    { moduleProviders :=
        ← r.defaulted "max_module_providers" asNat64? 10
      constructorDependencies :=
        ← r.defaulted "max_constructor_dependencies" asNat64? 8
      controllerRoutes :=
        ← r.defaulted "max_controller_routes" asNat64? 15 }

/- Weights of severities. -/
def Weights.ofJson?
    (j : Json) : Option (Weights Float) := do
  let r ← row? ["error", "warning", "info"] j
  let d := Weights.standard
  some
    { error := ← r.defaulted "error" asFloat? d.error
      warning := ← r.defaulted "warning" asFloat? d.warning
      info := ← r.defaulted "info" asFloat? d.info }

/- Multipliers of categories. -/
def Multipliers.ofJson?
    (j : Json) : Option (Multipliers Float) := do
  let r ←
    row?
      ["security", "correctness", "architecture", "performance"]
      j
  let d := Multipliers.standard
  some
    { security := ← r.defaulted "security" asFloat? d.security
      correctness :=
        ← r.defaulted "correctness" asFloat? d.correctness
      architecture :=
        ← r.defaulted "architecture" asFloat? d.architecture
      performance :=
        ← r.defaulted "performance" asFloat? d.performance }

/- Weights and multipliers. -/
def Policy.ofJson?
    (j : Json) : Option (Policy Float) := do
  let r ← row? ["severity_weights", "category_multipliers"] j
  some
    { weights :=
        ← r.defaulted "severity_weights" Weights.ofJson?
            Weights.standard
      multipliers :=
        ← r.defaulted "category_multipliers" Multipliers.ofJson?
            Multipliers.standard }

------------------------------------------------------------
-- All Settings
------------------------------------------------------------

namespace Config

/- The names of all settings. -/
def memberNames : List String :=
  [ "include", "exclude", "skip_default_excludes", "ignore",
    "rules", "categories", "thresholds", "scoring",
    "rules_dir" ]

/- The settings that a value stands for. -/
def ofJson?
    (j : Json) : Option Config := do
  let r ← row? memberNames j
  some
    { included := ← r.defaulted "include" (asList? asString?) []
      excluded := ← r.defaulted "exclude" (asList? asString?) []
      skipDefaultExcludes :=
        ← r.defaulted "skip_default_excludes" asBool? false
      ignore := ← r.defaulted "ignore" IgnoreLists.ofJson? {}
      rules := ← r.defaulted "rules" (asDict? asBool?) []
      categories :=
        ← r.defaulted "categories" (asDict? asBool?) []
      thresholds :=
        ← r.defaulted "thresholds" Thresholds.ofJson? {}
      scoring :=
        ← r.defaulted "scoring" Policy.ofJson? Policy.standard
      rulesDir :=
        ← r.defaulted "rules_dir" (asNullable? asString?) none }

/- The settings in the text of a file of the given name. -/
def ofText
    (path : RawText)
    (text : String) : Except ConfigFault Config := do
  let value :=
    if Path.extension? path == some "json" then Json.read? text
    else Toml.read? text
  match value.bind ofJson? with
  | none => .error (.unparsable path.toText)
  | some c => do
      c.validate
      .ok c

/- The names of files with settings, in the order looked for. -/
def fileNames : List String :=
  ["nestlint.toml", ".nestlintrc.json"]

end Config

end ModuleLint
