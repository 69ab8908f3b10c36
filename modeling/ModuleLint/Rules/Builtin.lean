import ModuleLint.Rules.Builtin.Security
import ModuleLint.Rules.Builtin.Correctness
import ModuleLint.Rules.Builtin.Performance
import ModuleLint.Rules.Builtin.Architecture
import ModuleLint.Rules.Registry

/-
  All built-in rules, in a fixed order.

  Key definitions include:
    * `builtinRules`
    * `Registry.withBuiltins`
-/

namespace ModuleLint

open Builtin

/- A definition without a pattern is a rule. -/
def RuleDefinition.toRules
    (d : RuleDefinition) : List Rule :=
  match d.compile with
  | .ok r => [r]
  | .error _ => []

/- All built-in rules. -/
def builtinRules : List Rule :=
  noEval.toRules ++ [noHardcodedSecrets] ++
    guardMissingCanActivate.toRules ++
    pipeMissingTransform.toRules ++
    interceptorMissingIntercept.toRules ++
    [ syntaxFault, providerMissingInjectable, syncIoInHandler,
      tooManyProviders, tooManyDependencies,
      repositoryInController, tooManyRoutes, circularModules,
      duplicateModules ]

/- The built-in rules alone. -/
def Registry.withBuiltins : Registry :=
  .ofBuiltins builtinRules

end ModuleLint
