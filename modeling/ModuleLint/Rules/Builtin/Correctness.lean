import ModuleLint.Rules.Definition
import ModuleLint.Script.FirstFault

/-
  Rules about correctness.

  Key definitions include:
    * `Builtin.guardMissingCanActivate`,
      `Builtin.pipeMissingTransform`,
      `Builtin.interceptorMissingIntercept`
    * `Builtin.syntaxFault`
    * `Builtin.providerMissingInjectable`
-/

namespace ModuleLint

namespace Builtin

------------------------------------------------------------
-- Missing Methods
------------------------------------------------------------

/- Guards decide whether a request goes on. -/
def guardMissingCanActivate : RuleDefinition :=
  { id := "correctness/guard-missing-can-activate"
    category := .correctness
    severity := .error
    description := "guard does not implement canActivate()"
    help :=
      "Implement CanActivate and add " ++
        "canActivate(context: ExecutionContext)"
    kind := some .guard
    matcher := .missingMethod "canActivate" }

/- Pipes change values. -/
def pipeMissingTransform : RuleDefinition :=
  { id := "correctness/pipe-missing-transform"
    category := .correctness
    severity := .error
    description := "pipe does not implement transform()"
    help :=
      "Implement PipeTransform and add transform(value, metadata)"
    kind := some .pipe
    matcher := .missingMethod "transform" }

/- Interceptors wrap requests. -/
def interceptorMissingIntercept : RuleDefinition :=
  { id := "correctness/interceptor-missing-intercept"
    category := .correctness
    severity := .error
    description := "interceptor does not implement intercept()"
    help :=
      "Implement NestInterceptor and add intercept(context, next)"
    kind := some .interceptor
    matcher := .missingMethod "intercept" }

------------------------------------------------------------
-- Faulty Text
------------------------------------------------------------

/- The first place where the text of a file is faulty. -/
def findSyntaxFault
    (u : SourceUnit) : List Finding :=
  if u.facts.damaged then
    let place :=
      match u.tree.firstFault? with
      | some t => (t.line, t.column)
      | none => (1, 1)
    [ { filePath := u.relativePath
        line := place.1
        column := place.2
        message := "Syntax error" } ]
  else
    []

/- Files fit the grammar. -/
def syntaxFault : Rule :=
  { id := "correctness/syntax-error"
    category := .correctness
    severity := .warning
    description := "file does not parse cleanly"
    help :=
      "Fix the syntax error; other rules may miss " ++
        "declarations in this file"
    check := .file (fun _ u => { findings := findSyntaxFault u }) }

------------------------------------------------------------
-- Providers
------------------------------------------------------------

/- The first class of a name, and the file it is in. -/
def firstClass?
    (units : List SourceUnit)
    (name : String) : Option (SourceUnit × ClassFact) :=
  units.findSome? (fun u => (u.facts.class? name).map (u, ·))

/- The class is provided but cannot be built. -/
def lacksInjectable
    (c : ClassFact) : Bool :=
  !c.hasDecorator "Injectable" && !c.isOf .module

/-
  One more provider of a module, with the names and the
  findings so far.
-/
def checkProvider
    (units : List SourceUnit)
    (seen : List String × List Finding)
    (provider module : String) : List String × List Finding :=
  match firstClass? units provider with
  | none => seen
  | some (u, c) =>
      if lacksInjectable c && !seen.1.contains provider then
        ( provider :: seen.1,
          seen.2 ++
            [ u.atClass c
                (c.name ++ " is provided by " ++ module ++
                  " but is not decorated with @Injectable()") ] )
      else
        seen

/- Providers that cannot be built, each once. -/
def findPlainProviders
    (p : Project) : List Finding :=
  (p.graph.nodes.foldl
    (fun seen m =>
      m.providers.foldl
        (fun seen name =>
          checkProvider p.sources.units seen name m.name)
        seen)
    ([], [])).2

/- Providers can be built by the container. -/
def providerMissingInjectable : Rule :=
  { id := "correctness/provider-missing-injectable"
    category := .correctness
    severity := .warning
    description :=
      "provider class is not decorated with @Injectable()"
    help :=
      "Add @Injectable() so the container can resolve its " ++
        "constructor dependencies"
    check :=
      .project (fun _ p => { findings := findPlainProviders p }) }

end Builtin

end ModuleLint
