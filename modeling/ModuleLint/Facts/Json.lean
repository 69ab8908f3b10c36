import ModuleLint.Facts.Basic
import ModuleLint.Json.Decode

/-
  Facts as JSON.

  Key definitions include:
    * `FileFacts.toJson`
    * `FileFacts.ofJson?`
-/

namespace ModuleLint

open Json (Row row? asList? asNat32? asNat64? asString?
  asBool? asEnum?)

------------------------------------------------------------
-- Writing
------------------------------------------------------------

/- A decorator. -/
def DecoratorFact.toJson
    (d : DecoratorFact) : Json :=
  .object
    [ ("name", .string d.name), ("line", .nat d.line),
      ("column", .nat d.column), ("is_call", .bool d.isCall) ]

/- A constructor parameter. -/
def ParamFact.toJson
    (p : ParamFact) : Json :=
  .object
    [ ("name", .string p.name),
      ("type_name", .ofOption .string p.typeName),
      ("decorators", .strings p.decorators) ]

/- A method. -/
def MethodFact.toJson
    (m : MethodFact) : Json :=
  .object
    [ ("name", .string m.name), ("line", .nat m.line),
      ("column", .nat m.column),
      ("decorators",
        .array (m.decorators.map DecoratorFact.toJson)),
      ("is_async", .bool m.isAsync),
      ("is_static", .bool m.isStatic),
      ("param_count", .nat m.paramCount) ]

/- The lists of a module. -/
def ModuleMetadata.toJson
    (m : ModuleMetadata) : Json :=
  .object
    [ ("imports", .strings m.imports),
      ("providers", .strings m.providers),
      ("controllers", .strings m.controllers),
      ("exports", .strings m.exports) ]

/- A class. -/
def ClassFact.toJson
    (c : ClassFact) : Json :=
  .object
    [ ("name", .string c.name), ("line", .nat c.line),
      ("column", .nat c.column), ("end_line", .nat c.endLine),
      ("exported", .bool c.exported),
      ("kinds", .strings (c.kinds.map DeclKind.name)),
      ("decorators",
        .array (c.decorators.map DecoratorFact.toJson)),
      ("extends", .ofOption .string c.base),
      ("implements", .strings c.interfaces),
      ("methods", .array (c.methods.map MethodFact.toJson)),
      ("constructor_params",
        .array (c.params.map ParamFact.toJson)),
      ("module", .ofOption ModuleMetadata.toJson c.metadata) ]

/- A call. -/
def CallFact.toJson
    (c : CallFact) : Json :=
  .object
    [ ("callee", .string c.callee), ("line", .nat c.line),
      ("column", .nat c.column),
      ("class", .ofOption .string c.className),
      ("method", .ofOption .string c.methodName) ]

/- A quoted text under a name. -/
def LiteralAssignment.toJson
    (l : LiteralAssignment) : Json :=
  .object
    [ ("name", .string l.name), ("value", .string l.value),
      ("line", .nat l.line), ("column", .nat l.column) ]

/- An import. -/
def ImportFact.toJson
    (i : ImportFact) : Json :=
  .object
    [ ("source", .string i.source), ("names", .strings i.names),
      ("line", .nat i.line) ]

/- The facts of a file. -/
def FileFacts.toJson
    (f : FileFacts) : Json :=
  .object
    [ ("classes", .array (f.classes.map ClassFact.toJson)),
      ("calls", .array (f.calls.map CallFact.toJson)),
      ("literal_assignments",
        .array (f.literals.map LiteralAssignment.toJson)),
      ("imports", .array (f.imports.map ImportFact.toJson)),
      ("has_syntax_errors", .bool f.damaged) ]

------------------------------------------------------------
-- Reading
------------------------------------------------------------

/- A decorator. -/
def DecoratorFact.ofJson?
    (j : Json) : Option DecoratorFact := do
  let r ← row? ["name", "line", "column", "is_call"] j
  some
    { name := ← r.required "name" asString?
      line := ← r.required "line" asNat32?
      column := ← r.required "column" asNat32?
      isCall := ← r.required "is_call" asBool? }

/- A constructor parameter. -/
def ParamFact.ofJson?
    (j : Json) : Option ParamFact := do
  let r ← row? ["name", "type_name", "decorators"] j
  some
    { name := ← r.required "name" asString?
      typeName := ← r.optional "type_name" asString?
      decorators := ← r.required "decorators" (asList? asString?) }

/- A method. -/
def MethodFact.ofJson?
    (j : Json) : Option MethodFact := do
  let r ←
    row?
      [ "name", "line", "column", "decorators", "is_async",
        "is_static", "param_count" ] j
  some
    { name := ← r.required "name" asString?
      line := ← r.required "line" asNat32?
      column := ← r.required "column" asNat32?
      decorators :=
        ← r.required "decorators" (asList? DecoratorFact.ofJson?)
      isAsync := ← r.required "is_async" asBool?
      isStatic := ← r.required "is_static" asBool?
      paramCount := ← r.required "param_count" asNat64? }

/- The lists of a module. -/
def ModuleMetadata.ofJson?
    (j : Json) : Option ModuleMetadata := do
  let r ←
    row? ["imports", "providers", "controllers", "exports"] j
  some
    { imports := ← r.required "imports" (asList? asString?)
      providers := ← r.required "providers" (asList? asString?)
      controllers :=
        ← r.required "controllers" (asList? asString?)
      «exports» := ← r.required "exports" (asList? asString?) }

/- A class. -/
def ClassFact.ofJson?
    (j : Json) : Option ClassFact := do
  let r ←
    row?
      [ "name", "line", "column", "end_line", "exported",
        "kinds", "decorators", "extends", "implements",
        "methods", "constructor_params", "module" ] j
  some
    { name := ← r.required "name" asString?
      line := ← r.required "line" asNat32?
      column := ← r.required "column" asNat32?
      endLine := ← r.required "end_line" asNat32?
      exported := ← r.required "exported" asBool?
      kinds :=
        ← r.required "kinds" (asList? (asEnum? DeclKind.ofName?))
      decorators :=
        ← r.required "decorators" (asList? DecoratorFact.ofJson?)
      base := ← r.optional "extends" asString?
      interfaces := ← r.required "implements" (asList? asString?)
      methods := ← r.required "methods" (asList? MethodFact.ofJson?)
      params :=
        ← r.required "constructor_params"
          (asList? ParamFact.ofJson?)
      metadata := ← r.optional "module" ModuleMetadata.ofJson? }

/- A call. -/
def CallFact.ofJson?
    (j : Json) : Option CallFact := do
  let r ←
    row? ["callee", "line", "column", "class", "method"] j
  some
    { callee := ← r.required "callee" asString?
      line := ← r.required "line" asNat32?
      column := ← r.required "column" asNat32?
      className := ← r.optional "class" asString?
      methodName := ← r.optional "method" asString? }

/- A quoted text under a name. -/
def LiteralAssignment.ofJson?
    (j : Json) : Option LiteralAssignment := do
  let r ← row? ["name", "value", "line", "column"] j
  some
    { name := ← r.required "name" asString?
      value := ← r.required "value" asString?
      line := ← r.required "line" asNat32?
      column := ← r.required "column" asNat32? }

/- An import. -/
def ImportFact.ofJson?
    (j : Json) : Option ImportFact := do
  let r ← row? ["source", "names", "line"] j
  some
    { source := ← r.required "source" asString?
      names := ← r.required "names" (asList? asString?)
      line := ← r.required "line" asNat32? }

/- The facts of a file. -/
def FileFacts.ofJson?
    (j : Json) : Option FileFacts := do
  let r ←
    row?
      [ "classes", "calls", "literal_assignments", "imports",
        "has_syntax_errors" ] j
  some
    { classes := ← r.required "classes" (asList? ClassFact.ofJson?)
      calls := ← r.required "calls" (asList? CallFact.ofJson?)
      literals :=
        ← r.required "literal_assignments"
          (asList? LiteralAssignment.ofJson?)
      imports := ← r.required "imports" (asList? ImportFact.ofJson?)
      damaged := ← r.required "has_syntax_errors" asBool? }

end ModuleLint
