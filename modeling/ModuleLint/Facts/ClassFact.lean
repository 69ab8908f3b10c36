import ModuleLint.Facts.Reference

/-
  Facts about one class.

  Key definitions include:
    * `Script.decoratorFact?`
    * `Script.heritage`
    * `Script.methodFact`
    * `Script.constructorParams`
    * `Script.moduleMetadata`
    * `Script.classFact?`
-/

namespace ModuleLint

namespace Script

------------------------------------------------------------
-- Decorators
------------------------------------------------------------

/- The decorators right below a tree. -/
def childDecorators
    (t : Tree) : List Tree :=
  t.children.filter (fun c => c.kind == "decorator")

/- The last name of a dotted path. -/
def lastName
    (s : String) : String :=
  Text.trim (Text.afterLast '.' s)

/- What a decorator is, by the first thing behind its `@`. -/
def decoratorFact?
    (decorator : Tree) : Option DecoratorFact := do
  let inner ←
    decorator.named.find? (fun c => c.kind != "comment")
  let isCall := inner.kind == "call_expression"
  let callee ←
    if isCall then inner.child? "function" else some inner
  let name := lastName callee.text
  if name.isEmpty then
    none
  else
    some
      { name
        line := decorator.line
        column := decorator.column
        isCall }

------------------------------------------------------------
-- Heritage
------------------------------------------------------------

/- The last name of a type, without its arguments. -/
def baseName
    (s : String) : String :=
  Text.afterLast '.' (Text.trim (Text.beforeFirst '<' s))

/- What a class extends and implements. -/
structure Heritage where
  base : Option String := none
  interfaces : List String := []
deriving DecidableEq, Repr, Inhabited

/- What one clause adds. -/
def Heritage.add
    (h : Heritage)
    (clause : Tree) : Heritage :=
  match clause.kind with
  | "extends_clause" =>
      { h with
        base :=
          (clause.child? "value").map
            (fun v => baseName v.text) }
  | "implements_clause" =>
      { h with
        interfaces :=
          h.interfaces ++
            (clause.named.map
              (fun t => baseName t.text)).filter
              (fun n => !n.isEmpty) }
  | "comment" => h
  | _ => { h with base := some (baseName clause.text) }

/- What a class extends and implements. -/
def heritage
    (t : Tree) : Heritage :=
  ((t.children.filter
    (fun c => c.kind == "class_heritage")).flatMap
      Tree.named).foldl Heritage.add {}

------------------------------------------------------------
-- Members
------------------------------------------------------------

/- A member together with the trees before it, nearest first. -/
structure Member where
  tree : Tree
  before : List Tree
deriving Inhabited

/- The children of a class body with what precedes them. -/
def members : List Tree → List Tree → List Member
  | _, [] => []
  | before, t :: ts => ⟨t, before⟩ :: members (t :: before) ts

/- The decorators that stand right before a member. -/
def Member.decorators
    (m : Member) : List Tree :=
  (m.before.takeWhile
    (fun t => t.kind == "decorator")).reverse ++
      childDecorators m.tree

/- The member is a method, with or without a body. -/
def Member.isMethod
    (m : Member) : Bool :=
  m.tree.kind == "method_definition" ||
    m.tree.kind == "method_signature" ||
    m.tree.kind == "abstract_method_signature"

/- The parameters of a method. -/
def parameters
    (method : Tree) : List Tree :=
  match method.child? "parameters" with
  | some ps =>
      ps.named.filter (fun p => p.kind != "comment")
  | none => []

/- What a method is. -/
def methodFact
    (m : Member)
    (name : Tree) : MethodFact :=
  { name := name.text
    line := name.line
    column := name.column
    decorators := m.decorators.filterMap decoratorFact?
    isAsync := m.tree.children.any (fun c => c.kind == "async")
    isStatic :=
      m.tree.children.any (fun c => c.kind == "static")
    paramCount := (parameters m.tree).length }

/- The kinds of parameters that are patterns on their own. -/
def patternKinds : List String :=
  [ "identifier", "assignment_pattern", "object_pattern",
    "array_pattern", "rest_pattern" ]

/- What a constructor parameter is. -/
def paramFact?
    (param : Tree) : Option ParamFact :=
  if param.kind == "required_parameter" ||
      param.kind == "optional_parameter" then
    match param.child? "pattern" with
    | none => none
    | some pattern =>
        if pattern.kind == "this" then
          none
        else
          some
            { name := pattern.text
              typeName :=
                (param.child? "type").map
                  (fun t =>
                    Text.trim
                      (Text.trimStartBy (· == ':') t.text))
              decorators :=
                ((childDecorators param).filterMap
                  decoratorFact?).map (·.name) }
  else if patternKinds.contains param.kind then
    some
      { name := param.text, typeName := none, decorators := [] }
  else
    none

/- The parameters of a constructor. -/
def constructorParams
    (constructor : Tree) : List ParamFact :=
  (parameters constructor).filterMap paramFact?

/- The methods and the constructor parameters of a class. -/
structure Body where
  methods : List MethodFact := []
  params : List ParamFact := []
deriving DecidableEq, Repr, Inhabited

/-
  What one member adds.  A later constructor replaces the
  parameters of an earlier one.
-/
def Body.add
    (b : Body)
    (m : Member) : Body :=
  if m.isMethod then
    match m.tree.child? "name" with
    | none => b
    | some name =>
        if name.text == "constructor" then
          { b with params := constructorParams m.tree }
        else
          { b with methods := b.methods ++ [methodFact m name] }
  else
    b

/- What the body of a class holds. -/
def body
    (t : Tree) : Body :=
  match t.child? "body" with
  | some b => (members [] b.children).foldl Body.add {}
  | none => {}

------------------------------------------------------------
-- Module Metadata
------------------------------------------------------------

/- The references in an array. -/
def references
    (value : Tree) : List String :=
  if value.kind == "array" then
    value.named.filterMap reference
  else
    []

/- What one pair adds to the metadata. -/
def ModuleMetadata.add
    (m : ModuleMetadata)
    (pair : Tree) : ModuleMetadata :=
  if pair.kind != "pair" then
    m
  else
    match pair.child? "key", pair.child? "value" with
    | some key, some value =>
        let names := references value
        match unquote key.text with
        | "imports" =>
            { m with imports := m.imports ++ names }
        | "providers" =>
            { m with providers := m.providers ++ names }
        | "controllers" =>
            { m with controllers := m.controllers ++ names }
        | "exports" =>
            { m with «exports» := m.exports ++ names }
        | _ => m
    | _, _ => m

/- The object a decorator is called with. -/
def argumentObject?
    (decorator : Tree) : Option Tree := do
  let call ← decorator.firstNamed? "call_expression"
  let arguments ← call.child? "arguments"
  arguments.firstNamed? "object"

/- The lists in the argument of a module's decorator. -/
def moduleMetadata
    (decorator : Tree) : ModuleMetadata :=
  match argumentObject? decorator with
  | some object => object.named.foldl ModuleMetadata.add {}
  | none => {}

------------------------------------------------------------
-- Classes
------------------------------------------------------------

/- A list without its later repetitions. -/
def distinct
    {α : Type}
    [BEq α]
    (xs : List α) : List α :=
  xs.foldl
    (fun seen x => if seen.contains x then seen else seen ++ [x])
    []

/- The kinds that decorators, interfaces and the name imply. -/
def kindsOf
    (name : String)
    (decorators : List DecoratorFact)
    (interfaces : List String) : List DeclKind :=
  distinct
    (decorators.filterMap
        (fun d => DeclKind.ofDecorator? d.name) ++
      interfaces.filterMap DeclKind.ofInterface? ++
      (DeclKind.ofEnding? name).toList)

/-
  What a class is, given the tree around it.  The decorators
  of an exported class may stand before the export.
-/
def classFact?
    (parent : Option Tree)
    (t : Tree) : Option ClassFact := do
  let name ← t.child? "name"
  if name.text.isEmpty then
    none
  else
    let exporter :=
      parent.filter (fun p => p.kind == "export_statement")
    let trees :=
      (exporter.map childDecorators).getD [] ++
        childDecorators t
    let decorators := trees.filterMap decoratorFact?
    let inherited := heritage t
    let inside := body t
    let moduleDecorator :=
      trees.find?
        (fun d =>
          (decoratorFact? d).any (fun f => f.name == "Module"))
    some
      { name := name.text
        line := name.line
        column := name.column
        endLine := t.label.stop.line
        exported := exporter.isSome
        kinds :=
          kindsOf name.text decorators inherited.interfaces
        decorators
        base := inherited.base
        interfaces := inherited.interfaces
        methods := inside.methods
        params := inside.params
        metadata := moduleDecorator.map moduleMetadata }

end Script

end ModuleLint
