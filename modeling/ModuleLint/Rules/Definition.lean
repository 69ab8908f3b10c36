import ModuleLint.Pattern.Parser
import ModuleLint.Rules.Basic
import ModuleLint.Json.Decode

/-
  Rules given as data.

  Key definitions include:
    * `Matcher`, `RuleDefinition`
    * `RuleDefinition.ofJson?`
    * `RuleDefinition.compile`
-/

namespace ModuleLint

open Json (row? asString? asEnum? asNullable?)

------------------------------------------------------------
-- Definitions
------------------------------------------------------------

/-
  What a rule looks for: classes that lack a method or a
  decorator, calls, or text.
-/
inductive Matcher where
  | missingMethod (method : String)
  | missingDecorator (decorator : String)
  | forbiddenCall (callee : String)
  | sourcePattern (pattern : String)
deriving DecidableEq, Repr, Inhabited

/-
  A rule given as data.  With a kind, only classes of that
  kind and calls in them count.
-/
structure RuleDefinition where
  id : String
  category : Category
  severity : Severity
  description : String := ""
  help : String := ""
  message : Option String := none
  kind : Option DeclKind := none
  matcher : Matcher
deriving DecidableEq, Repr, Inhabited

------------------------------------------------------------
-- JSON
------------------------------------------------------------

namespace Matcher

/- The name of the member of a kind of matcher. -/
def memberName? : String → Option String
  | "class-missing-method" => some "method"
  | "class-missing-decorator" => some "decorator"
  | "forbidden-call" => some "callee"
  | "source-pattern" => some "pattern"
  | _ => none

/- The matcher of a kind with its text. -/
def ofParts?
    (kind text : String) : Option Matcher :=
  match kind with
  | "class-missing-method" => some (missingMethod text)
  | "class-missing-decorator" => some (missingDecorator text)
  | "forbidden-call" => some (forbiddenCall text)
  | "source-pattern" => some (sourcePattern text)
  | _ => none

/-
  The matcher that JSON stands for: an object that names its
  kind, or a list with the kind in front.
-/
def ofJson? : Json → Option Matcher
  | .array (.string kind :: rest) => do
      let name ← memberName? kind
      let r ← row? [name] (.array rest)
      ofParts? kind (← r.required name asString?)
  | .object ms => do
      let tag ← row? ["type"] (.object ms)
      let kind ← tag.required "type" asString?
      let name ← memberName? kind
      let r ← row? [name] (.object ms)
      ofParts? kind (← r.required name asString?)
  | _ => none

end Matcher

namespace RuleDefinition

/- The names of the members of a definition. -/
def memberNames : List String :=
  [ "id", "category", "severity", "description", "help",
    "message", "kind", "match" ]

/- The definition that JSON stands for. -/
def ofJson?
    (j : Json) : Option RuleDefinition := do
  let r ← row? memberNames j
  some
    { id := ← r.required "id" asString?
      category :=
        ← r.required "category" (asEnum? Category.ofName?)
      severity :=
        ← r.required "severity" (asEnum? Severity.ofName?)
      description := ← r.defaulted "description" asString? ""
      help := ← r.defaulted "help" asString? ""
      message :=
        ← r.defaulted "message" (asNullable? asString?) none
      kind :=
        ← r.defaulted "kind"
            (asNullable? (asEnum? DeclKind.ofName?)) none
      matcher := ← r.required "match" Matcher.ofJson? }

end RuleDefinition

------------------------------------------------------------
-- Matching
------------------------------------------------------------

/- The text behind the last point of a name with points. -/
def Text.lastName
    (s : String) : String :=
  Text.afterLast '.' s

/-
  The call is the one that is named.  A star stands for
  whatever the method is called on.
-/
def calleeMatches
    (pattern callee : String) : Bool :=
  match pattern.toList with
  | '*' :: '.' :: method =>
      Text.lastName callee == String.ofList method &&
        callee.toList.contains '.'
  | _ => callee == pattern

/- The first class of a name. -/
def FileFacts.class?
    (f : FileFacts)
    (name : String) : Option ClassFact :=
  f.classes.find? (fun c => c.name == name)

/- The classes of a kind. -/
def FileFacts.classesOf
    (f : FileFacts)
    (k : DeclKind) : List ClassFact :=
  f.classes.filter (fun c => c.isOf k)

/- The class around a call satisfies a condition. -/
def FileFacts.callerIs
    (f : FileFacts)
    (call : CallFact)
    (p : ClassFact → Bool) : Bool :=
  match call.className.bind f.class? with
  | some c => p c
  | none => false

/- A finding at a class of a file. -/
def SourceUnit.atClass
    (u : SourceUnit)
    (c : ClassFact)
    (message : String) : Finding :=
  { filePath := u.relativePath
    line := c.line
    column := c.column
    message }

/- A finding at a call of a file. -/
def SourceUnit.atCall
    (u : SourceUnit)
    (c : CallFact)
    (message : String) : Finding :=
  { filePath := u.relativePath
    line := c.line
    column := c.column
    message }

namespace RuleDefinition

/- The text that comes with every finding. -/
def text
    (d : RuleDefinition) : String :=
  d.message.getD d.description

/- The classes that count. -/
def classes
    (d : RuleDefinition)
    (f : FileFacts) : List ClassFact :=
  match d.kind with
  | some k => f.classesOf k
  | none => f.classes

/- Classes without a method that they do not inherit. -/
def findMissingMethod
    (d : RuleDefinition)
    (method : String)
    (u : SourceUnit) : List Finding :=
  ((d.classes u.facts).filter
      (fun c => c.base.isNone && !c.hasMethod method)).map
    (fun c => u.atClass c (c.name ++ ": " ++ d.text))

/- Classes without a decorator. -/
def findMissingDecorator
    (d : RuleDefinition)
    (decorator : String)
    (u : SourceUnit) : List Finding :=
  ((d.classes u.facts).filter
      (fun c => !c.hasDecorator decorator)).map
    (fun c => u.atClass c (c.name ++ ": " ++ d.text))

/- Calls that are not allowed. -/
def findCalls
    (d : RuleDefinition)
    (callee : String)
    (u : SourceUnit) : List Finding :=
  let counts := fun (call : CallFact) =>
    calleeMatches callee call.callee &&
      match d.kind with
      | some k => u.facts.callerIs call (·.isOf k)
      | none => true
  (u.facts.calls.filter counts).map
    (fun call =>
      u.atCall call (d.text ++ " (" ++ call.callee ++ ")"))

/- Text that is not allowed. -/
def findText
    (d : RuleDefinition)
    (r : Regex)
    (u : SourceUnit) : List Finding :=
  let present :=
    match d.kind with
    | some k => !(u.facts.classesOf k).isEmpty
    | none => true
  if present then
    (r.matches u.source).map
      (fun offset =>
        let (line, column) := Text.lineColumn u.source offset
        { filePath := u.relativePath
          line := line.toNat
          column := column.toNat
          message := d.text })
  else
    []

/- The rule with a way to find what it looks for. -/
def withFinder
    (d : RuleDefinition)
    (find : SourceUnit → List Finding) : Rule :=
  { id := d.id
    category := d.category
    severity := d.severity
    description := d.description
    help := d.help
    check := .file (fun _ u => { findings := find u }) }

/- The rule of a definition, or the pattern that is none. -/
def compile
    (d : RuleDefinition) : Except String Rule :=
  match d.matcher with
  | .missingMethod m => .ok (d.withFinder (d.findMissingMethod m))
  | .missingDecorator n =>
      .ok (d.withFinder (d.findMissingDecorator n))
  | .forbiddenCall c => .ok (d.withFinder (d.findCalls c))
  | .sourcePattern p =>
      match Regex.parse? p with
      | some r => .ok (d.withFinder (d.findText r))
      | none => .error p

/- The words for a rule whose pattern is none. -/
def badPattern
    (d : RuleDefinition)
    (pattern : String) : String :=
  "rule '" ++ d.id ++ "': invalid pattern '" ++ pattern ++ "'"

end RuleDefinition

end ModuleLint
