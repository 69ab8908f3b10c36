/-
  What a source file declares and does.

  Key definitions include:
    * `DeclKind`, with the three ways to recognize one
    * `ClassFact`, `MethodFact`, `ParamFact`, `DecoratorFact`
    * `ModuleMetadata`
    * `CallFact`, `LiteralAssignment`, `ImportFact`
    * `FileFacts`
-/

namespace ModuleLint

------------------------------------------------------------
-- Kinds of Declarations
------------------------------------------------------------

/-
  What a class is to the container that wires an application
  together.  A class may be of several kinds.
-/
inductive DeclKind where
  | module
  | controller
  | injectable
  | guard
  | pipe
  | interceptor
  | filter
  | middleware
  | resolver
  | gateway
  | entity
deriving DecidableEq, Repr, Inhabited

namespace DeclKind

/- Every kind. -/
def all : List DeclKind :=
  [ module, controller, injectable, guard, pipe, interceptor,
    filter, middleware, resolver, gateway, entity ]

/- The name of a kind. -/
def name : DeclKind → String
  | module => "module"
  | controller => "controller"
  | injectable => "injectable"
  | guard => "guard"
  | pipe => "pipe"
  | interceptor => "interceptor"
  | filter => "filter"
  | middleware => "middleware"
  | resolver => "resolver"
  | gateway => "gateway"
  | entity => "entity"

/- The kind of the given name. -/
def ofName?
    (s : String) : Option DeclKind :=
  all.find? (fun k => k.name == s)

/- The kind that a class decorator implies. -/
def ofDecorator? : String → Option DeclKind
  | "Module" => some module
  | "Global" => some module
  | "Controller" => some controller
  | "Injectable" => some injectable
  | "Catch" => some filter
  | "Resolver" => some resolver
  | "WebSocketGateway" => some gateway
  | "Entity" => some entity
  | "Schema" => some entity
  | _ => none

/- The kind that an implemented interface implies. -/
def ofInterface? : String → Option DeclKind
  | "CanActivate" => some guard
  | "PipeTransform" => some pipe
  | "NestInterceptor" => some interceptor
  | "ExceptionFilter" => some filter
  | "NestMiddleware" => some middleware
  | _ => none

/- Endings of class names and the kinds they imply. -/
def endings : List (String × DeclKind) :=
  [ ("Guard", guard), ("Pipe", pipe),
    ("Interceptor", interceptor), ("Filter", filter),
    ("Middleware", middleware) ]

/-
  The kind that the end of a name implies.  The ending alone
  is no name of that kind.
-/
def ofEnding?
    (name : String) : Option DeclKind :=
  (endings.find?
    (fun e =>
      e.1.utf8ByteSize < name.utf8ByteSize &&
        name.endsWith e.1)).map (·.2)

end DeclKind

------------------------------------------------------------
-- Facts
------------------------------------------------------------

/- A decorator by its last name, without `@` and arguments. -/
structure DecoratorFact where
  name : String
  line : Nat
  column : Nat
  isCall : Bool
deriving DecidableEq, Repr, Inhabited

/- A constructor parameter. -/
structure ParamFact where
  name : String
  typeName : Option String
  decorators : List String
deriving DecidableEq, Repr, Inhabited

/- A method of a class, with or without a body. -/
structure MethodFact where
  name : String
  line : Nat
  column : Nat
  decorators : List DecoratorFact
  isAsync : Bool
  isStatic : Bool
  paramCount : Nat
deriving DecidableEq, Repr, Inhabited

/- Decorators that make a method answer requests. -/
def routeDecorators : List String :=
  [ "Get", "Post", "Put", "Patch", "Delete", "Options", "Head",
    "All" ]

namespace MethodFact

/- The method answers requests. -/
def isRoute
    (m : MethodFact) : Bool :=
  m.decorators.any (fun d => routeDecorators.contains d.name)

end MethodFact

/- The names listed in the argument of a module's decorator. -/
structure ModuleMetadata where
  imports : List String := []
  providers : List String := []
  controllers : List String := []
  «exports» : List String := []
deriving DecidableEq, Repr, Inhabited

/- A class. -/
structure ClassFact where
  name : String
  line : Nat
  column : Nat
  endLine : Nat
  exported : Bool
  kinds : List DeclKind
  decorators : List DecoratorFact
  base : Option String
  interfaces : List String
  methods : List MethodFact
  params : List ParamFact
  metadata : Option ModuleMetadata
deriving DecidableEq, Repr, Inhabited

namespace ClassFact

/- The class is of the given kind. -/
def isOf
    (c : ClassFact)
    (k : DeclKind) : Bool :=
  c.kinds.contains k

/- The class carries the given decorator. -/
def hasDecorator
    (c : ClassFact)
    (name : String) : Bool :=
  c.decorators.any (fun d => d.name == name)

/- The class has a method of the given name. -/
def hasMethod
    (c : ClassFact)
    (name : String) : Bool :=
  c.methods.any (fun m => m.name == name)

end ClassFact

/- A call and the class and method around it. -/
structure CallFact where
  callee : String
  line : Nat
  column : Nat
  className : Option String
  methodName : Option String
deriving DecidableEq, Repr, Inhabited

/- A name that is given a quoted text. -/
structure LiteralAssignment where
  name : String
  value : String
  line : Nat
  column : Nat
deriving DecidableEq, Repr, Inhabited

/- An import and the names it brings. -/
structure ImportFact where
  source : String
  names : List String
  line : Nat
deriving DecidableEq, Repr, Inhabited

/- All facts of a file. -/
structure FileFacts where
  classes : List ClassFact := []
  calls : List CallFact := []
  literals : List LiteralAssignment := []
  imports : List ImportFact := []
  damaged : Bool := false
deriving DecidableEq, Repr, Inhabited

end ModuleLint
