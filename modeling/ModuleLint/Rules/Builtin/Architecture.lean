import ModuleLint.Rules.Definition

/-
  Rules about architecture.

  Key definitions include:
    * `Builtin.tooManyProviders`, `Builtin.tooManyDependencies`,
      `Builtin.tooManyRoutes`
    * `Builtin.repositoryInController`
    * `Builtin.circularModules`, `Builtin.duplicateModules`
-/

namespace ModuleLint

namespace Builtin

/- A count in words. -/
def counted
    (n : Nat) : String :=
  String.ofList (Nat.toDigits 10 n)

------------------------------------------------------------
-- Sizes
------------------------------------------------------------

/- Classes for which a count goes beyond a limit. -/
def findBeyond
    (u : SourceUnit)
    (classes : List ClassFact)
    (count : ClassFact → Nat)
    (limit : Nat)
    (verb noun : String) : List Finding :=
  (classes.filter (fun c => limit < count c)).map
    (fun c =>
      u.atClass c
        (c.name ++ " " ++ verb ++ " " ++ counted (count c) ++
          " " ++ noun ++ " (max " ++ counted limit ++ ")"))

/- The number of providers that a module lists. -/
def providerCount
    (c : ClassFact) : Nat :=
  match c.metadata with
  | some m => m.providers.length
  | none => 0

/- Modules do not list too many providers. -/
def tooManyProviders : Rule :=
  { id := "architecture/too-many-providers"
    category := .architecture
    severity := .warning
    description := "module declares too many providers"
    help := "Split the module by feature and import the pieces"
    check :=
      .file
        (fun t u =>
          { findings :=
              findBeyond u (u.facts.classesOf .module)
                providerCount t.thresholds.moduleProviders
                "declares" "providers" }) }

/- The container builds the class. -/
def isInjected
    (c : ClassFact) : Bool :=
  !c.kinds.isEmpty && !c.isOf .entity && !c.isOf .module

/- Classes do not depend on too many others. -/
def tooManyDependencies : Rule :=
  { id := "architecture/too-many-constructor-dependencies"
    category := .architecture
    severity := .warning
    description := "class injects too many dependencies"
    help :=
      "The class probably has more than one responsibility; " ++
        "split it"
    check :=
      .file
        (fun t u =>
          { findings :=
              findBeyond u (u.facts.classes.filter isInjected)
                (fun c => c.params.length)
                t.thresholds.constructorDependencies "injects"
                "dependencies" }) }

/- Controllers do not answer too many kinds of requests. -/
def tooManyRoutes : Rule :=
  { id := "architecture/too-many-routes"
    category := .architecture
    severity := .info
    description := "controller has too many routes"
    help := "Split the controller by resource"
    check :=
      .file
        (fun t u =>
          { findings :=
              findBeyond u (u.facts.classesOf .controller)
                (fun c => c.methods.countP (·.isRoute))
                t.thresholds.controllerRoutes "has" "routes" }) }

------------------------------------------------------------
-- Data Access
------------------------------------------------------------

/- Decorators of parameters that give access to data. -/
def dataDecorators : List String :=
  ["InjectRepository", "InjectModel", "InjectEntityManager"]

/- Types that give access to data. -/
def dataTypes : List String :=
  [ "Repository", "Model", "EntityManager", "DataSource",
    "PrismaClient" ]

/- The parameter gives access to data. -/
def isDataAccess
    (p : ParamFact) : Bool :=
  p.decorators.any dataDecorators.contains ||
    match p.typeName with
    | some t =>
        dataTypes.contains (Text.trim (Text.beforeFirst '<' t))
    | none => false

/- Controllers that reach for data themselves. -/
def findDataAccess
    (u : SourceUnit) : List Finding :=
  (u.facts.classesOf .controller).flatMap
    (fun c =>
      (c.params.filter isDataAccess).map
        (fun p =>
          u.atClass c
            (c.name ++ " injects data access directly (" ++
              p.name ++ ")")))

/- Controllers leave data to services. -/
def repositoryInController : Rule :=
  { id := "architecture/repository-in-controller"
    category := .architecture
    severity := .warning
    description := "controller injects a data-access object"
    help :=
      "Move data access into a service and inject the service " ++
        "instead"
    check := .file (fun _ u => { findings := findDataAccess u }) }

------------------------------------------------------------
-- Modules
------------------------------------------------------------

/- Cycles, each at the declaration of its first module. -/
def findCycles
    (p : Project) : List Finding :=
  p.cycles.filterMap
    (fun c =>
      (p.graph.node? c.anchor).map
        (fun n =>
          { filePath := n.filePath
            line := n.line
            column := n.column
            message := "Circular module import: " ++ c.text }))

/- Modules do not import each other. -/
def circularModules : Rule :=
  { id := "architecture/circular-module-deps"
    category := .architecture
    severity := .error
    description := "modules import each other in a cycle"
    help :=
      "Extract the shared providers into their own module, or " ++
        "break the cycle with forwardRef()"
    check := .project (fun _ p => { findings := findCycles p }) }

/- Declarations of names that were taken. -/
def findDuplicates
    (p : Project) : List Finding :=
  p.graph.collisions.map
    (fun c =>
      { filePath := c.filePath
        line := c.line
        column := c.column
        message :=
          "Module '" ++ c.name ++ "' is already declared in " ++
            c.firstFilePath ++ ":" ++ counted c.firstLine })

/- Modules have names of their own. -/
def duplicateModules : Rule :=
  { id := "architecture/duplicate-module-name"
    category := .architecture
    severity := .error
    description := "two modules share a class name"
    help :=
      "Rename one of the modules; the graph keys modules by " ++
        "class name"
    check := .project (fun _ p => { findings := findDuplicates p }) }

end Builtin

end ModuleLint
