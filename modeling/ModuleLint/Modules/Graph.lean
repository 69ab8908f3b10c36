/-
  The graph of modules.

  A module is known by its name.  Of several declarations with
  one name the first one counts, and the others are recorded.
  Modules are kept in the order of their names.

  Imports are kept twice: a module has the names it imports,
  and modules are numbered and the numbers linked.

  Key definitions include:
    * `ModuleNode`
    * `Wiring`
    * `ModuleGraph.ofNodes`, `ModuleGraph.wiring`
    * `ModuleGraph.successors`, `ModuleGraph.hasEdge`
    * `ModuleGraph.dangling`, `ModuleGraph.edges`
-/

namespace ModuleLint

------------------------------------------------------------
-- Declarations
------------------------------------------------------------

/- A declaration of a module. -/
structure ModuleNode where
  name : String
  filePath : String
  line : Nat
  column : Nat
  providers : List String
  imports : List String
  controllers : List String
  «exports» : List String
deriving DecidableEq, Repr, Inhabited

/- A later declaration of a name that is taken. -/
structure Collision where
  name : String
  filePath : String
  line : Nat
  column : Nat
  firstFilePath : String
  firstLine : Nat
deriving DecidableEq, Repr, Inhabited

/- An import of a name that no module has. -/
structure DanglingImport where
  source : String
  target : String
deriving DecidableEq, Repr, Inhabited

------------------------------------------------------------
-- Wiring
------------------------------------------------------------

/-
  Names that are numbered in the order they were entered, and
  links between numbers.  An import of a name that has no
  number is loose.
-/
structure Wiring where
  names : List String := []
  numbers : List (String × Nat) := []
  links : List (Nat × Nat) := []
  loose : List DanglingImport := []
deriving DecidableEq, Repr, Inhabited

namespace Wiring

/- The number of a name. -/
def number?
    (w : Wiring)
    (name : String) : Option Nat :=
  w.numbers.lookup name

/- One more name, under the next number. -/
def enter
    (w : Wiring)
    (name : String) : Wiring :=
  { w with
    names := w.names ++ [name]
    numbers := (name, w.names.length) :: w.numbers }

/- There is a link from one number to another. -/
def isLinked
    (w : Wiring)
    (i j : Nat) : Bool :=
  w.links.contains (i, j)

/- A link from one number to another, if there is none. -/
def link
    (w : Wiring)
    (i j : Nat) : Wiring :=
  if w.isLinked i j then w
  else { w with links := w.links ++ [(i, j)] }

/- One import of the module of a number. -/
def addImport
    (source : String)
    (i : Nat)
    (w : Wiring)
    (target : String) : Wiring :=
  match w.number? target with
  | some j => w.link i j
  | none => { w with loose := w.loose ++ [⟨source, target⟩] }

/- All imports of a module, in the order written. -/
def addModule
    (w : Wiring)
    (n : ModuleNode) : Wiring :=
  match w.number? n.name with
  | some i => n.imports.foldl (addImport n.name i) w
  | none => w

end Wiring

------------------------------------------------------------
-- Graphs
------------------------------------------------------------

/-
  The modules in the order of their names, and the
  declarations that came too late.
-/
structure ModuleGraph where
  nodes : List ModuleNode
  collisions : List Collision
deriving DecidableEq, Repr, Inhabited

namespace ModuleGraph

/- The graph without modules. -/
def empty : ModuleGraph :=
  ⟨[], []⟩

/- The module of a name. -/
def node?
    (g : ModuleGraph)
    (name : String) : Option ModuleNode :=
  g.nodes.find? (fun n => n.name == name)

/- The name is the name of a module. -/
def contains
    (g : ModuleGraph)
    (name : String) : Bool :=
  g.nodes.any (fun n => n.name == name)

/- A module put in its place among modules in order. -/
def place
    (n : ModuleNode) : List ModuleNode → List ModuleNode
  | [] => [n]
  | m :: ms =>
      if n.name < m.name then n :: m :: ms
      else m :: place n ms

/- The record of a declaration that came too late. -/
def collisionOf
    (first n : ModuleNode) : Collision :=
  { name := n.name
    filePath := n.filePath
    line := n.line
    column := n.column
    firstFilePath := first.filePath
    firstLine := first.line }

/- One more declaration. -/
def declare
    (g : ModuleGraph)
    (n : ModuleNode) : ModuleGraph :=
  match g.node? n.name with
  | some first =>
      ⟨g.nodes, g.collisions ++ [collisionOf first n]⟩
  | none => ⟨place n g.nodes, g.collisions⟩

/- The graph of declarations in the order they were made. -/
def ofNodes
    (ns : List ModuleNode) : ModuleGraph :=
  ns.foldl declare empty

------------------------------------------------------------
-- Imports
------------------------------------------------------------

/- The imported modules of a module, in the order written. -/
def successors
    (g : ModuleGraph)
    (name : String) : List String :=
  match g.node? name with
  | some n => n.imports.filter g.contains
  | none => []

/-
  The wiring of the modules: first every module gets its
  number, then the imports are linked, module by module.
-/
def wiring
    (g : ModuleGraph) : Wiring :=
  let numbered := (g.nodes.map (·.name)).foldl .enter {}
  g.nodes.foldl .addModule numbered

/- A module imports another one. -/
def hasEdge
    (g : ModuleGraph)
    (source target : String) : Bool :=
  let w := g.wiring
  match w.number? source, w.number? target with
  | some i, some j => w.isLinked i j
  | _, _ => false

/- The imports that lead to no module. -/
def dangling
    (g : ModuleGraph) : List DanglingImport :=
  g.wiring.loose

/- The links, each as the names of the two modules. -/
def edges
    (g : ModuleGraph) : List (String × String) :=
  let w := g.wiring
  w.links.map
    (fun (i, j) => (w.names.getD i "", w.names.getD j ""))

/- The number of modules. -/
def size
    (g : ModuleGraph) : Nat :=
  g.nodes.length

end ModuleGraph

end ModuleLint
