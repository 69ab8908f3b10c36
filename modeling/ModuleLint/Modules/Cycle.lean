import ModuleLint.Modules.Graph

/-
  Modules that import themselves through others.

  The search visits modules depth first, in the order of their
  names, and follows imports in the order written.  An import
  of a module on the way that led here closes a cycle.

  Key definitions include:
    * `Cycle`, `Cycle.text`
    * `ModuleGraph.reachable`, `ModuleGraph.cyclic`
    * `CycleSearch.visit`
    * `ModuleGraph.cycles`
-/

namespace ModuleLint

------------------------------------------------------------
-- Cycles
------------------------------------------------------------

/- The modules of a cycle, the first one not repeated. -/
structure Cycle where
  modules : List String
deriving DecidableEq, Repr, Inhabited

namespace Cycle

/- The module at which a cycle is reported. -/
def anchor
    (c : Cycle) : String :=
  c.modules.headD ""

/- The cycle with arrows, back to its first module. -/
def text
    (c : Cycle) : String :=
  c.modules.foldr (fun m rest => m ++ " -> " ++ rest) c.anchor

/- The two cycles run through the same modules. -/
def sameModules
    (c d : Cycle) : Bool :=
  c.modules.isPerm d.modules

end Cycle

------------------------------------------------------------
-- Reachable Modules
------------------------------------------------------------

namespace ModuleGraph

/-
  The names that have been seen together with those reached
  from names still to be visited.
-/
def reach
    (g : ModuleGraph) :
    Nat → List String → List String → List String
  | 0, _, seen => seen
  | _, [], seen => seen
  | fuel + 1, name :: rest, seen =>
      if seen.contains name then
        reach g fuel rest seen
      else
        reach g fuel (g.successors name ++ rest) (name :: seen)

/- More than all the steps it takes to reach everything. -/
def reachBound
    (g : ModuleGraph) : Nat :=
  (g.nodes.flatMap (·.imports)).length + g.size + 1

/- The modules reached by one import or more. -/
def reachable
    (g : ModuleGraph)
    (name : String) : List String :=
  let next := g.successors name
  g.reach (next.length + g.reachBound) next []

/- The module imports itself, directly or through others. -/
def isCyclic
    (g : ModuleGraph)
    (name : String) : Bool :=
  (g.reachable name).contains name

/- The names of modules that lie on a cycle. -/
def cyclic
    (g : ModuleGraph) : List String :=
  (g.nodes.map (·.name)).filter g.isCyclic

end ModuleGraph

------------------------------------------------------------
-- Search
------------------------------------------------------------

/- The modules visited and the cycles found, last one first. -/
structure CycleSearch where
  visited : List String := []
  found : List Cycle := []
deriving Repr, Inhabited

namespace CycleSearch

/- A cycle is recorded unless its modules are on record. -/
def record
    (s : CycleSearch)
    (c : Cycle) : CycleSearch :=
  if s.found.any c.sameModules then s
  else { s with found := c :: s.found }

/- The part of the way that starts with the given name. -/
def closing
    (way : List String)
    (name : String) : Cycle :=
  ⟨(way.takeWhile (· != name) ++ [name]).reverse⟩

/-
  A module and what is reached from it.  The way that led to
  the module has its last name first.
-/
def visit
    (g : ModuleGraph)
    (cyclic : List String) :
    Nat → List String → String → CycleSearch → CycleSearch
  | 0, _, _, s => s
  | depth + 1, way, name, s =>
      let way := name :: way
      (g.successors name).foldl
        (fun s next =>
          if !cyclic.contains next then s
          else if way.contains next then
            s.record (closing way next)
          else if s.visited.contains next then s
          else visit g cyclic depth way next s)
        { s with visited := name :: s.visited }

/- A search from every module on a cycle. -/
def run
    (g : ModuleGraph) : CycleSearch :=
  let cyclic := g.cyclic
  cyclic.foldl
    (fun s name =>
      if s.visited.contains name then s
      else visit g cyclic g.size [] name s)
    {}

end CycleSearch

/- The cycles of a graph in the order they are found. -/
def ModuleGraph.cycles
    (g : ModuleGraph) : List Cycle :=
  (CycleSearch.run g).found.reverse

end ModuleLint
