import ModuleLint.Modules.Cycle
import ModuleLint.Rules.Basic
import ModuleLint.Rules.Definition

/-
  The modules that source files declare.

  Key definitions include:
    * `ModuleNode.ofClass`
    * `ModuleGraph.ofUnits`
    * `Project.ofSources`
-/

namespace ModuleLint

/- The declaration of a module by a class. -/
def ModuleNode.ofClass
    (u : SourceUnit)
    (c : ClassFact) : ModuleNode :=
  let m := c.metadata.getD {}
  { name := c.name
    filePath := u.relativePath
    line := c.line
    column := c.column
    providers := m.providers
    imports := m.imports
    controllers := m.controllers
    «exports» := m.exports }

/- All declarations of modules, file by file. -/
def declaredModules
    (us : List SourceUnit) : List ModuleNode :=
  us.flatMap
    (fun u => (u.facts.classesOf .module).map (.ofClass u))

/- The graph of the modules that files declare. -/
def ModuleGraph.ofUnits
    (us : List SourceUnit) : ModuleGraph :=
  .ofNodes (declaredModules us)

/- Source files with the modules they declare. -/
def Project.ofSources
    (s : SourceSet) : Project :=
  let graph := ModuleGraph.ofUnits s.units
  { sources := s
    graph
    cycles := graph.cycles }

end ModuleLint
