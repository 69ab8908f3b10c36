import ModuleLint.Rules.Basic

/-
  Running rules.

  Every pair of a rule and what it looks at stands on its own:
  a rule that fails loses what it found there, and everything
  else goes on.

  Key definitions include:
    * `Findings`
    * `Rule.runFile`, `Rule.runProject`
    * `Engine.runFiles`, `Engine.runProject`, `Engine.run`
-/

namespace ModuleLint

------------------------------------------------------------
-- Results
------------------------------------------------------------

/- The diagnostics and the failures of a run. -/
structure Findings where
  diagnostics : List Diagnostic := []
  failures : List RuleFailure := []
deriving DecidableEq, Repr, Inhabited

namespace Findings

/- The results of one run after those of another. -/
def append
    (a b : Findings) : Findings :=
  ⟨a.diagnostics ++ b.diagnostics, a.failures ++ b.failures⟩

/- The results of several runs. -/
def concat
    (fs : List Findings) : Findings :=
  ⟨fs.flatMap (·.diagnostics), fs.flatMap (·.failures)⟩

end Findings

------------------------------------------------------------
-- One Rule
------------------------------------------------------------

namespace Rule

/- The result of an outcome at a file or at the project. -/
def settle
    (r : Rule)
    (filePath : Option String)
    (o : Outcome) : Findings :=
  match o.fault with
  | none => ⟨o.findings.map r.diagnose, []⟩
  | some f => ⟨[], [⟨r.id, filePath, f.message⟩]⟩

/-
  The rule on a file.  Whatever it finds is in that file.
  Rules for projects find nothing there.
-/
def runFile
    (t : RuleSettings)
    (u : SourceUnit)
    (r : Rule) : Findings :=
  match r.check with
  | .file run =>
      r.settle (some u.relativePath)
        ((run t u).inFile u.relativePath)
  | .project _ => {}

/- The rule on the project.  Rules for files find nothing. -/
def runProject
    (t : RuleSettings)
    (p : Project)
    (r : Rule) : Findings :=
  match r.check with
  | .file _ => {}
  | .project run => r.settle none (run t p)

end Rule

------------------------------------------------------------
-- All Rules
------------------------------------------------------------

/- The rules that run, with the settings they can see. -/
structure Engine where
  rules : List Rule
  settings : RuleSettings

namespace Engine

/- All rules on one file. -/
def runFile
    (e : Engine)
    (u : SourceUnit) : Findings :=
  .concat (e.rules.map (Rule.runFile e.settings u))

/- All rules on files, file by file. -/
def runFiles
    (e : Engine)
    (us : List SourceUnit) : Findings :=
  .concat (us.map e.runFile)

/- All rules on the project. -/
def runProject
    (e : Engine)
    (p : Project) : Findings :=
  .concat (e.rules.map (Rule.runProject e.settings p))

/- All rules on all files, then on the project. -/
def run
    (e : Engine)
    (p : Project) : Findings :=
  (e.runFiles p.sources.units).append (e.runProject p)

end Engine

end ModuleLint
