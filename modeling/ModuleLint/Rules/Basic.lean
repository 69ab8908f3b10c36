import ModuleLint.Modules.Cycle
import ModuleLint.Settings.Validate
import ModuleLint.Sources.Unit

/-
  Rules and what they find.

  A rule looks at one file at a time or at the whole project.
  It reports findings, and it may fail after some of them.

  Key definitions include:
    * `Finding`, `RuleFault`, `Outcome`
    * `Project`, `Check`
    * `Rule`, `Rule.scope`, `Rule.diagnose`
-/

namespace ModuleLint

------------------------------------------------------------
-- Findings
------------------------------------------------------------

/-
  A problem that a rule has found.  Without a help of its own
  it comes with that of the rule.
-/
structure Finding where
  filePath : String
  line : Nat
  column : Nat
  message : String
  help : Option String := none
deriving DecidableEq, Repr, Inhabited

/- Why a rule could not finish. -/
inductive RuleFault where
  | failed (text : String)
  | panicked (text : Option String)
deriving DecidableEq, Repr, Inhabited

/- The words for a rule that could not finish. -/
def RuleFault.message : RuleFault → String
  | failed text => text
  | panicked (some text) => "rule panicked: " ++ text
  | panicked none => "rule panicked: unknown panic"

/- What a rule found, and what stopped it. -/
structure Outcome where
  findings : List Finding
  fault : Option RuleFault := none
deriving DecidableEq, Repr, Inhabited

/- The outcome with everything found in one file. -/
def Outcome.inFile
    (o : Outcome)
    (path : String) : Outcome :=
  { o with
    findings :=
      o.findings.map (fun f => { f with filePath := path }) }

------------------------------------------------------------
-- Rules
------------------------------------------------------------

/- Everything that a rule for the whole project can see. -/
structure Project where
  sources : SourceSet
  graph : ModuleGraph
  cycles : List Cycle
deriving Inhabited

/- What a rule does with one file or with the project. -/
inductive Check where
  | file (run : RuleSettings → SourceUnit → Outcome)
  | project (run : RuleSettings → Project → Outcome)

/- A rule. -/
structure Rule where
  id : String
  category : Category
  severity : Severity
  description : String
  help : String
  check : Check

namespace Rule

/- What a rule looks at. -/
def scope
    (r : Rule) : Scope :=
  match r.check with
  | .file _ => .file
  | .project _ => .project

/- The diagnostic of a finding. -/
def diagnose
    (r : Rule)
    (f : Finding) : Diagnostic :=
  { filePath := f.filePath
    line := f.line
    column := f.column
    message := f.message
    help := f.help.getD r.help
    rule := r.id
    category := r.category
    severity := r.severity
    scope := some r.scope }

end Rule

end ModuleLint
