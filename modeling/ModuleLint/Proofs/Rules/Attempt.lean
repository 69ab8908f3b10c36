import Mathlib.Data.List.Basic
import ModuleLint.Proofs.Rules.Isolation
import ModuleLint.Proofs.Text.Keyed

/-
  A run, attempt by attempt.

  Rules for files are tried on every file, file by file, and
  rules for projects once on the project.  A run is what comes
  of these attempts, one after the other.

  Main declarations:
    * `Attempt`, `Findings.ofAttempts`
    * `Engine.attempts`, `Engine.Tries`
    * `Engine.run_eq_ofAttempts`
-/

namespace ModuleLint

------------------------------------------------------------
-- Attempts
------------------------------------------------------------

/-
  A rule, the file it was tried on, if it was not the project,
  and what came of it.
-/
structure Attempt where
  rule : Rule
  filePath : Option String
  outcome : Outcome

namespace Attempt

/- What is reported.  A rule that failed reports nothing. -/
def diagnostics
    (a : Attempt) : List Diagnostic :=
  match a.outcome.fault with
  | none => a.outcome.findings.map a.rule.diagnose
  | some _ => []

/- The failure of a rule that failed. -/
def failure?
    (a : Attempt) : Option RuleFailure :=
  a.outcome.fault.map
    (fun f => ⟨a.rule.id, a.filePath, f.message⟩)

/- The name of the rule, and what it was tried on. -/
def key
    (a : Attempt) : String × Option String :=
  (a.rule.id, a.filePath)

/- Diagnostics are those of findings of the rule. -/
theorem exists_finding
    {a : Attempt}
    {d : Diagnostic}
    (hMem : d ∈ a.diagnostics) :
    ∃ f ∈ a.outcome.findings, d = a.rule.diagnose f := by
  unfold diagnostics at hMem
  split at hMem
  · rcases List.mem_map.mp hMem with ⟨f, hFinding, hEq⟩
    exact ⟨f, hFinding, hEq.symm⟩
  · cases hMem

theorem scope_of_mem_diagnostics
    {a : Attempt}
    {d : Diagnostic}
    (hMem : d ∈ a.diagnostics) :
    d.scope = some a.rule.scope := by
  rcases exists_finding hMem with ⟨f, _, rfl⟩
  rfl

theorem key_of_failure?
    {a : Attempt}
    {f : RuleFailure}
    (hFailure : a.failure? = some f) :
    (f.ruleId, f.filePath) = a.key := by
  rcases Option.map_eq_some_iff.mp hFailure with ⟨_, _, rfl⟩
  rfl

end Attempt

namespace Findings

/- What comes of attempts, one after the other. -/
def ofAttempts
    (as : List Attempt) : Findings :=
  ⟨as.flatMap (·.diagnostics), as.filterMap (·.failure?)⟩

theorem ofAttempts_append
    (as bs : List Attempt) :
    ofAttempts (as ++ bs) =
      (ofAttempts as).append (ofAttempts bs) := by
  simp [ofAttempts, append]

section

variable {as : List Attempt}
variable {keep : Attempt → Bool}

/-
  The results that are kept are those of the attempts that are
  kept, if all results of an attempt share its lot.
-/
theorem filter_diagnostics_ofAttempts
    {keepDiagnostic : Diagnostic → Bool}
    (hAgree :
      ∀ a ∈ as, ∀ d ∈ a.diagnostics,
        keepDiagnostic d = keep a) :
    (ofAttempts as).diagnostics.filter keepDiagnostic =
      (ofAttempts (as.filter keep)).diagnostics :=
  filter_flatMap_of_agree hAgree

theorem filter_failures_ofAttempts
    {keepFailure : RuleFailure → Bool}
    (hAgree :
      ∀ a ∈ as, ∀ f,
        a.failure? = some f → keepFailure f = keep a) :
    (ofAttempts as).failures.filter keepFailure =
      (ofAttempts (as.filter keep)).failures := by
  unfold ofAttempts
  simp only [List.filterMap_eq_flatMap_toList]
  apply filter_flatMap_of_agree
  intro a hMem f hFailure
  exact hAgree a hMem f (Option.mem_toList.mp hFailure)

end

end Findings

------------------------------------------------------------
-- One Rule
------------------------------------------------------------

namespace Rule

/- A rule for files is tried on a file. -/
def onFile?
    (t : RuleSettings)
    (u : SourceUnit)
    (r : Rule) : Option Attempt :=
  match r.check with
  | .file run =>
      some ⟨r, some u.relativePath,
        (run t u).inFile u.relativePath⟩
  | .project _ => none

/- A rule for projects is tried on the project. -/
def onProject?
    (t : RuleSettings)
    (p : Project)
    (r : Rule) : Option Attempt :=
  match r.check with
  | .file _ => none
  | .project run => some ⟨r, none, run t p⟩

theorem onFile?_eq_some_iff
    {t : RuleSettings}
    {u : SourceUnit}
    {r : Rule}
    {a : Attempt} :
    r.onFile? t u = some a ↔
      ∃ run,
        r.check = .file run ∧
          a =
            ⟨r, some u.relativePath,
              (run t u).inFile u.relativePath⟩ := by
  unfold onFile?
  cases r.check with
  | file run => simp [eq_comm]
  | project run => simp

theorem onProject?_eq_some_iff
    {t : RuleSettings}
    {p : Project}
    {r : Rule}
    {a : Attempt} :
    r.onProject? t p = some a ↔
      ∃ run, r.check = .project run ∧ a = ⟨r, none, run t p⟩ := by
  unfold onProject?
  cases r.check with
  | file run => simp
  | project run => simp [eq_comm]

theorem settle_eq
    (r : Rule)
    (filePath : Option String)
    (o : Outcome) :
    r.settle filePath o = .ofAttempts [⟨r, filePath, o⟩] := by
  rcases o with ⟨findings, _ | f⟩
  · simp [settle, Findings.ofAttempts, Attempt.diagnostics,
      Attempt.failure?]
  · simp [settle, Findings.ofAttempts, Attempt.diagnostics,
      Attempt.failure?]

theorem runFile_eq
    (t : RuleSettings)
    (u : SourceUnit)
    (r : Rule) :
    r.runFile t u = .ofAttempts (r.onFile? t u).toList := by
  unfold runFile onFile?
  cases r.check with
  | file run => exact settle_eq ..
  | project run => rfl

theorem runProject_eq
    (t : RuleSettings)
    (p : Project)
    (r : Rule) :
    r.runProject t p =
      .ofAttempts (r.onProject? t p).toList := by
  unfold runProject onProject?
  cases r.check with
  | file run => rfl
  | project run => exact settle_eq ..

end Rule

------------------------------------------------------------
-- All Rules
------------------------------------------------------------

/- Runs that are made of attempts, one after the other. -/
theorem Findings.concat_map_eq_ofAttempts
    {α : Type}
    {run : α → Findings}
    {attempts : α → List Attempt}
    (hRun : ∀ x, run x = ofAttempts (attempts x))
    (xs : List α) :
    concat (xs.map run) = ofAttempts (xs.flatMap attempts) := by
  induction xs with
  | nil => rfl
  | cons x xs ih =>
      rw [List.map_cons, concat_cons, hRun, ih,
        List.flatMap_cons, ofAttempts_append]

namespace Engine

/- All rules for files on one file, in their order. -/
def attemptsOn
    (e : Engine)
    (u : SourceUnit) : List Attempt :=
  e.rules.filterMap (Rule.onFile? e.settings u)

/- All rules for projects, in their order. -/
def projectAttempts
    (e : Engine)
    (p : Project) : List Attempt :=
  e.rules.filterMap (Rule.onProject? e.settings p)

/- Files one after the other, and then the project. -/
def attempts
    (e : Engine)
    (us : List SourceUnit)
    (p : Project) : List Attempt :=
  us.flatMap e.attemptsOn ++ e.projectAttempts p

theorem runFile_eq_ofAttempts
    (e : Engine)
    (u : SourceUnit) :
    e.runFile u = .ofAttempts (e.attemptsOn u) := by
  unfold runFile attemptsOn
  rw [List.filterMap_eq_flatMap_toList]
  exact Findings.concat_map_eq_ofAttempts
    (Rule.runFile_eq e.settings u) e.rules

theorem runProject_eq_ofAttempts
    (e : Engine)
    (p : Project) :
    e.runProject p = .ofAttempts (e.projectAttempts p) := by
  unfold runProject projectAttempts
  rw [List.filterMap_eq_flatMap_toList]
  exact Findings.concat_map_eq_ofAttempts
    (Rule.runProject_eq e.settings p) e.rules

/- A run on some files and then on the project. -/
theorem append_eq_ofAttempts
    (e : Engine)
    (us : List SourceUnit)
    (p : Project) :
    (e.runFiles us).append (e.runProject p) =
      .ofAttempts (e.attempts us p) := by
  have hFiles :
      e.runFiles us = .ofAttempts (us.flatMap e.attemptsOn) :=
    Findings.concat_map_eq_ofAttempts e.runFile_eq_ofAttempts us
  unfold attempts
  rw [hFiles, runProject_eq_ofAttempts,
    Findings.ofAttempts_append]

theorem run_eq_ofAttempts
    (e : Engine)
    (p : Project) :
    e.run p = .ofAttempts (e.attempts p.sources.units p) :=
  append_eq_ofAttempts ..

------------------------------------------------------------
-- What Is Tried
------------------------------------------------------------

/- A rule of the engine is tried on a file or the project. -/
inductive Tries
    (e : Engine)
    (us : List SourceUnit)
    (p : Project) : Attempt → Prop
| onFile
    {r : Rule}
    {u : SourceUnit}
    {run : RuleSettings → SourceUnit → Outcome}
    (hRule : r ∈ e.rules)
    (hUnit : u ∈ us)
    (hCheck : r.check = .file run) :
    Tries e us p
      ⟨r, some u.relativePath,
        (run e.settings u).inFile u.relativePath⟩
| onProject
    {r : Rule}
    {run : RuleSettings → Project → Outcome}
    (hRule : r ∈ e.rules)
    (hCheck : r.check = .project run) :
    Tries e us p ⟨r, none, run e.settings p⟩

section

variable {e : Engine}
variable {us : List SourceUnit}
variable {p : Project}
variable {a : Attempt}

theorem tries_of_mem_attempts
    (hMem : a ∈ e.attempts us p) :
    Tries e us p a := by
  rcases List.mem_append.mp hMem with hFiles | hProject
  · rcases List.mem_flatMap.mp hFiles with ⟨u, hUnit, hOn⟩
    rcases List.mem_filterMap.mp hOn with ⟨r, hRule, hTry⟩
    rcases Rule.onFile?_eq_some_iff.mp hTry with
      ⟨run, hCheck, rfl⟩
    exact .onFile hRule hUnit hCheck
  · rcases List.mem_filterMap.mp hProject with
      ⟨r, hRule, hTry⟩
    rcases Rule.onProject?_eq_some_iff.mp hTry with
      ⟨run, hCheck, rfl⟩
    exact .onProject hRule hCheck

theorem Tries.rule_mem
    (hTries : Tries e us p a) :
    a.rule ∈ e.rules := by
  cases hTries with
  | onFile hRule _ _ => exact hRule
  | onProject hRule _ => exact hRule

/-
  Attempts on a file are those of rules for files, and they
  report in that file.  All others are on the project.
-/
theorem Tries.scope_cases
    (hTries : Tries e us p a) :
    (a.rule.scope = .file ∧
        ∃ u ∈ us,
          a.filePath = some u.relativePath ∧
            ∀ d ∈ a.diagnostics,
              d.filePath = u.relativePath) ∨
      (a.rule.scope = .project ∧ a.filePath = none) := by
  cases hTries with
  | @onFile r u run _ hUnit hCheck =>
      refine Or.inl
        ⟨by simp [Rule.scope, hCheck], u, hUnit, rfl, ?_⟩
      intro d hMem
      rcases Attempt.exists_finding hMem with
        ⟨f, hFinding, rfl⟩
      rcases List.mem_map.mp hFinding with ⟨g, _, rfl⟩
      rfl
  | @onProject r run _ hCheck =>
      exact Or.inr ⟨by simp [Rule.scope, hCheck], rfl⟩

end

end Engine

end ModuleLint
