import ModuleLint.Proofs.Rules.Attempt
import ModuleLint.Proofs.Text.Keyed

/-
  Rules that fail.

  A rule that fails on a file or on the project loses what it
  reported there, and is recorded once.  All else in the run is
  as if it had found nothing there.

  Main declarations:
    * `Outcome.hushed`, `Engine.hushed`
    * `Engine.pairwise_attempts`
    * `Engine.run_isolates_failures`
-/

namespace ModuleLint

------------------------------------------------------------
-- Failures Hushed Up
------------------------------------------------------------

/- A failure is nothing found. -/
def Outcome.hushed
    (o : Outcome) : Outcome :=
  match o.fault with
  | none => o
  | some _ => ⟨[], none⟩

/- Where the check fails, it succeeds and finds nothing. -/
def Check.hushed : Check → Check
  | .file run => .file (fun t u => (run t u).hushed)
  | .project run => .project (fun t p => (run t p).hushed)

/- The rule with a check that does not fail. -/
def Rule.hushed
    (r : Rule) : Rule :=
  { r with check := r.check.hushed }

/- The attempt of the rule that does not fail. -/
def Attempt.hushed
    (a : Attempt) : Attempt :=
  { a with rule := a.rule.hushed, outcome := a.outcome.hushed }

/- The engine with rules that do not fail. -/
def Engine.hushed
    (e : Engine) : Engine :=
  { e with rules := e.rules.map Rule.hushed }

theorem Outcome.hushed_inFile
    (o : Outcome)
    (path : String) :
    o.hushed.inFile path = (o.inFile path).hushed := by
  rcases o with ⟨findings, _ | f⟩
  · rfl
  · rfl

theorem Outcome.fault_hushed
    (o : Outcome) :
    o.hushed.fault = none := by
  rcases o with ⟨findings, _ | f⟩
  · rfl
  · rfl

namespace Rule

theorem scope_hushed
    (r : Rule) :
    r.hushed.scope = r.scope := by
  unfold scope hushed
  cases r.check with
  | file run => rfl
  | project run => rfl

/- But for its check, the rule is the same. -/
theorem diagnose_hushed
    (r : Rule) :
    r.hushed.diagnose = r.diagnose := by
  funext f
  unfold diagnose
  rw [scope_hushed]
  rfl

theorem onFile?_hushed
    (t : RuleSettings)
    (u : SourceUnit)
    (r : Rule) :
    r.hushed.onFile? t u =
      (r.onFile? t u).map Attempt.hushed := by
  rcases r with ⟨_, _, _, _, _, run | run⟩
  · simp [onFile?, hushed, Check.hushed, Attempt.hushed,
      Outcome.hushed_inFile]
  · rfl

theorem onProject?_hushed
    (t : RuleSettings)
    (p : Project)
    (r : Rule) :
    r.hushed.onProject? t p =
      (r.onProject? t p).map Attempt.hushed := by
  rcases r with ⟨_, _, _, _, _, run | run⟩
  · rfl
  · rfl

end Rule

namespace Attempt

theorem diagnostics_hushed
    (a : Attempt) :
    a.hushed.diagnostics = a.diagnostics := by
  rcases a with ⟨r, filePath, findings, _ | f⟩
  · exact congrArg (findings.map ·) r.diagnose_hushed
  · rfl

theorem failure?_hushed
    (a : Attempt) :
    a.hushed.failure? = none := by
  unfold failure? hushed
  rw [Outcome.fault_hushed]
  rfl

end Attempt

namespace Engine

theorem attempts_hushed
    (e : Engine)
    (us : List SourceUnit)
    (p : Project) :
    e.hushed.attempts us p =
      (e.attempts us p).map Attempt.hushed := by
  have hOn :
      e.hushed.attemptsOn =
        fun u => (e.attemptsOn u).map Attempt.hushed := by
    funext u
    unfold attemptsOn hushed
    rw [List.filterMap_map, List.map_filterMap]
    congr 1
    funext r
    exact r.onFile?_hushed e.settings u
  have hProject :
      e.hushed.projectAttempts p =
        (e.projectAttempts p).map Attempt.hushed := by
    unfold projectAttempts hushed
    rw [List.filterMap_map, List.map_filterMap]
    congr 1
    funext r
    exact r.onProject?_hushed e.settings p
  unfold attempts
  rw [hOn, hProject, List.map_append, List.map_flatMap]

/- What fails is not reported, whether or not it is hushed. -/
theorem diagnostics_run_hushed
    (e : Engine)
    (p : Project) :
    (e.hushed.run p).diagnostics = (e.run p).diagnostics := by
  rw [run_eq_ofAttempts, run_eq_ofAttempts, attempts_hushed]
  unfold Findings.ofAttempts
  simp only [List.flatMap_map, Attempt.diagnostics_hushed]

theorem failures_run_hushed
    (e : Engine)
    (p : Project) :
    (e.hushed.run p).failures = [] := by
  rw [run_eq_ofAttempts, attempts_hushed]
  unfold Findings.ofAttempts
  apply List.filterMap_eq_nil_iff.mpr
  intro a hMem
  rcases List.mem_map.mp hMem with ⟨b, _, rfl⟩
  exact b.failure?_hushed

------------------------------------------------------------
-- Every Failure Once
------------------------------------------------------------

/- Rules are tried once on each file or on the project. -/
theorem pairwise_attempts
    {e : Engine}
    (hNames : (e.rules.map (·.id)).Nodup)
    (p : Project) :
    (e.attempts p.sources.units p).Pairwise
      (fun a b => a.key ≠ b.key) := by
  have hRules : e.rules.Pairwise (fun r s => r.id ≠ s.id) :=
    List.pairwise_map.mp hNames
  unfold attempts
  rw [List.pairwise_append, List.pairwise_flatMap]
  refine ⟨⟨?_, ?_⟩, ?_, ?_⟩
  -- Two rules on one file, and two files.
  · intro u _
    refine hRules.filterMap _ ?_
    intro r s hNe a hA b hB hKey
    rcases Rule.onFile?_eq_some_iff.mp hA with ⟨_, _, rfl⟩
    rcases Rule.onFile?_eq_some_iff.mp hB with ⟨_, _, rfl⟩
    exact hNe (congrArg Prod.fst hKey)
  · refine p.sources.ordered.imp ?_
    intro u v hBefore a hA b hB hKey
    rcases List.mem_filterMap.mp hA with ⟨_, _, hTryA⟩
    rcases List.mem_filterMap.mp hB with ⟨_, _, hTryB⟩
    rcases Rule.onFile?_eq_some_iff.mp hTryA with ⟨_, _, rfl⟩
    rcases Rule.onFile?_eq_some_iff.mp hTryB with ⟨_, _, rfl⟩
    have hPath : some u.relativePath = some v.relativePath :=
      congrArg Prod.snd hKey
    exact String.ne_of_lt hBefore (Option.some_inj.mp hPath)
  -- Two rules on the project, and a file and the project.
  · refine hRules.filterMap _ ?_
    intro r s hNe a hA b hB hKey
    rcases Rule.onProject?_eq_some_iff.mp hA with ⟨_, _, rfl⟩
    rcases Rule.onProject?_eq_some_iff.mp hB with ⟨_, _, rfl⟩
    exact hNe (congrArg Prod.fst hKey)
  · intro a hA b hB hKey
    rcases List.mem_flatMap.mp hA with ⟨u, _, hOn⟩
    rcases List.mem_filterMap.mp hOn with ⟨_, _, hTryA⟩
    rcases List.mem_filterMap.mp hB with ⟨_, _, hTryB⟩
    rcases Rule.onFile?_eq_some_iff.mp hTryA with ⟨_, _, rfl⟩
    rcases Rule.onProject?_eq_some_iff.mp hTryB with
      ⟨_, _, rfl⟩
    cases congrArg Prod.snd hKey

/- The failure of an attempt is the only one of its key. -/
theorem filter_failures_run
    {e : Engine}
    (hNames : (e.rules.map (·.id)).Nodup)
    {p : Project}
    {a : Attempt}
    (hMem : a ∈ e.attempts p.sources.units p) :
    (e.run p).failures.filter
        (fun f => (f.ruleId, f.filePath) == a.key) =
      a.failure?.toList := by
  have hKey :
      ∀ b ∈ e.attempts p.sources.units p, ∀ f,
        b.failure? = some f →
          ((f.ruleId, f.filePath) == a.key) =
            (b.key == a.key) := by
    intro b _ f hFailure
    rw [Attempt.key_of_failure? hFailure]
  rw [run_eq_ofAttempts,
    Findings.filter_failures_ofAttempts hKey,
    Keyed.filter_eq_singleton (pairwise_attempts hNames p)
      hMem]
  cases hFailure : a.failure? with
  | none => simp [Findings.ofAttempts, hFailure]
  | some f => simp [Findings.ofAttempts, hFailure]

/-
  Rules of different names, any of which may fail anywhere.
  What is reported is what would be reported if those that fail
  found nothing there: the reports of all attempts that do not
  fail, file by file and then on the project, in the order of
  the rules.  Those that fail are recorded in that order, each
  of them once, and none else.  A run without a rule is the run
  less what carries its name.
-/
theorem run_isolates_failures
    (e : Engine)
    (hNames : (e.rules.map (·.id)).Nodup)
    (p : Project) :
    (e.run p).diagnostics = (e.hushed.run p).diagnostics ∧
      (e.hushed.run p).failures = [] ∧
      (e.run p).diagnostics =
        (e.attempts p.sources.units p).flatMap
          (·.diagnostics) ∧
      (e.run p).failures =
        (e.attempts p.sources.units p).filterMap
          (·.failure?) ∧
      (∀ a ∈ e.attempts p.sources.units p,
        (e.run p).failures.filter
            (fun f => (f.ruleId, f.filePath) == a.key) =
          a.failure?.toList) ∧
      ∀ id,
        ((e.without id).run p).diagnostics =
            (e.run p).diagnostics.filter (·.rule != id) ∧
          ((e.without id).run p).failures =
            (e.run p).failures.filter (·.ruleId != id) := by
  refine ⟨(e.diagnostics_run_hushed p).symm,
    e.failures_run_hushed p, ?_, ?_, ?_, ?_⟩
  · rw [run_eq_ofAttempts]
    rfl
  · rw [run_eq_ofAttempts]
    rfl
  · intro a hMem
    exact filter_failures_run hNames hMem
  · intro id
    rw [run_without]
    exact ⟨rfl, rfl⟩

end Engine

------------------------------------------------------------
-- Two Files, One of Them Bad
------------------------------------------------------------

/- A unit without text. -/
def SourceUnit.blank
    (path : String) : SourceUnit :=
  { (default : SourceUnit) with relativePath := path }

/- A project of two units. -/
def Project.spoiled : Project :=
  ⟨⟨"/r", [.blank "a.ts", .blank "bad.ts"], by decide⟩,
    .empty, []⟩

/- A rule that reports every file, and fails on a bad one. -/
def Rule.fragile : Rule :=
  { id := "fragile"
    category := .correctness
    severity := .error
    description := ""
    help := ""
    check :=
      .file
        (fun _ u =>
          { findings := [⟨"", 2, 1, "seen", none⟩]
            fault :=
              if u.relativePath = "bad.ts" then
                some (.failed "cannot be checked")
              else none }) }

/- A rule that reports every file. -/
def Rule.steady : Rule :=
  { Rule.fragile with
    id := "steady"
    check :=
      .file
        (fun _ _ =>
          { findings := [⟨"", 1, 1, "seen", none⟩] }) }

/- A rule for projects that reports and then panics. -/
def Rule.startled : Rule :=
  { Rule.fragile with
    id := "startled"
    check :=
      .project
        (fun _ _ =>
          { findings := [⟨"a.ts", 1, 1, "all seen", none⟩]
            fault := some (.panicked (some "boom")) }) }

/- An engine with the three rules. -/
def Engine.mixed : Engine :=
  ⟨[.startled, .fragile, .steady], {}⟩

namespace Engine

/-
  One rule fails on one of two files, another one panics, and
  the first file keeps what both rules for files found there.
-/
theorem run_isolates_mixed :
    (mixed.rules.map (·.id)).Nodup ∧
      (mixed.run .spoiled).diagnostics.map
          (fun d => (d.filePath, d.rule)) =
        [("a.ts", "fragile"), ("a.ts", "steady"),
          ("bad.ts", "steady")] ∧
      (mixed.run .spoiled).failures =
        [⟨"fragile", some "bad.ts", "cannot be checked"⟩,
          ⟨"startled", none, "rule panicked: boom"⟩] ∧
      (mixed.run .spoiled).diagnostics =
        (mixed.hushed.run .spoiled).diagnostics ∧
      ((mixed.without "fragile").run .spoiled).failures =
        (mixed.run .spoiled).failures.filter
          (·.ruleId != "fragile") := by
  have hNames : (mixed.rules.map (·.id)).Nodup := by
    decide +kernel
  rcases run_isolates_failures mixed hNames .spoiled with
    ⟨hHushed, _, _, _, _, hWithout⟩
  exact ⟨hNames, by decide +kernel, by decide +kernel,
    hHushed, (hWithout "fragile").2⟩

end Engine

end ModuleLint
