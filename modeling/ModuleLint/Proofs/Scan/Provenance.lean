import Mathlib.Algebra.BigOperators.Group.List.Basic
import Mathlib.Algebra.GroupWithZero.Nat
import ModuleLint.Proofs.Editor.Foreign
import ModuleLint.Proofs.Rules.Failure
import ModuleLint.Proofs.Rules.Registry
import ModuleLint.Proofs.Scan.Switch

/-
  Where the results of a scan come from.

  Every diagnostic of a scan can be traced to the only rule of
  its name, and to a file if that is a rule for files.  What is
  ignored is left out, and the summary counts all the rest.

  Main declarations:
    * `Diagnostic.TracedTo`, `Summary.Tallies`
    * `Summary.tallies_ofDiagnostics`
    * `Analyzer.eq_of_withRegistry`
    * `Analyzer.scan_traced_and_tallied`
-/

namespace ModuleLint

------------------------------------------------------------
-- Counts
------------------------------------------------------------

section

variable {α κ : Type}
variable [BEq κ] [LawfulBEq κ]

theorem sum_map_ite_eq_count
    (k : κ)
    (ks : List κ) :
    (ks.map (fun l => if k == l then 1 else 0)).sum =
      ks.count k := by
  induction ks with
  | nil => rfl
  | cons l ks ih =>
      rw [List.map_cons, List.sum_cons, ih, List.count_cons,
        Nat.add_comm, BEq.comm]

/- Counted by keys, each of which is listed once. -/
theorem sum_map_countP_eq_length
    (key : α → κ)
    {ks : List κ}
    (hOnce : ∀ k, ks.count k = 1)
    (xs : List α) :
    (ks.map (fun k => xs.countP (fun x => key x == k))).sum =
      xs.length := by
  induction xs with
  | nil => simp
  | cons x xs ih =>
      simp only [List.countP_cons, List.sum_map_add]
      rw [ih, sum_map_ite_eq_count, hOnce, List.length_cons]

end

namespace Summary

/- The summary counts every diagnostic once. -/
structure Tallies
    (s : Summary)
    (ds : List Diagnostic) : Prop where
  total : s.total = ds.length
  errors : s.errors = (ds.filter (·.severity == .error)).length
  warnings :
    s.warnings = (ds.filter (·.severity == .warning)).length
  infos : s.infos = (ds.filter (·.severity == .info)).length
  severities : s.total = s.errors + s.warnings + s.infos
  categories : s.total = (s.byCategory.map (·.2)).sum
  listed : s.byCategory.map (·.1) = Category.all
  counted :
    ∀ c n,
      (c, n) ∈ s.byCategory ↔
        n = (ds.filter (·.category == c)).length

theorem tallies_ofDiagnostics
    (ds : List Diagnostic) :
    (ofDiagnostics ds).Tallies ds where
  total := rfl
  errors := List.countP_eq_length_filter
  warnings := List.countP_eq_length_filter
  infos := List.countP_eq_length_filter
  severities := by
    have hOnce : ∀ s, Severity.all.count s = 1 := by
      intro s
      cases s <;> rfl
    have hSum :=
      sum_map_countP_eq_length Diagnostic.severity hOnce ds
    simp only [Severity.all, List.map_cons, List.map_nil,
      List.sum_cons, List.sum_nil] at hSum
    simp only [ofDiagnostics, countSeverity]
    omega
  categories := by
    have hOnce : ∀ c, Category.all.count c = 1 := by
      intro c
      cases c <;> rfl
    exact
      (sum_map_countP_eq_length Diagnostic.category hOnce
        ds).symm
  listed := rfl
  counted := by
    intro c n
    have hAll : c ∈ Category.all := by cases c <;> decide
    constructor
    · intro hMem
      rcases List.mem_map.mp hMem with ⟨c', _, hEq⟩
      cases hEq
      exact List.countP_eq_length_filter
    · rintro rfl
      rw [← List.countP_eq_length_filter]
      exact List.mem_map.mpr ⟨c, hAll, rfl⟩

end Summary

------------------------------------------------------------
-- Analyzers and Scans
------------------------------------------------------------

namespace Analyzer

/- An analyzer is made of settings that make sense. -/
theorem eq_of_withRegistry
    {root : RawText}
    {c : Config}
    {g : Registry}
    {a : Analyzer}
    (hMade : withRegistry root c g = .ok a) :
    ∃ files,
      Config.globs c.ignore.files = .ok files ∧
        a.engine = ⟨g.enabled c, c.ruleSettings⟩ ∧
        a.filter = ⟨c.ignore.rules, files⟩ := by
  have hValid : c.validate = .ok () := by
    unfold withRegistry at hMade
    rcases bind_eq_ok_iff.mp hMade with ⟨_, hValid, _⟩
    exact hValid
  rcases Selector.exists_ofConfig hValid with
    ⟨selector, hSelector⟩
  rcases (Config.globs_of_validate hValid).2.2 with
    ⟨files, hFiles⟩
  rw [withRegistry_eq_ok hValid hSelector hFiles root g,
    Except.ok.injEq] at hMade
  rw [← hMade]
  exact ⟨files, hFiles, rfl, rfl⟩

theorem mem_analyze_iff
    {a : Analyzer}
    {p : Project}
    {d : Diagnostic} :
    d ∈ (a.analyze p).diagnostics ↔
      d ∈ (a.engine.run p).diagnostics ∧
        a.filter.ignores d = false := by
  simp [analyze, finish, Filter.apply]

/- A scan that succeeds has loaded a project and analyzed it. -/
theorem of_scan
    {a : Analyzer}
    {d : Disk}
    {r : ScanResult}
    (hScan : a.scan d = .ok r) :
    a.loadProject d = .ok r.project ∧
      r.findings = a.analyze r.project ∧
      r.summary = .ofDiagnostics r.findings.diagnostics := by
  unfold scan at hScan
  rcases bind_eq_ok_iff.mp hScan with ⟨p, hLoad, hResult⟩
  cases hResult
  exact ⟨hLoad, rfl, rfl⟩

/- A scan succeeds if the project can be loaded. -/
theorem exists_scan_of_loadProject
    {a : Analyzer}
    {d : Disk}
    {p : Project}
    (hLoad : a.loadProject d = .ok p) :
    ∃ r, a.scan d = .ok r ∧ r.project = p := by
  unfold scan
  rw [hLoad]
  exact ⟨_, rfl, rfl⟩

end Analyzer

------------------------------------------------------------
-- Diagnostics and Their Rules
------------------------------------------------------------

/-
  Just one of the rules has the name in the diagnostic, which
  is of its category, severity and scope.  If that is a rule
  for files, the diagnostic is in one of the files.
-/
structure Diagnostic.TracedTo
    (rules : List Rule)
    (us : List SourceUnit)
    (d : Diagnostic) : Prop where
  rule :
    ∃ r,
      rules.filter (·.id == d.rule) = [r] ∧
        d.category = r.category ∧
        d.severity = r.severity ∧
        d.scope = some r.scope
  file :
    d.scope = some .file → ∃ u ∈ us, d.filePath = u.relativePath

namespace Engine

section

variable {e : Engine}
variable {p : Project}

/- Diagnostics of a run come from attempts of its rules. -/
theorem tracedTo_of_mem_run
    (hNames : e.rules.Pairwise (fun r s => r.id ≠ s.id))
    {d : Diagnostic}
    (hMem : d ∈ (e.run p).diagnostics) :
    d.TracedTo e.rules p.sources.units := by
  rw [run_eq_ofAttempts] at hMem
  rcases List.mem_flatMap.mp hMem with ⟨a, hTried, hD⟩
  have hTries := tries_of_mem_attempts hTried
  rcases Attempt.exists_finding hD with ⟨f, _, rfl⟩
  refine
    { rule :=
        ⟨a.rule,
          Keyed.filter_eq_singleton hNames hTries.rule_mem,
          rfl, rfl, rfl⟩
      file := ?_ }
  intro hFile
  rcases hTries.scope_cases with
    ⟨_, u, hUnit, _, hIn⟩ | ⟨hScope, _⟩
  · exact ⟨u, hUnit, hIn _ hD⟩
  · rw [Rule.diagnose, hScope] at hFile
    cases hFile

/- Failures of a run are those of its rules. -/
theorem rule_of_mem_failures
    {f : RuleFailure}
    (hMem : f ∈ (e.run p).failures) :
    ∃ r ∈ e.rules, r.id = f.ruleId := by
  rw [run_eq_ofAttempts] at hMem
  rcases List.mem_filterMap.mp hMem with
    ⟨a, hTried, hFailure⟩
  exact ⟨a.rule, (tries_of_mem_attempts hTried).rule_mem,
    (congrArg Prod.fst (Attempt.key_of_failure? hFailure)).symm⟩

end

end Engine

namespace Analyzer

/-
  A scan that succeeds, with the built-in rules and any others.
  Every diagnostic can be traced to the only rule of its name
  among those that are switched on, and to a file of the scan
  if that is a rule for files.  None is ignored.  Failures are
  those of rules that are switched on, and the summary counts
  every diagnostic once.
-/
theorem scan_traced_and_tallied
    {root : RawText}
    {c : Config}
    {batches : List (List Rule)}
    {a : Analyzer}
    {disk : Disk}
    {r : ScanResult}
    (hMade :
      withRegistry root c (.ofBatches batches) = .ok a)
    (hScan : a.scan disk = .ok r) :
    let rules :=
      (Registry.ofBatches batches).rules.filter
        (Registry.isOn c)
    a.loadProject disk = .ok r.project ∧
      (∀ d ∈ r.findings.diagnostics,
        d.TracedTo rules r.project.sources.units) ∧
      (∀ d ∈ r.findings.diagnostics,
        d.rule ∉ c.ignore.rules) ∧
      (∃ files,
        Config.globs c.ignore.files = .ok files ∧
          ∀ d ∈ r.findings.diagnostics,
            files.accepts (Path.slashed d.filePath) = false) ∧
      (∀ f ∈ r.findings.failures,
        ∃ s ∈ rules, s.id = f.ruleId) ∧
      r.summary.Tallies r.findings.diagnostics := by
  intro rules
  have hDistinct := Registry.distinct_ofBatches batches
  rcases eq_of_withRegistry hMade with
    ⟨files, hFiles, hEngine, hFilter⟩
  rcases of_scan hScan with ⟨hLoad, hFindings, hSummary⟩
  have hRules : a.engine.rules = rules := by
    rw [hEngine]
    exact hDistinct.enabled_eq_filter c
  have hNames :
      a.engine.rules.Pairwise (fun r s => r.id ≠ s.id) := by
    rw [hRules]
    exact List.Pairwise.filter _ hDistinct
  have hKept :
      ∀ d ∈ r.findings.diagnostics,
        d ∈ (a.engine.run r.project).diagnostics ∧
          d.rule ∉ c.ignore.rules ∧
          files.accepts (Path.slashed d.filePath) = false := by
    intro d hMem
    rw [hFindings, mem_analyze_iff, hFilter] at hMem
    simpa [Filter.ignores] using hMem
  refine ⟨hLoad, ?_, ?_, ⟨files, hFiles, ?_⟩, ?_, ?_⟩
  · intro d hMem
    rw [← hRules]
    exact Engine.tracedTo_of_mem_run hNames (hKept d hMem).1
  · intro d hMem
    exact (hKept d hMem).2.1
  · intro d hMem
    exact (hKept d hMem).2.2
  · intro f hMem
    rw [hFindings] at hMem
    rw [← hRules]
    exact Engine.rule_of_mem_failures hMem
  · rw [hSummary]
    exact Summary.tallies_ofDiagnostics _

end Analyzer

------------------------------------------------------------
-- Two Batches of Rules
------------------------------------------------------------

/- Settings with all built-in rules switched off. -/
def Config.bare : Config :=
  { skipDefaultExcludes := true
    rules := builtinRules.map (fun r => (r.id, false)) }

/- Rules in two batches, one of them twice. -/
def Registry.doubled : Registry :=
  .ofBatches [[.steady, .alarm], [.startled, .steady]]

/- An analyzer with these rules alone. -/
def Analyzer.bare : Analyzer :=
  { root := "/r"
    config := .bare
    selector := ⟨none, .empty⟩
    engine := ⟨Registry.doubled.enabled .bare,
      Config.bare.ruleSettings⟩
    filter := .none
    warnings := Registry.doubled.warnings }

namespace Analyzer

theorem withRegistry_doubled :
    withRegistry "/r" .bare .doubled = .ok bare := by
  have hOk : Config.bare.validate.isOk = true := by
    decide +kernel
  rcases exists_eq_ok_of_isOk hOk with ⟨_, hValid⟩
  have hSelector :
      Selector.ofConfig .bare = .ok ⟨none, .empty⟩ := by
    with_unfolding_all rfl
  have hFiles :
      Config.globs Config.bare.ignore.files = .ok .empty := by
    with_unfolding_all rfl
  exact withRegistry_eq_ok hValid hSelector hFiles "/r" .doubled

/-
  The rule that is there twice counts once.  It reports the
  only file, an alarm is raised about it, and a rule panics.
-/
theorem scan_traced_doubled :
    let rules :=
      Registry.doubled.rules.filter (Registry.isOn .bare)
    ∃ r,
      bare.scan (.single "y") = .ok r ∧
        r.findings.diagnostics.map
            (fun d => (d.rule, d.filePath, d.scope)) =
          [("steady", "a.ts", some .file),
            ("alarm", "a.ts", some .project)] ∧
        r.findings.failures.map (·.ruleId) = ["startled"] ∧
        (∀ d ∈ r.findings.diagnostics,
          d.TracedTo rules r.project.sources.units) ∧
        (∀ f ∈ r.findings.failures,
          ∃ s ∈ rules, s.id = f.ruleId) ∧
        r.summary.Tallies r.findings.diagnostics := by
  intro rules
  have hLoad :
      bare.loadProject (.single "y") = .ok (.single "y") :=
    loadProject_single "y"
  rcases exists_scan_of_loadProject hLoad with
    ⟨r, hScan, hProject⟩
  have hFound : r.findings = bare.analyze (.single "y") :=
    hProject ▸ (of_scan hScan).2.1
  rcases scan_traced_and_tallied withRegistry_doubled hScan with
    ⟨_, hTraced, _, _, hFailed, hTallies⟩
  refine ⟨r, hScan, ?_, ?_, hTraced, hFailed, hTallies⟩
  · rw [hFound]
    decide +kernel
  · rw [hFound]
    decide +kernel

end Analyzer

end ModuleLint
