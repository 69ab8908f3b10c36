import ModuleLint.Proofs.Rules.Failure
import ModuleLint.Scan.Analyzer

/-
  The part of a scan that concerns one file.

  After the change of a file, rules for files run on that file
  alone.  What they and the rules for projects find is what a
  full scan finds in that file or about the project, in the
  same order.

  Main declarations:
    * `Diagnostic.concerns`, `RuleFailure.concerns`
    * `Engine.attempts_singleton`
    * `Analyzer.analyzeOne_eq_filter_analyze`
-/

namespace ModuleLint

------------------------------------------------------------
-- What Concerns a File
------------------------------------------------------------

/- It is found by a rule for projects, or in the file. -/
def Diagnostic.concerns
    (file : String)
    (d : Diagnostic) : Bool :=
  d.scope == some .project ||
    (d.scope == some .file && d.filePath == file)

/- A rule failed on the project, or on the file. -/
def RuleFailure.concerns
    (file : String)
    (f : RuleFailure) : Bool :=
  f.filePath == none || f.filePath == some file

/- A rule was tried on the project, or on the file. -/
def Attempt.concerns
    (file : String)
    (a : Attempt) : Bool :=
  a.filePath == none || a.filePath == some file

/- A failure concerns what the rule was tried on. -/
theorem Attempt.concerns_failure
    {a : Attempt}
    {f : RuleFailure}
    (hFailure : a.failure? = some f)
    (file : String) :
    f.concerns file = a.concerns file := by
  have hPath : f.filePath = a.filePath :=
    congrArg Prod.snd (key_of_failure? hFailure)
  unfold RuleFailure.concerns concerns
  rw [hPath]

namespace Engine

/- So does a diagnostic. -/
theorem Tries.concerns_diagnostic
    {e : Engine}
    {us : List SourceUnit}
    {p : Project}
    {a : Attempt}
    (hTries : Tries e us p a)
    {d : Diagnostic}
    (hMem : d ∈ a.diagnostics)
    (file : String) :
    d.concerns file = a.concerns file := by
  unfold Diagnostic.concerns Attempt.concerns
  rw [Attempt.scope_of_mem_diagnostics hMem]
  rcases hTries.scope_cases with
    ⟨hScope, u, _, hPath, hFile⟩ | ⟨hScope, hPath⟩
  · rw [hScope, hPath, hFile d hMem]
    simp
  · rw [hScope, hPath]
    simp

/-
  The attempts on one file and on the project.  No other file
  has its path, so no other attempt concerns it.
-/
theorem attempts_singleton
    (e : Engine)
    {p : Project}
    {u : SourceUnit}
    (hMem : u ∈ p.sources.units) :
    e.attempts [u] p =
      (e.attempts p.sources.units p).filter
        (Attempt.concerns u.relativePath) := by
  have hPaths :
      p.sources.units.Pairwise
        (fun v w => v.relativePath ≠ w.relativePath) :=
    p.sources.ordered.imp String.ne_of_lt
  have hOn :
      ∀ v ∈ p.sources.units,
        ∀ a ∈ e.attemptsOn v,
          a.concerns u.relativePath =
            (v.relativePath == u.relativePath) := by
    intro v _ a hTried
    rcases List.mem_filterMap.mp hTried with ⟨r, _, hTry⟩
    rcases Rule.onFile?_eq_some_iff.mp hTry with ⟨_, _, rfl⟩
    simp [Attempt.concerns]
  have hProject :
      (e.projectAttempts p).filter
          (Attempt.concerns u.relativePath) =
        e.projectAttempts p := by
    apply List.filter_eq_self.mpr
    intro a hTried
    rcases List.mem_filterMap.mp hTried with ⟨r, _, hTry⟩
    rcases Rule.onProject?_eq_some_iff.mp hTry with ⟨_, _, rfl⟩
    rfl
  unfold attempts
  rw [List.filter_append, hProject,
    filter_flatMap_of_agree hOn,
    Keyed.filter_eq_singleton hPaths hMem]

/- A run on one file and on the project, part of a full one. -/
theorem append_runFiles_singleton
    (e : Engine)
    {p : Project}
    {u : SourceUnit}
    (hMem : u ∈ p.sources.units) :
    ((e.runFiles [u]).append (e.runProject p)).diagnostics =
        (e.run p).diagnostics.filter
          (Diagnostic.concerns u.relativePath) ∧
      ((e.runFiles [u]).append (e.runProject p)).failures =
        (e.run p).failures.filter
          (RuleFailure.concerns u.relativePath) := by
  rw [append_eq_ofAttempts, run_eq_ofAttempts,
    attempts_singleton e hMem]
  constructor
  · refine (Findings.filter_diagnostics_ofAttempts ?_).symm
    intro a hTried d hMem
    exact (tries_of_mem_attempts hTried).concerns_diagnostic
      hMem u.relativePath
  · refine (Findings.filter_failures_ofAttempts ?_).symm
    intro a _ f hFailure
    exact Attempt.concerns_failure hFailure u.relativePath

end Engine

------------------------------------------------------------
-- Scans After Changes
------------------------------------------------------------

namespace Analyzer

/-
  A scan after the change of a file finds just what a full scan
  finds there and about the project, in the same order, and it
  records just the failures there and on the project.
-/
theorem analyzeOne_eq_filter_analyze
    (a : Analyzer)
    (p : Project)
    (u : SourceUnit)
    (hMem : u ∈ p.sources.units) :
    (a.analyzeOne p u).diagnostics =
        (a.analyze p).diagnostics.filter
          (Diagnostic.concerns u.relativePath) ∧
      (a.analyzeOne p u).failures =
        (a.analyze p).failures.filter
          (RuleFailure.concerns u.relativePath) := by
  rcases a.engine.append_runFiles_singleton hMem with
    ⟨hDiagnostics, hFailures⟩
  refine ⟨?_, hFailures⟩
  calc
    (a.analyzeOne p u).diagnostics
        = a.filter.apply
            ((a.engine.run p).diagnostics.filter
              (Diagnostic.concerns u.relativePath)) :=
          congrArg a.filter.apply hDiagnostics
    _ = (a.analyze p).diagnostics.filter
          (Diagnostic.concerns u.relativePath) :=
        List.filter_comm ..

/-
  Of two files, the bad one has changed.  The rule that fails
  there is recorded, and so is the one that panics, but nothing
  is found in the other file.
-/
theorem analyzeOne_eq_filter_mixed :
    let a : Analyzer :=
      ⟨"/r", {}, ⟨none, .empty⟩, .mixed, .none, []⟩
    let u : SourceUnit := .blank "bad.ts"
    u ∈ Project.spoiled.sources.units ∧
      (a.analyzeOne .spoiled u).diagnostics.map
          (fun d => (d.filePath, d.rule)) =
        [("bad.ts", "steady")] ∧
      (a.analyzeOne .spoiled u).diagnostics =
        (a.analyze .spoiled).diagnostics.filter
          (Diagnostic.concerns "bad.ts") ∧
      (a.analyzeOne .spoiled u).failures =
        (a.analyze .spoiled).failures.filter
          (RuleFailure.concerns "bad.ts") := by
  intro a u
  have hMem : u ∈ Project.spoiled.sources.units :=
    List.mem_cons_of_mem _ List.mem_cons_self
  rcases analyzeOne_eq_filter_analyze a .spoiled u hMem with
    ⟨hDiagnostics, hFailures⟩
  exact ⟨hMem, by decide +kernel, hDiagnostics, hFailures⟩

end Analyzer

end ModuleLint
