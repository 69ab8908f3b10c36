import ModuleLint.Rules.Engine
import ModuleLint.Proofs.Sources.Set

/-
  Where the diagnostics of a run are.

  What rules for files find in a unit is in its file, and
  every diagnostic carries the scope of the rule that made it.

  Main declarations:
    * `Engine.mem_runFile`, `Engine.mem_runProject`
    * `Engine.foundAt`, `Engine.filter_runFiles`
-/

namespace ModuleLint

namespace Rule

theorem scope_of_mem_settle
    {r : Rule}
    {path : Option String}
    {o : Outcome}
    {d : Diagnostic}
    (hMem : d ∈ (r.settle path o).diagnostics) :
    d.scope = some r.scope := by
  unfold settle at hMem
  split at hMem
  · rcases List.mem_map.mp hMem with ⟨f, _, rfl⟩
    rfl
  · cases hMem

theorem filePath_of_mem_settle_inFile
    {r : Rule}
    {path : Option String}
    {o : Outcome}
    {file : String}
    {d : Diagnostic}
    (hMem :
      d ∈ (r.settle path (o.inFile file)).diagnostics) :
    d.filePath = file := by
  unfold settle at hMem
  split at hMem
  · rcases List.mem_map.mp hMem with ⟨f, hFinding, rfl⟩
    rcases List.mem_map.mp hFinding with ⟨g, _, rfl⟩
    rfl
  · cases hMem

/- A rule on a file reports in that file, with its scope. -/
theorem mem_runFile
    {t : RuleSettings}
    {u : SourceUnit}
    {r : Rule}
    {d : Diagnostic}
    (hMem : d ∈ (r.runFile t u).diagnostics) :
    d.filePath = u.relativePath ∧ d.scope = some .file := by
  unfold runFile at hMem
  split at hMem
  · next run hCheck =>
      have hScope : r.scope = .file := by
        simp [Rule.scope, hCheck]
      exact ⟨filePath_of_mem_settle_inFile hMem,
        hScope ▸ scope_of_mem_settle hMem⟩
  · cases hMem

theorem mem_runProject
    {t : RuleSettings}
    {p : Project}
    {r : Rule}
    {d : Diagnostic}
    (hMem : d ∈ (r.runProject t p).diagnostics) :
    d.scope = some .project := by
  unfold runProject at hMem
  split at hMem
  · cases hMem
  · next run hCheck =>
      have hScope : r.scope = .project := by
        simp [Rule.scope, hCheck]
      exact hScope ▸ scope_of_mem_settle hMem

end Rule

namespace Engine

theorem mem_runFile
    {e : Engine}
    {u : SourceUnit}
    {d : Diagnostic}
    (hMem : d ∈ (e.runFile u).diagnostics) :
    d.filePath = u.relativePath ∧ d.scope = some .file := by
  rcases List.mem_flatMap.mp hMem with ⟨f, hFound, hD⟩
  rcases List.mem_map.mp hFound with ⟨r, _, rfl⟩
  exact Rule.mem_runFile hD

theorem mem_runProject
    {e : Engine}
    {p : Project}
    {d : Diagnostic}
    (hMem : d ∈ (e.runProject p).diagnostics) :
    d.scope = some .project := by
  rcases List.mem_flatMap.mp hMem with ⟨f, hFound, hD⟩
  rcases List.mem_map.mp hFound with ⟨r, _, rfl⟩
  exact Rule.mem_runProject hD

@[simp] theorem diagnostics_runFiles_nil
    (e : Engine) :
    (e.runFiles []).diagnostics = [] := rfl

@[simp] theorem diagnostics_runFiles_cons
    (e : Engine)
    (u : SourceUnit)
    (us : List SourceUnit) :
    (e.runFiles (u :: us)).diagnostics =
      (e.runFile u).diagnostics ++
        (e.runFiles us).diagnostics := rfl

/- The diagnostics of one file in a run on another one. -/
theorem filter_runFile
    (e : Engine)
    (u : SourceUnit)
    (file : String) :
    (e.runFile u).diagnostics.filter (·.filePath == file) =
      if u.relativePath = file then
        (e.runFile u).diagnostics
      else [] := by
  split
  · next hFile =>
      apply List.filter_eq_self.mpr
      intro d hMem
      rw [(mem_runFile hMem).1, hFile]
      exact beq_self_eq_true file
  · next hFile =>
      apply List.filter_eq_nil_iff.mpr
      intro d hMem
      rw [(mem_runFile hMem).1]
      simpa using hFile

/- The diagnostics that rules for files find at a path. -/
def foundAt
    (e : Engine)
    (s : SourceSet)
    (file : String) : List Diagnostic :=
  match s.get? file with
  | some u => (e.runFile u).diagnostics
  | none => []

/- What is found at a path is in that file. -/
theorem mem_foundAt
    {e : Engine}
    {s : SourceSet}
    {file : String}
    {d : Diagnostic}
    (hMem : d ∈ e.foundAt s file) :
    d.filePath = file ∧ d.scope = some .file := by
  unfold foundAt at hMem
  split at hMem
  · next u hUnit =>
      rcases mem_runFile hMem with ⟨hFile, hScope⟩
      exact
        ⟨hFile.trans (s.get?_eq_some_iff.mp hUnit).2, hScope⟩
  · cases hMem

theorem foundAt_insert_self
    (e : Engine)
    (s : SourceSet)
    (u : SourceUnit) :
    e.foundAt (s.insert u) u.relativePath =
      (e.runFile u).diagnostics := by
  unfold foundAt
  rw [SourceSet.get?_insert_self]

theorem foundAt_insert_of_ne
    (e : Engine)
    (s : SourceSet)
    {u : SourceUnit}
    {file : String}
    (hNe : file ≠ u.relativePath) :
    e.foundAt (s.insert u) file = e.foundAt s file := by
  unfold foundAt
  rw [SourceSet.get?_insert_of_ne s hNe]

/- Rules for files find in a file what its own unit has. -/
theorem filter_runFiles
    (e : Engine)
    (s : SourceSet)
    (file : String) :
    (e.runFiles s.units).diagnostics.filter
        (·.filePath == file) =
      e.foundAt s file := by
  rcases s with ⟨root, us, hOrdered⟩
  unfold foundAt SourceSet.get?
  induction us with
  | nil => rfl
  | cons u us ih =>
      rw [diagnostics_runFiles_cons, List.filter_append,
        filter_runFile, ih hOrdered.of_cons]
      by_cases hFile : u.relativePath = file
      · have hNone :
            us.find? (fun v => v.relativePath == file) =
              none := by
          apply Keyed.find?_eq_none_of_lt
          intro v hMem
          rw [← hFile]
          exact List.rel_of_pairwise_cons hOrdered hMem
        simp [hFile, hNone]
      · simp [hFile]

end Engine

end ModuleLint
