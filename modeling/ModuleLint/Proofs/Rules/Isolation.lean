import ModuleLint.Rules.Engine

/-
  No rule has a say in what another one finds.

  Everything that a run finds carries the name of the rule that
  found it.  A run without a rule finds what the run with it
  finds, in the same order, less what carries its name.

  Main declarations:
    * `Findings.without`, `Engine.without`
    * `Rule.without_runFile`, `Rule.without_runProject`
    * `Engine.run_without`
-/

namespace ModuleLint

------------------------------------------------------------
-- Results of Other Rules
------------------------------------------------------------

namespace Findings

/- The results that do not carry a name. -/
def without
    (id : String)
    (f : Findings) : Findings :=
  ⟨f.diagnostics.filter (·.rule != id),
    f.failures.filter (·.ruleId != id)⟩

@[simp] theorem without_empty
    (id : String) :
    ({} : Findings).without id = {} := rfl

theorem without_append
    (id : String)
    (f g : Findings) :
    (f.append g).without id =
      (f.without id).append (g.without id) := by
  simp [without, append]

theorem concat_cons
    (f : Findings)
    (fs : List Findings) :
    concat (f :: fs) = f.append (concat fs) := rfl

@[simp] theorem empty_append
    (f : Findings) :
    ({} : Findings).append f = f := rfl

theorem without_concat
    (id : String)
    (fs : List Findings) :
    (concat fs).without id = concat (fs.map (without id)) := by
  induction fs with
  | nil => rfl
  | cons f fs ih =>
      rw [concat_cons, without_append, ih]
      rfl

end Findings

------------------------------------------------------------
-- One Rule
------------------------------------------------------------

namespace Rule

/- A rule signs all that comes of it. -/
theorem without_settle
    (id : String)
    (r : Rule)
    (path : Option String)
    (o : Outcome) :
    (r.settle path o).without id =
      if r.id = id then {} else r.settle path o := by
  unfold settle
  split
  · have hSigned :
        (o.findings.map r.diagnose).filter (·.rule != id) =
          if r.id = id then [] else o.findings.map r.diagnose :=
      by
      split
      · next hName =>
          apply List.filter_eq_nil_iff.mpr
          intro d hMem
          rcases List.mem_map.mp hMem with ⟨f, _, rfl⟩
          simp [diagnose, hName]
      · next hName =>
          apply List.filter_eq_self.mpr
          intro d hMem
          rcases List.mem_map.mp hMem with ⟨f, _, rfl⟩
          simpa [diagnose] using hName
    unfold Findings.without
    rw [hSigned]
    split <;> rfl
  · next f hFault =>
      unfold Findings.without
      by_cases hName : r.id = id
      · simp [hName]
      · simp [hName]

theorem without_runFile
    (id : String)
    (t : RuleSettings)
    (u : SourceUnit)
    (r : Rule) :
    (r.runFile t u).without id =
      if r.id = id then {} else r.runFile t u := by
  unfold runFile
  split
  · exact without_settle ..
  · simp

theorem without_runProject
    (id : String)
    (t : RuleSettings)
    (p : Project)
    (r : Rule) :
    (r.runProject t p).without id =
      if r.id = id then {} else r.runProject t p := by
  unfold runProject
  split
  · simp
  · exact without_settle ..

end Rule

------------------------------------------------------------
-- All Rules
------------------------------------------------------------

namespace Engine

/- All rules but those of a name. -/
def without
    (id : String)
    (e : Engine) : Engine :=
  { e with rules := e.rules.filter (·.id != id) }

/- Rules that sign their results can be left out. -/
theorem concat_filter_rules
    {id : String}
    {run : Rule → Findings}
    (hSigned :
      ∀ r, (run r).without id = if r.id = id then {} else run r)
    (rs : List Rule) :
    .concat ((rs.filter (·.id != id)).map run) =
      (Findings.concat (rs.map run)).without id := by
  rw [Findings.without_concat]
  induction rs with
  | nil => rfl
  | cons r rs ih =>
      rw [List.map_cons, List.map_cons, Findings.concat_cons,
        hSigned, ← ih]
      by_cases hName : r.id = id
      · rw [List.filter_cons_of_neg (by simpa using hName),
          if_pos hName, Findings.empty_append]
      · rw [List.filter_cons_of_pos (by simpa using hName),
          if_neg hName, List.map_cons, Findings.concat_cons]

theorem runFile_without
    (e : Engine)
    (id : String)
    (u : SourceUnit) :
    (e.without id).runFile u = (e.runFile u).without id :=
  concat_filter_rules
    (Rule.without_runFile id e.settings u) e.rules

theorem runFiles_without
    (e : Engine)
    (id : String)
    (us : List SourceUnit) :
    (e.without id).runFiles us =
      (e.runFiles us).without id := by
  unfold runFiles
  rw [Findings.without_concat, List.map_map]
  congr 1
  apply List.map_congr_left
  intro u _
  exact e.runFile_without id u

theorem runProject_without
    (e : Engine)
    (id : String)
    (p : Project) :
    (e.without id).runProject p =
      (e.runProject p).without id :=
  concat_filter_rules
    (Rule.without_runProject id e.settings p) e.rules

/- A run without a rule is the run less what it found. -/
theorem run_without
    (e : Engine)
    (id : String)
    (p : Project) :
    (e.without id).run p = (e.run p).without id := by
  unfold run
  rw [runFiles_without, runProject_without,
    Findings.without_append]

end Engine

end ModuleLint
