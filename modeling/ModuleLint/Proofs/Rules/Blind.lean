import ModuleLint.Proofs.Rules.Registry
import ModuleLint.Rules.Engine

/-
  Rules that do not look at a switch.

  Every rule is told the limits and the switches of all rules.
  A rule is blind to a switch if it finds the same whichever
  way that switch is set.  Built-in rules and rules made from
  definitions look at limits at most, so they are blind to
  every switch.

  Main declarations:
    * `RuleSettings.SameBut`, `Check.IsBlindTo`
    * `RuleDefinition.isBlindTo_compile`, `isBlindTo_builtin`
    * `Engine.run_congr`
-/

namespace ModuleLint

------------------------------------------------------------
-- Blindness
------------------------------------------------------------

/- Settings that differ in the switch of one rule at most. -/
structure RuleSettings.SameBut
    (id : String)
    (s t : RuleSettings) : Prop where
  thresholds : s.thresholds = t.thresholds
  switches :
    ∀ name category,
      name ≠ id →
        s.switches.isEnabled name category =
          t.switches.isEnabled name category

/- The switch of a rule changes nothing about what is found. -/
def Check.IsBlindTo
    (id : String) : Check → Prop
  | .file run =>
      ∀ s t : RuleSettings, s.SameBut id t → run s = run t
  | .project run =>
      ∀ s t : RuleSettings, s.SameBut id t → run s = run t

------------------------------------------------------------
-- Rules That Are Blind
------------------------------------------------------------

/- A rule made from a definition sees no settings at all. -/
theorem RuleDefinition.isBlindTo_compile
    {d : RuleDefinition}
    {r : Rule}
    (hCompile : d.compile = .ok r)
    (id : String) :
    r.check.IsBlindTo id := by
  unfold compile at hCompile
  split at hCompile
  · cases hCompile
    exact fun _ _ _ => rfl
  · cases hCompile
    exact fun _ _ _ => rfl
  · cases hCompile
    exact fun _ _ _ => rfl
  · split at hCompile
    · cases hCompile
      exact fun _ _ _ => rfl
    · cases hCompile

theorem RuleDefinition.isBlindTo_toRules
    (d : RuleDefinition)
    (id : String) :
    ∀ r ∈ d.toRules, r.check.IsBlindTo id := by
  intro r hMem
  unfold toRules at hMem
  split at hMem
  · next hCompile =>
      rw [List.mem_singleton.mp hMem]
      exact isBlindTo_compile hCompile id
  · cases hMem

/- Built-in rules look at limits at most. -/
theorem isBlindTo_builtin
    (id : String) :
    ∀ r ∈ builtinRules, r.check.IsBlindTo id := by
  simp only [builtinRules, List.forall_mem_append,
    List.forall_mem_cons]
  have hDefined := RuleDefinition.isBlindTo_toRules
  refine ⟨⟨⟨⟨⟨hDefined _ id, fun _ _ _ => rfl, nofun⟩,
    hDefined _ id⟩, hDefined _ id⟩, hDefined _ id⟩,
    fun _ _ _ => rfl, fun _ _ _ => rfl, fun _ _ _ => rfl,
    ?_, ?_, fun _ _ _ => rfl, ?_, fun _ _ _ => rfl,
    fun _ _ _ => rfl, nofun⟩
  all_goals
    intro s t hSame
    simp only [hSame.thresholds]

------------------------------------------------------------
-- Runs
------------------------------------------------------------

section

variable {id : String}
variable {s t : RuleSettings}

theorem Rule.runFile_congr
    {r : Rule}
    (hBlind : r.check.IsBlindTo id)
    (hSame : s.SameBut id t)
    (u : SourceUnit) :
    r.runFile s u = r.runFile t u := by
  unfold runFile
  split
  · next run hCheck =>
      rw [hCheck] at hBlind
      rw [hBlind s t hSame]
  · rfl

theorem Rule.runProject_congr
    {r : Rule}
    (hBlind : r.check.IsBlindTo id)
    (hSame : s.SameBut id t)
    (p : Project) :
    r.runProject s p = r.runProject t p := by
  unfold runProject
  split
  · rfl
  · next run hCheck =>
      rw [hCheck] at hBlind
      rw [hBlind s t hSame]

/- A switch that no rule looks at does not count in a run. -/
theorem Engine.run_congr
    {rules : List Rule}
    (hBlind : ∀ r ∈ rules, r.check.IsBlindTo id)
    (hSame : s.SameBut id t)
    (p : Project) :
    Engine.run ⟨rules, s⟩ p = Engine.run ⟨rules, t⟩ p := by
  have hFile :
      ∀ u, Engine.runFile ⟨rules, s⟩ u =
        Engine.runFile ⟨rules, t⟩ u := by
    intro u
    exact congrArg Findings.concat (List.map_congr_left
      (fun r hMem => r.runFile_congr (hBlind r hMem) hSame u))
  have hProject :
      Engine.runProject ⟨rules, s⟩ p =
        Engine.runProject ⟨rules, t⟩ p :=
    congrArg Findings.concat (List.map_congr_left
      (fun r hMem =>
        r.runProject_congr (hBlind r hMem) hSame p))
  unfold run runFiles
  rw [hProject, funext hFile]

end

end ModuleLint
