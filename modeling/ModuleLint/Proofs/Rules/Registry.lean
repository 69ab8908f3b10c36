import ModuleLint.Proofs.Text.Keyed
import ModuleLint.Rules.Builtin

/-
  Rules of different names.

  No two built-in rules have the same name, and a rule is added
  only if its name is not taken.  So all rules have different
  names, however many are added, and the rules that run are
  those that are switched on.

  Main declarations:
    * `Registry.ofBatches`, `Registry.Distinct`
    * `Registry.distinct_ofBatches`
    * `Registry.Distinct.enabled_eq_filter`
-/

namespace ModuleLint

namespace Registry

/- The built-in rules, and rules added batch by batch. -/
def ofBatches
    (batches : List (List Rule)) : Registry :=
  batches.foldl register withBuiltins

/- No two rules have the same name. -/
def Distinct
    (g : Registry) : Prop :=
  g.rules.Pairwise (fun r s => r.id ≠ s.id)

section

variable {g : Registry}

theorem isBuiltin_iff
    {id : String} :
    g.isBuiltin id = true ↔ ∃ r ∈ g.builtins, r.id = id := by
  simp [isBuiltin]

/- A rule that is added has a name that was not taken. -/
theorem Distinct.add
    (hDistinct : g.Distinct)
    (r : Rule) :
    (g.add r).Distinct := by
  unfold Registry.add
  split_ifs with hBuiltin hAdded
  · exact hDistinct
  · exact hDistinct
  · have hNew : ∀ s ∈ g.rules, s.id ≠ r.id := by
      intro s hMem hName
      rcases List.mem_append.mp hMem with hOld | hLate
      · exact hBuiltin (isBuiltin_iff.mpr ⟨s, hOld, hName⟩)
      · exact hAdded (List.any_eq_true.mpr
          ⟨s, hLate, beq_iff_eq.mpr hName⟩)
    have hRules :
        g.builtins ++ (g.added ++ [r]) = g.rules ++ [r] :=
      (List.append_assoc ..).symm
    unfold Distinct rules
    rw [hRules, List.pairwise_append]
    refine ⟨hDistinct, List.pairwise_singleton _ r, ?_⟩
    intro s hMem t hLast
    rw [List.mem_singleton.mp hLast]
    exact hNew s hMem

theorem Distinct.register
    (hDistinct : g.Distinct)
    (rs : List Rule) :
    (g.register rs).Distinct := by
  unfold Registry.register
  induction rs generalizing g with
  | nil => exact hDistinct
  | cons r rs ih => exact ih (hDistinct.add r)

theorem distinct_withBuiltins :
    withBuiltins.Distinct := by
  have hNames : (withBuiltins.rules.map (·.id)).Nodup := by
    decide +kernel
  exact List.pairwise_map.mp hNames

theorem distinct_ofBatches
    (batches : List (List Rule)) :
    (ofBatches batches).Distinct := by
  unfold ofBatches
  suffices hFold :
      ∀ g : Registry, g.Distinct →
        (batches.foldl Registry.register g).Distinct by
    exact hFold withBuiltins distinct_withBuiltins
  induction batches with
  | nil => exact fun _ hDistinct => hDistinct
  | cons rs batches ih =>
      intro g hDistinct
      exact ih (g.register rs) (hDistinct.register rs)

/-
  The rules that run are those that are switched on, in the
  order in which they came.  Built-in rules are not taken up
  again with the others, and no other rule passes for one.
-/
theorem Distinct.enabled_eq_filter
    (hDistinct : g.Distinct)
    (c : Config) :
    g.enabled c = g.rules.filter (isOn c) := by
  rcases List.pairwise_append.mp hDistinct with
    ⟨_, _, hApart⟩
  have hBuiltins :
      g.builtins.filter
          (fun r => !g.isBuiltin r.id && isOn c r) = [] := by
    apply List.filter_eq_nil_iff.mpr
    intro r hMem
    have hBuiltin : g.isBuiltin r.id = true :=
      isBuiltin_iff.mpr ⟨r, hMem, rfl⟩
    simp [hBuiltin]
  have hAdded :
      g.added.filter
          (fun r => !g.isBuiltin r.id && isOn c r) =
        g.added.filter (isOn c) := by
    apply List.filter_congr
    intro r hMem
    have hOther : g.isBuiltin r.id = false := by
      rw [← Bool.not_eq_true, isBuiltin_iff]
      rintro ⟨s, hOld, hName⟩
      exact hApart s hOld r hMem hName
    simp [hOther]
  unfold enabled rules
  rw [List.filter_append, List.filter_append, hBuiltins,
    hAdded, List.nil_append]

end

end Registry

end ModuleLint
