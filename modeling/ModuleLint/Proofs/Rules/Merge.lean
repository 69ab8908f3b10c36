import ModuleLint.CommandLine.Listing
import ModuleLint.Proofs.Rules.Registry
import ModuleLint.Proofs.Text.Listed

/-
  Rules that are offered, and rules that are kept.

  Rules may be offered in batches or all at once: only their
  order counts.  Of the rules of one name the first is kept,
  unless a built-in rule has that name, and each of the others
  leaves one warning.  The rules that run are the kept ones
  that are listed as switched on.

  Main declarations:
    * `Registry.add_cases`, `Registry.refusal?`
    * `Registry.listed_added`, `Registry.listed_warnings`
    * `Merge.Mirrors`, `Registry.ofBatches_as_merged`
    * `Registry.enabled_as_listed`
-/

namespace ModuleLint

namespace Registry

------------------------------------------------------------
-- One Rule
------------------------------------------------------------

/- What becomes of a rule that is offered. -/
theorem add_cases
    (g : Registry)
    (r : Rule) :
    ((∃ s ∈ g.builtins, s.id = r.id) ∧
        g.add r =
          { g with
            warnings := g.warnings ++ [.conflict r.id] }) ∨
      ((∀ s ∈ g.builtins, s.id ≠ r.id) ∧
        (∃ s ∈ g.added, s.id = r.id) ∧
        g.add r =
          { g with
            warnings := g.warnings ++ [.repeated r.id] }) ∨
      ((∀ s ∈ g.builtins, s.id ≠ r.id) ∧
        (∀ s ∈ g.added, s.id ≠ r.id) ∧
        g.add r = { g with added := g.added ++ [r] }) := by
  unfold add
  split_ifs with hBuiltin hAdded
  · exact .inl ⟨isBuiltin_iff.mp hBuiltin, rfl⟩
  · have hOther : ∀ s ∈ g.builtins, s.id ≠ r.id := by
      simpa [isBuiltin] using hBuiltin
    refine .inr (.inl ⟨hOther, ?_, rfl⟩)
    simpa using hAdded
  · have hOther : ∀ s ∈ g.builtins, s.id ≠ r.id := by
      simpa [isBuiltin] using hBuiltin
    refine .inr (.inr ⟨hOther, ?_, rfl⟩)
    simpa using hAdded

@[simp] theorem builtins_add
    (g : Registry)
    (r : Rule) :
    (g.add r).builtins = g.builtins := by
  rcases add_cases g r with
    ⟨_, hAdd⟩ | ⟨_, _, hAdd⟩ | ⟨_, _, hAdd⟩ <;> rw [hAdd]

/- A rule that is offered is kept or leaves a warning. -/
theorem lengths_add
    (g : Registry)
    (r : Rule) :
    ((g.add r).rules.length = g.rules.length + 1 ∧
        (g.add r).warnings.length = g.warnings.length) ∨
      ((g.add r).rules.length = g.rules.length ∧
        (g.add r).warnings.length = g.warnings.length + 1) := by
  rcases add_cases g r with
    ⟨_, hAdd⟩ | ⟨_, _, hAdd⟩ | ⟨_, _, hAdd⟩
  · exact .inr (by rw [hAdd]; simp [rules])
  · exact .inr (by rw [hAdd]; simp [rules])
  · exact .inl (by rw [hAdd]; simp [rules, Nat.add_assoc])

------------------------------------------------------------
-- Many Rules
------------------------------------------------------------

/- Rules and warnings grow, by as many as there were offers. -/
theorem lengths_register
    (g : Registry)
    (rs : List Rule) :
    g.rules.length ≤ (g.register rs).rules.length ∧
      g.warnings.length ≤ (g.register rs).warnings.length ∧
      (g.register rs).rules.length +
          (g.register rs).warnings.length =
        g.rules.length + g.warnings.length + rs.length := by
  unfold register
  induction rs generalizing g with
  | nil => simp
  | cons r rs ih =>
      have hRest := ih (g.add r)
      have hFirst := lengths_add g r
      rw [List.foldl_cons, List.length_cons]
      omega

theorem register_concat
    (g : Registry)
    (rs : List Rule)
    (r : Rule) :
    g.register (rs ++ [r]) = (g.register rs).add r := by
  simp [register]

@[simp] theorem builtins_register
    (g : Registry)
    (rs : List Rule) :
    (g.register rs).builtins = g.builtins := by
  unfold register
  induction rs generalizing g with
  | nil => rfl
  | cons r rs ih => rw [List.foldl_cons, ih, builtins_add]

/- Batches come to the same as all their rules in a row. -/
theorem ofBatches_eq_register
    (batches : List (List Rule)) :
    ofBatches batches =
      withBuiltins.register batches.flatten := by
  unfold ofBatches register
  rw [List.foldl_flatten]

theorem builtins_ofBatches
    (batches : List (List Rule)) :
    (ofBatches batches).builtins = builtinRules := by
  rw [ofBatches_eq_register, builtins_register]
  rfl

/-
  A name that no built-in rule has is the name of an added
  rule just if a rule of that name was offered.
-/
theorem mem_added_iff
    (builtins rs : List Rule)
    {id : String}
    (hOther : ∀ s ∈ builtins, s.id ≠ id) :
    (∃ s ∈ ((ofBuiltins builtins).register rs).added,
        s.id = id) ↔
      ∃ s ∈ rs, s.id = id := by
  induction rs using List.reverseRecOn with
  | nil => rfl
  | append_singleton rs r ih =>
      have hSplit :
          (∃ s ∈ rs ++ [r], s.id = id) ↔
            (∃ s ∈ rs, s.id = id) ∨ r.id = id := by
        simp [or_and_right, exists_or]
      rw [register_concat, hSplit, ← ih]
      rcases add_cases ((ofBuiltins builtins).register rs) r with
        ⟨⟨s, hMem, hName⟩, hAdd⟩ |
          ⟨_, ⟨s, hMem, hName⟩, hAdd⟩ | ⟨_, _, hAdd⟩
      · -- The name of this rule is not the one in question.
        rw [builtins_register] at hMem
        have hNe : r.id ≠ id := hName ▸ hOther s hMem
        rw [hAdd]
        simp [hNe]
      · rw [hAdd]
        constructor
        · exact .inl
        · rintro (hOld | rfl)
          · exact hOld
          · exact ⟨s, hMem, hName⟩
      · rw [hAdd]
        simp [or_and_right, exists_or]

/- The warning for a rule, given those offered before it. -/
def refusal?
    (builtins before : List Rule)
    (r : Rule) : Option MergeWarning :=
  if ∃ s ∈ builtins, s.id = r.id then
    some (.conflict r.id)
  else if ∃ s ∈ before, s.id = r.id then
    some (.repeated r.id)
  else
    none

theorem refusal?_eq_none_iff
    {builtins before : List Rule}
    {r : Rule} :
    refusal? builtins before r = none ↔
      (∀ s ∈ builtins, s.id ≠ r.id) ∧
        ∀ s ∈ before, s.id ≠ r.id := by
  unfold refusal?
  split_ifs with hBuiltin hBefore
  · rcases hBuiltin with ⟨s, hMem, hName⟩
    exact ⟨nofun, fun hFree => absurd hName (hFree.1 s hMem)⟩
  · rcases hBefore with ⟨s, hMem, hName⟩
    exact ⟨nofun, fun hFree => absurd hName (hFree.2 s hMem)⟩
  · have hOther : ∀ s ∈ builtins, s.id ≠ r.id := by
      simpa using hBuiltin
    have hNew : ∀ s ∈ before, s.id ≠ r.id := by
      simpa using hBefore
    exact ⟨fun _ => ⟨hOther, hNew⟩, fun _ => rfl⟩

/-
  The next rule that is offered is added without a warning, or
  leaves the warning and is not added.
-/
theorem register_next
    (builtins before : List Rule)
    (r : Rule) :
    let g := (ofBuiltins builtins).register before
    let refused := refusal? builtins before r
    let kept := if refused = none then some r else none
    (g.add r).added = g.added ++ kept.toList ∧
      (g.add r).warnings = g.warnings ++ refused.toList := by
  intro g refused kept
  have hBuiltins : g.builtins = builtins :=
    builtins_register _ _
  rcases add_cases g r with
    ⟨hBuiltin, hAdd⟩ | ⟨hOther, hTaken, hAdd⟩ |
      ⟨hOther, hFree, hAdd⟩
  · have hRefused : refused = some (.conflict r.id) := by
      rw [hBuiltins] at hBuiltin
      exact if_pos hBuiltin
    simp [hAdd, kept, hRefused]
  · rw [hBuiltins] at hOther
    have hRefused : refused = some (.repeated r.id) := by
      have hBefore :=
        (mem_added_iff builtins before hOther).mp hTaken
      simp only [refused, refusal?]
      rw [if_neg (by simpa using hOther), if_pos hBefore]
    simp [hAdd, kept, hRefused]
  · rw [hBuiltins] at hOther
    have hRefused : refused = none := by
      refine refusal?_eq_none_iff.mpr ⟨hOther, ?_⟩
      intro s hMem hName
      rcases (mem_added_iff builtins before hOther).mpr
        ⟨s, hMem, hName⟩ with ⟨u, hAdded, hSame⟩
      exact hFree u hAdded hSame
    simp [hAdd, kept, hRefused]

/- The added rules are those that are not refused, in order. -/
theorem listed_added
    (builtins offered : List Rule) :
    Listed (· < ·)
      (fun (i : Nat) r =>
        offered[i]? = some r ∧
          (∀ s ∈ builtins, s.id ≠ r.id) ∧
          ∀ s ∈ offered.take i, s.id ≠ r.id)
      ((ofBuiltins builtins).register offered).added := by
  have hListed := listed_of_concat
    (fun rs => ((ofBuiltins builtins).register rs).added)
    (fun before r =>
      if refusal? builtins before r = none then some r else none)
    rfl
    (fun rs r => by
      rw [register_concat]
      exact (register_next builtins rs r).1)
    offered
  refine hListed.congr ?_
  intro i r
  simp [refusal?_eq_none_iff]

/- The warnings are those of the refused rules, in order. -/
theorem listed_warnings
    (builtins offered : List Rule) :
    Listed (· < ·)
      (fun (i : Nat) w =>
        ∃ r, offered[i]? = some r ∧
          refusal? builtins (offered.take i) r = some w)
      ((ofBuiltins builtins).register offered).warnings :=
  listed_of_concat
    (fun rs => ((ofBuiltins builtins).register rs).warnings)
    (refusal? builtins)
    rfl
    (fun rs r => by
      rw [register_concat]
      exact (register_next builtins rs r).2)
    offered

end Registry

------------------------------------------------------------
-- All Rules at Once
------------------------------------------------------------

namespace Merge

/-
  A merge has the rules and the warnings of a registry, and
  the names taken in it are the names of the rules.
-/
structure Mirrors
    (m : Merge)
    (g : Registry) : Prop where
  rules : m.rules = g.rules
  warnings : m.warnings = g.warnings
  taken : ∀ id, id ∈ m.taken ↔ ∃ s ∈ g.rules, s.id = id

theorem Mirrors.add
    {m : Merge}
    {g : Registry}
    (hMirrors : m.Mirrors g)
    (r : Rule) :
    (m.add (g.builtins.map (·.id)) r).Mirrors (g.add r) := by
  rcases hMirrors with ⟨hRules, hWarnings, hTaken⟩
  have hReserved :
      (g.builtins.map (·.id)).contains r.id = true ↔
        ∃ s ∈ g.builtins, s.id = r.id := by
    simp
  have hName :
      m.taken.contains r.id = true ↔
        ∃ s ∈ g.builtins ++ g.added, s.id = r.id := by
    rw [List.contains_iff_mem, hTaken]
    rfl
  unfold Merge.add
  rcases Registry.add_cases g r with
    ⟨hBuiltin, hAdd⟩ | ⟨hOther, ⟨s, hMem, hSame⟩, hAdd⟩ |
      ⟨hOther, hFree, hAdd⟩
  · rw [if_pos (hReserved.mpr hBuiltin), hAdd]
    exact ⟨hRules, by rw [hWarnings], hTaken⟩
  · have hNot : ¬ ∃ s ∈ g.builtins, s.id = r.id := by
      simpa using hOther
    have hIn : ∃ s ∈ g.builtins ++ g.added, s.id = r.id :=
      ⟨s, List.mem_append_right _ hMem, hSame⟩
    rw [if_neg (mt hReserved.mp hNot), if_pos (hName.mpr hIn),
      hAdd]
    exact ⟨hRules, by rw [hWarnings], hTaken⟩
  · have hNot : ¬ ∃ s ∈ g.builtins, s.id = r.id := by
      simpa using hOther
    have hOut : ¬ ∃ s ∈ g.builtins ++ g.added, s.id = r.id := by
      rintro ⟨s, hMem, hSame⟩
      rcases List.mem_append.mp hMem with hOld | hLate
      · exact hOther s hOld hSame
      · exact hFree s hLate hSame
    rw [if_neg (mt hReserved.mp hNot), if_neg (mt hName.mp hOut),
      hAdd]
    refine ⟨by simp [hRules, Registry.rules], hWarnings, ?_⟩
    intro id
    have hRest := hTaken id
    simp only [Registry.rules] at hRest ⊢
    rw [List.mem_cons, hRest, ← List.append_assoc]
    constructor
    · rintro (rfl | ⟨s, hMem, hSame⟩)
      · exact ⟨r, by simp, rfl⟩
      · exact ⟨s, List.mem_append_left _ hMem, hSame⟩
    · rintro ⟨s, hMem, hSame⟩
      rcases List.mem_append.mp hMem with hOld | hNew
      · exact .inr ⟨s, hOld, hSame⟩
      · rw [List.mem_singleton.mp hNew] at hSame
        exact .inl hSame.symm

/- Rules in a row are merged as they are registered. -/
theorem Mirrors.foldl
    {m : Merge}
    {g : Registry}
    (hMirrors : m.Mirrors g)
    (rs : List Rule) :
    (rs.foldl (Merge.add (g.builtins.map (·.id))) m).Mirrors
      (g.register rs) := by
  unfold Registry.register
  induction rs generalizing m g with
  | nil => exact hMirrors
  | cons r rs ih =>
      have hRest := ih (hMirrors.add r)
      rw [Registry.builtins_add] at hRest
      exact hRest

theorem mirrors_ofRules
    (builtins others : List Rule) :
    (ofRules builtins others).Mirrors
      ((Registry.ofBuiltins builtins).register others) := by
  have hStart :
      (⟨builtins, builtins.map (·.id), []⟩ : Merge).Mirrors
        (.ofBuiltins builtins) :=
    ⟨by simp [Registry.rules, Registry.ofBuiltins], rfl,
      by simp [Registry.rules, Registry.ofBuiltins]⟩
  exact hStart.foldl others

end Merge

namespace Registry

/-
  However rules are put into batches, they are kept and warned
  of as if all of them were merged at once.  The built-in rules
  come first.  Behind them are, in the order of the offers, the
  rules whose name no built-in rule has and no rule offered
  earlier had.  No name occurs twice.  Every other offer leaves
  one warning, so that a further batch leaves at most as many
  warnings as it has rules, and adds the rest.
-/
theorem ofBatches_as_merged
    (batches : List (List Rule)) :
    let g := ofBatches batches
    let offered := batches.flatten
    let m := Merge.ofRules builtinRules offered
    (g.rules = m.rules ∧ g.warnings = m.warnings) ∧
      g.rules = builtinRules ++ g.added ∧
      Listed (· < ·)
        (fun (i : Nat) r =>
          offered[i]? = some r ∧
            (∀ s ∈ builtinRules, s.id ≠ r.id) ∧
            ∀ s ∈ offered.take i, s.id ≠ r.id)
        g.added ∧
      g.rules.Pairwise (fun r s => r.id ≠ s.id) ∧
      Listed (· < ·)
        (fun (i : Nat) w =>
          ∃ r, offered[i]? = some r ∧
            refusal? builtinRules (offered.take i) r = some w)
        g.warnings ∧
      g.rules.length + g.warnings.length =
        builtinRules.length + offered.length ∧
      ∀ batch : List Rule,
        let next := ofBatches (batches ++ [batch])
        g.warnings.length ≤ next.warnings.length ∧
          next.warnings.length - g.warnings.length ≤
            batch.length ∧
          next.rules.length =
            g.rules.length +
              (batch.length -
                (next.warnings.length - g.warnings.length)) := by
  intro g offered m
  have hRow : g = (ofBuiltins builtinRules).register offered :=
    ofBatches_eq_register batches
  have hMirrors := Merge.mirrors_ofRules builtinRules offered
  have hLengths :=
    lengths_register (ofBuiltins builtinRules) offered
  rw [← hRow] at hMirrors hLengths
  refine ⟨⟨hMirrors.rules.symm, hMirrors.warnings.symm⟩, ?_,
    ?_, distinct_ofBatches batches, ?_, ?_, ?_⟩
  · rw [rules, builtins_ofBatches]
  · rw [hRow]
    exact listed_added builtinRules offered
  · rw [hRow]
    exact listed_warnings builtinRules offered
  · have hStart :
        (ofBuiltins builtinRules).rules.length =
          builtinRules.length := by
      simp [rules, ofBuiltins]
    have hSilent :
        (ofBuiltins builtinRules).warnings.length = 0 := rfl
    omega
  · intro batch next
    have hNext : next = g.register batch :=
      List.foldl_append
    have hGrown := lengths_register g batch
    rw [hNext]
    omega

/- A rule that is offered twice, once in either of two batches. -/
example :
    let rule (id : String) : Rule :=
      ⟨id, .performance, .info, "", "",
        .file (fun _ _ => ⟨[], none⟩)⟩
    let g :=
      ofBatches
        [[rule "security/no-eval", rule "x"], [rule "x"]]
    g.warnings =
      [.conflict "security/no-eval", .repeated "x"] := by
  decide +kernel

------------------------------------------------------------
-- Rules That Run
------------------------------------------------------------

/- The listing marks a rule by whether it is switched on. -/
theorem head?_entry
    (g : Registry)
    (c : Config)
    (r : Rule) :
    (g.entry c r).toList.head? =
      some (if isOn c r then '●' else '○') := by
  unfold entry Listing.line
  cases isOn c r with
  | true => simp
  | false => simp

/-
  The rules that run are the registered rules that are switched
  on, in the same order: first those that are built in, then
  the others.  They are the rules that the listing marks, and
  the listing counts them.
-/
theorem enabled_as_listed
    (batches : List (List Rule))
    (c : Config) :
    let g := ofBatches batches
    (g.enabled c).map (·.id) =
        (g.rules.filter
          (fun r => c.isEnabled r.id r.category)).map (·.id) ∧
      g.enabled c =
        builtinRules.filter (isOn c) ++ g.added.filter (isOn c) ∧
      g.enabled c =
        g.rules.filter
          (fun r => (g.entry c r).toList.head? = some '●') ∧
      g.listing c =
        String.join (g.rules.map (g.entry c)) ++
          String.join
            (g.warnings.map
              (fun w => Listing.line (Listing.warning w))) ++
          Listing.line
            ("\n" ++ (g.enabled c).length.repr ++ " of " ++
              g.rules.length.repr ++ " rules enabled") := by
  intro g
  have hOn : g.enabled c = g.rules.filter (isOn c) :=
    (distinct_ofBatches batches).enabled_eq_filter c
  refine ⟨by rw [hOn]; rfl, ?_, ?_, ?_⟩
  · rw [hOn, rules, List.filter_append, builtins_ofBatches]
  · rw [hOn]
    apply List.filter_congr
    intro r _
    rw [head?_entry]
    cases isOn c r <;> simp
  · rw [hOn]
    rfl

end Registry

end ModuleLint
