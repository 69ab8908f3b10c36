import Mathlib.Data.List.Nodup
import ModuleLint.Proofs.Scan.Switch

/-
  Settings that have been checked.

  An analyzer can be made of settings that make sense, and of
  no others.  In such settings no category is spelled in two
  ways, so the order in which switches are kept does not
  matter.

  Main declarations:
    * `Category.ofSpelling?_eq_some_iff`
    * `Config.Decides`, `Config.isEnabled_eq_iff_decides`
    * `Config.switchedBy`, `Config.isEnabled_switchedBy`
    * `Analyzer.withRegistry_guarded_by_validate`
-/

namespace ModuleLint

/- The only member with a property is the one that is found. -/
theorem find?_eq_some_of_unique
    {α : Type}
    {xs : List α}
    {p : α → Bool}
    {a : α}
    (hMem : a ∈ xs)
    (hA : p a = true)
    (hUnique : ∀ b ∈ xs, p b = true → b = a) :
    xs.find? p = some a := by
  cases hFound : xs.find? p with
  | none => exact absurd hA (List.find?_eq_none.mp hFound a hMem)
  | some b =>
      rw [hUnique b (List.mem_of_find?_eq_some hFound)
        (List.find?_some hFound)]

------------------------------------------------------------
-- Spellings
------------------------------------------------------------

namespace Category

/- A text is the name of a category but for ASCII case. -/
def SpelledBy
    (c : Category)
    (s : String) : Prop :=
  Text.sameIgnoringCase c.name s = true

theorem SpelledBy.unique
    {c c' : Category}
    {s : String}
    (hC : c.SpelledBy s)
    (hC' : c'.SpelledBy s) :
    c = c' := by
  have hNames :
      c.name.toList.map Char.toLower =
        c'.name.toList.map Char.toLower :=
    (eq_of_beq hC).trans (eq_of_beq hC').symm
  revert hNames
  cases c <;> cases c' <;> decide

theorem ofSpelling?_eq_some_iff
    {s : String}
    {c : Category} :
    ofSpelling? s = some c ↔ c.SpelledBy s := by
  constructor
  · intro hFound
    exact (List.find?_some hFound :)
  · intro hSpelled
    cases hFound : ofSpelling? s with
    | none =>
        have hMem : c ∈ all := by cases c <;> decide
        exact absurd hSpelled
          (List.find?_eq_none.mp hFound c hMem)
    | some c' =>
        rw [SpelledBy.unique (List.find?_some hFound :)
          hSpelled]

end Category

------------------------------------------------------------
-- Switches
------------------------------------------------------------

namespace Config

/-
  What settings say about a rule of a category: the switch of
  the rule counts, then that of the category, however it is
  spelled, and without either of them the rule is on.
-/
inductive Decides
    (c : Config)
    (id : String)
    (category : Category) : Bool → Prop where
  | rule
      {on : Bool} :
      (id, on) ∈ c.rules →
        Decides c id category on
  | category
      {key : String}
      {on : Bool} :
      (∀ b, (id, b) ∉ c.rules) →
        (key, on) ∈ c.categories →
          category.SpelledBy key →
            Decides c id category on
  | unset :
      (∀ b, (id, b) ∉ c.rules) →
        (∀ key b,
          (key, b) ∈ c.categories → ¬ category.SpelledBy key) →
          Decides c id category true

/-
  Names that pass the check spell categories that were not
  seen before, and each a different one.
-/
theorem nodup_of_checkCategories
    {names : List String}
    {seen : List (Category × String)}
    (hOk : checkCategories names seen = .ok ()) :
    (∀ n ∈ names,
        ∃ c,
          Category.ofSpelling? n = some c ∧
            ∀ s ∈ seen, s.1 ≠ c) ∧
      (names.map Category.ofSpelling?).Nodup := by
  fun_induction checkCategories names seen with
  | case1 => exact ⟨by simp, .nil⟩
  | case2 => cases hOk
  | case3 => cases hOk
  | case4 name names seen c hSpelled hNew ih =>
      rcases ih hOk with ⟨hLater, hNodup⟩
      have hUnseen : ∀ s ∈ seen, s.1 ≠ c := by
        simpa using List.find?_eq_none.mp hNew
      refine ⟨List.forall_mem_cons.mpr
          ⟨⟨c, hSpelled, hUnseen⟩, ?_⟩,
        List.nodup_cons.mpr ⟨?_, hNodup⟩⟩
      · intro n hN
        rcases hLater n hN with ⟨c', hC', hOthers⟩
        exact ⟨c', hC',
          fun s hS => hOthers s (List.mem_cons_of_mem _ hS)⟩
      · rw [hSpelled]
        intro hMem
        rcases List.mem_map.mp hMem with ⟨n, hN, hSame⟩
        rcases hLater n hN with ⟨c', hC', hOthers⟩
        exact hOthers (c, name) List.mem_cons_self
          (Option.some.inj (hSame.symm.trans hC'))

section

variable {c : Config}

theorem perm_categoryNames
    (c : Config) :
    c.categoryNames.Perm (c.categories.map (·.1)) :=
  List.mergeSort_perm _ _

theorem mem_categoryNames_iff
    {name : String} :
    name ∈ c.categoryNames ↔ ∃ on, (name, on) ∈ c.categories := by
  rw [(perm_categoryNames c).mem_iff]
  simp

/- Of each category there is one switch at most. -/
def SpellsOnce
    (c : Config) : Prop :=
  ∀ category : Category,
    ∀ a ∈ c.categories, ∀ b ∈ c.categories,
      category.SpelledBy a.1 → category.SpelledBy b.1 → a = b

theorem spellsOnce_of_validate
    (hValid : c.validate = .ok ()) :
    c.SpellsOnce := by
  rcases bind_eq_ok_iff.mp hValid with ⟨_, hOk, _⟩
  have hNames := (nodup_of_checkCategories hOk).2
  rw [((perm_categoryNames c).map _).nodup_iff,
    List.map_map] at hNames
  intro category a hA b hB hSpellsA hSpellsB
  refine List.inj_on_of_nodup_map hNames hA hB ?_
  change Category.ofSpelling? a.1 = Category.ofSpelling? b.1
  rw [Category.ofSpelling?_eq_some_iff.mpr hSpellsA,
    Category.ofSpelling?_eq_some_iff.mpr hSpellsB]

theorem categorySwitch?_eq_some
    (hOnce : c.SpellsOnce)
    {category : Category}
    {key : String}
    {on : Bool}
    (hMem : (key, on) ∈ c.categories)
    (hSpells : category.SpelledBy key) :
    c.categorySwitch? category = some on := by
  have hName :
      c.categoryNames.find?
          (fun n => Category.ofSpelling? n == some category) =
        some key := by
    apply find?_eq_some_of_unique
    · exact mem_categoryNames_iff.mpr ⟨on, hMem⟩
    · exact beq_iff_eq.mpr
        (Category.ofSpelling?_eq_some_iff.mpr hSpells)
    · intro n hN hSame
      rcases mem_categoryNames_iff.mp hN with ⟨b, hB⟩
      exact congrArg Prod.fst
        (hOnce category _ hB _ hMem
          (Category.ofSpelling?_eq_some_iff.mp (eq_of_beq hSame))
          hSpells)
  have hSwitch :
      c.categories.find? (fun s => s.1 == key) =
        some (key, on) := by
    apply find?_eq_some_of_unique
    · exact hMem
    · exact beq_self_eq_true key
    · intro s hS hKey
      refine hOnce category s hS _ hMem ?_ hSpells
      rw [eq_of_beq hKey]
      exact hSpells
  unfold categorySwitch?
  rw [hName]
  simp only [Option.bind_eq_bind, Option.bind_some, hSwitch,
    Option.map_some]

theorem categorySwitch?_eq_none
    {category : Category}
    (hNone : ∀ key on,
      (key, on) ∈ c.categories → ¬ category.SpelledBy key) :
    c.categorySwitch? category = none := by
  have hName :
      c.categoryNames.find?
          (fun n => Category.ofSpelling? n == some category) =
        none := by
    rw [List.find?_eq_none]
    intro n hN hSame
    rcases mem_categoryNames_iff.mp hN with ⟨on, hMem⟩
    exact hNone n on hMem
      (Category.ofSpelling?_eq_some_iff.mp (eq_of_beq hSame))
  unfold categorySwitch?
  rw [hName]
  rfl

/- No key is there twice, as in any map. -/
def KeysOnce
    {α : Type}
    (entries : List (String × α)) : Prop :=
  (entries.map (·.1)).Nodup

theorem ruleSwitch?_eq_some
    (hRules : KeysOnce c.rules)
    {id : String}
    {on : Bool}
    (hMem : (id, on) ∈ c.rules) :
    c.ruleSwitch? id = some on := by
  have hSwitch :
      c.rules.find? (fun s => s.1 == id) = some (id, on) := by
    apply find?_eq_some_of_unique
    · exact hMem
    · exact beq_self_eq_true id
    · intro s hS hId
      exact List.inj_on_of_nodup_map hRules hS hMem
        (eq_of_beq hId)
  unfold ruleSwitch?
  rw [hSwitch]
  rfl

theorem ruleSwitch?_eq_none
    {id : String}
    (hNone : ∀ on, (id, on) ∉ c.rules) :
    c.ruleSwitch? id = none := by
  unfold ruleSwitch?
  rw [Option.map_eq_none_iff, List.find?_eq_none]
  intro s hS hId
  have hMem : (s.1, s.2) ∈ c.rules := hS
  rw [eq_of_beq hId] at hMem
  exact hNone s.2 hMem

/- Settings say what `isEnabled` gives, and nothing else. -/
theorem isEnabled_of_decides
    (hOnce : c.SpellsOnce)
    (hRules : KeysOnce c.rules)
    {id : String}
    {category : Category}
    {on : Bool}
    (hDecides : c.Decides id category on) :
    c.isEnabled id category = on := by
  unfold isEnabled
  cases hDecides with
  | rule hRule =>
      rw [ruleSwitch?_eq_some hRules hRule]
  | category hNone hMem hSpells =>
      rw [ruleSwitch?_eq_none hNone,
        categorySwitch?_eq_some hOnce hMem hSpells]
      rfl
  | unset hNone hNoKey =>
      rw [ruleSwitch?_eq_none hNone,
        categorySwitch?_eq_none hNoKey]
      rfl

theorem exists_decides
    (c : Config)
    (id : String)
    (category : Category) :
    ∃ on, c.Decides id category on := by
  by_cases hRule : ∃ on, (id, on) ∈ c.rules
  · rcases hRule with ⟨on, hRule⟩
    exact ⟨on, .rule hRule⟩
  · have hNone := not_exists.mp hRule
    by_cases hKey :
        ∃ key on,
          (key, on) ∈ c.categories ∧ category.SpelledBy key
    · rcases hKey with ⟨key, on, hMem, hSpells⟩
      exact ⟨on, .category hNone hMem hSpells⟩
    · refine ⟨true, .unset hNone ?_⟩
      intro key on hMem hSpells
      exact hKey ⟨key, on, hMem, hSpells⟩

theorem isEnabled_eq_iff_decides
    (hOnce : c.SpellsOnce)
    (hRules : KeysOnce c.rules)
    {id : String}
    {category : Category}
    {on : Bool} :
    c.isEnabled id category = on ↔ c.Decides id category on := by
  constructor
  · rintro rfl
    rcases exists_decides c id category with ⟨on, hDecides⟩
    rw [isEnabled_of_decides hOnce hRules hDecides]
    exact hDecides
  · exact isEnabled_of_decides hOnce hRules

------------------------------------------------------------
-- Settings That Are Read
------------------------------------------------------------

/- One more entry, or a new one in the place of an old one. -/
theorem keysOnce_enter
    {α : Type}
    {seen : List (String × α)}
    (hSeen : KeysOnce seen)
    (p : String × α) :
    KeysOnce
      (if seen.any (fun q => q.1 == p.1) then
        seen.map (fun q => if q.1 == p.1 then p else q)
      else seen ++ [p]) := by
  unfold KeysOnce at hSeen ⊢
  split
  · have hKeys :
        (seen.map (fun q => if q.1 == p.1 then p else q)).map
            (·.1) =
          seen.map (·.1) := by
      rw [List.map_map]
      apply List.map_congr_left
      intro q _
      simp only [Function.comp_apply]
      split
      · next hSame => exact (eq_of_beq hSame).symm
      · rfl
    rw [hKeys]
    exact hSeen
  · next hNew =>
      rw [List.map_append, List.map_singleton]
      refine List.nodup_append.mpr
        ⟨hSeen, List.nodup_singleton _, ?_⟩
      intro k hK k' hK' hSame
      rcases List.mem_map.mp hK with ⟨q, hQ, rfl⟩
      rw [List.mem_singleton.mp hK'] at hSame
      exact hNew (List.any_eq_true.mpr
        ⟨q, hQ, beq_iff_eq.mpr hSame⟩)

/- No name of a dictionary is there twice. -/
theorem keysOnce_asDict?
    {α : Type}
    {f : Json → Option α}
    {j : Json}
    {entries : List (String × α)}
    (hEntries : Json.asDict? f j = some entries) :
    KeysOnce entries := by
  unfold Json.asDict? at hEntries
  split at hEntries
  · rcases Option.bind_eq_some_iff.mp hEntries with
      ⟨pairs, _, hFold⟩
    rw [← Option.some.inj hFold]
    exact List.foldlRecOn (motive := KeysOnce) pairs _
      List.nodup_nil (fun _ hSeen p _ => keysOnce_enter hSeen p)
  · cases hEntries

/- Settings that are read have one switch for each rule. -/
theorem keysOnce_of_ofText
    {path : RawText}
    {text : String}
    (hRead : ofText path text = .ok c) :
    KeysOnce c.rules := by
  have hJson : ∃ j, ofJson? j = some c := by
    unfold ofText at hRead
    dsimp only at hRead
    split at hRead
    · cases hRead
    · next c' hSome =>
        rcases Option.bind_eq_some_iff.mp hSome with
          ⟨j, _, hJson⟩
        rcases bind_eq_ok_iff.mp hRead with ⟨_, _, hSame⟩
        cases hSame
        exact ⟨j, hJson⟩
  rcases hJson with ⟨j, hJson⟩
  unfold ofJson? at hJson
  simp only [Option.bind_eq_bind, Option.bind_eq_some_iff]
    at hJson
  rcases hJson with ⟨r, _, _, _, _, _, _, _, _, _, rules,
    hRules, _, _, _, _, _, _, _, _, hSame⟩
  cases hSame
  unfold Json.Row.defaulted at hRules
  split at hRules
  · exact keysOnce_asDict? hRules
  · cases hRules
    exact List.nodup_nil

------------------------------------------------------------
-- Order of Switches
------------------------------------------------------------

/- The settings with other switches. -/
def switchedBy
    (c : Config)
    (rules categories : List (String × Bool)) : Config :=
  { c with
    rules := rules
    categories := categories }

variable {rules categories : List (String × Bool)}

/- Names are sorted, so it does not matter how they were kept. -/
theorem categoryNames_switchedBy
    (hCategories : categories.Perm c.categories) :
    (c.switchedBy rules categories).categoryNames =
      c.categoryNames := by
  have hSorted :
      ∀ names : List String,
        (names.mergeSort (fun a b => a ≤ b)).Pairwise
          (fun a b => a ≤ b) := by
    intro names
    have hPairs :
        (names.mergeSort (fun a b => a ≤ b)).Pairwise
          (fun a b => decide (a ≤ b) = true) := by
      refine List.pairwise_mergeSort ?_ ?_ names
      · intro a b d hAB hBD
        exact decide_eq_true (String.le_trans
          (of_decide_eq_true hAB) (of_decide_eq_true hBD))
      · intro a b
        simpa using String.le_total a b
    exact hPairs.imp of_decide_eq_true
  refine List.Perm.eq_of_pairwise ?_ (hSorted _) (hSorted _) ?_
  · intro a b _ _ hAB hBA
    exact String.le_antisymm hAB hBA
  · exact (perm_categoryNames _).trans
      ((hCategories.map _).trans (perm_categoryNames c).symm)

theorem validate_switchedBy
    (hCategories : categories.Perm c.categories) :
    (c.switchedBy rules categories).validate = c.validate := by
  unfold validate
  rw [categoryNames_switchedBy hCategories]
  rfl

theorem Decides.switchedBy
    {id : String}
    {category : Category}
    {on : Bool}
    (hDecides : c.Decides id category on)
    (hRules : rules.Perm c.rules)
    (hCategories : categories.Perm c.categories) :
    (c.switchedBy rules categories).Decides id category on := by
  have hNone :
      (∀ b, (id, b) ∉ c.rules) → ∀ b, (id, b) ∉ rules :=
    fun hNone b hMem => hNone b (hRules.mem_iff.mp hMem)
  cases hDecides with
  | rule hRule => exact .rule (hRules.mem_iff.mpr hRule)
  | category hNoRule hMem hSpells =>
      exact .category (hNone hNoRule)
        (hCategories.mem_iff.mpr hMem) hSpells
  | unset hNoRule hNoKey =>
      refine .unset (hNone hNoRule) ?_
      intro key b hMem
      exact hNoKey key b (hCategories.mem_iff.mp hMem)

theorem isEnabled_switchedBy
    (hValid : c.validate = .ok ())
    (hOnce : KeysOnce c.rules)
    (hRules : rules.Perm c.rules)
    (hCategories : categories.Perm c.categories)
    (id : String)
    (category : Category) :
    (c.switchedBy rules categories).isEnabled id category =
      c.isEnabled id category := by
  rcases exists_decides c id category with ⟨on, hDecides⟩
  have hValid' :
      (c.switchedBy rules categories).validate = .ok () :=
    (validate_switchedBy hCategories).trans hValid
  have hOnce' : KeysOnce rules :=
    (hRules.map _).nodup_iff.mpr hOnce
  rw [isEnabled_of_decides (spellsOnce_of_validate hValid)
      hOnce hDecides,
    isEnabled_of_decides (spellsOnce_of_validate hValid')
      hOnce' (hDecides.switchedBy hRules hCategories)]

end

end Config

------------------------------------------------------------
-- Analyzers
------------------------------------------------------------

namespace Analyzer

/- An analyzer is refused for what is wrong with settings. -/
theorem withRegistry_eq_error_iff
    {root : RawText}
    {c : Config}
    {g : Registry}
    {e : ConfigFault} :
    withRegistry root c g = .error e ↔ c.validate = .error e := by
  cases hValid : c.validate with
  | error e' =>
      unfold withRegistry
      rw [hValid]
      simp [bind, Except.bind]
  | ok =>
      rcases Selector.exists_ofConfig hValid with
        ⟨selector, hSelector⟩
      rcases (Config.globs_of_validate hValid).2.2 with
        ⟨files, hFiles⟩
      rw [withRegistry_eq_ok hValid hSelector hFiles]
      simp

/-
  Making an analyzer fails just if the settings do not pass
  their check, and for the same reason.  Settings that are read
  have one switch for each rule.  In settings that pass the
  check each category has one switch at most, rules are on or
  off as their own switches or else those of their categories
  say, and it does not matter in which order switches are kept.
-/
theorem withRegistry_guarded_by_validate
    (root : RawText)
    (c : Config)
    (g : Registry) :
    (∀ e,
        withRegistry root c g = .error e ↔
          c.validate = .error e) ∧
      (∀ path text,
        Config.ofText path text = .ok c →
          Config.KeysOnce c.rules) ∧
      (c.validate = .ok () →
        c.SpellsOnce ∧
          (Config.KeysOnce c.rules →
            ∀ id category,
              (∀ on,
                c.isEnabled id category = on ↔
                  c.Decides id category on) ∧
                ∀ rules categories,
                  rules.Perm c.rules →
                    categories.Perm c.categories →
                      (c.switchedBy rules categories).validate =
                          .ok () ∧
                        (c.switchedBy rules
                            categories).isEnabled id category =
                          c.isEnabled id category)) := by
  refine ⟨fun e => withRegistry_eq_error_iff,
    fun path text => Config.keysOnce_of_ofText, ?_⟩
  intro hValid
  have hOnce := Config.spellsOnce_of_validate hValid
  refine ⟨hOnce, ?_⟩
  intro hRules id category
  refine ⟨?_, ?_⟩
  · intro on
    exact Config.isEnabled_eq_iff_decides hOnce hRules
  · intro rules categories hPermRules hPermCategories
    exact ⟨(Config.validate_switchedBy hPermCategories).trans
        hValid,
      Config.isEnabled_switchedBy hValid hRules hPermRules
        hPermCategories id category⟩

/-
  Two categories in letters of either case, one of which has a
  rule with a switch of its own, and a text in which a rule is
  switched on and then off.
-/
theorem withRegistry_guarded_mixed_case :
    let c : Config :=
      { rules := [("security/no-eval", true)]
        categories :=
          [("Performance", true), ("SECURITY", false)] }
    let text :=
      "\x7b\"rules\": \x7b\"a/b\": true, \"a/b\": false\x7d\x7d"
    c.validate = .ok () ∧
      Config.KeysOnce c.rules ∧
      c.isEnabled "security/no-eval" .security = true ∧
      c.isEnabled "security/other" .security = false ∧
      c.isEnabled "architecture/other" .architecture = true ∧
      (c.switchedBy c.rules c.categories.reverse).isEnabled
        "security/other" .security = false ∧
      ∃ c',
        Config.ofText "settings.json" text = .ok c' ∧
          Config.KeysOnce c'.rules := by
  intro c text
  have hNames : c.categoryNames = ["Performance", "SECURITY"] :=
    List.mergeSort_of_pairwise (by decide)
  have hOk : c.validate.isOk = true := by
    unfold Config.validate
    rw [hNames]
    decide +kernel
  rcases exists_eq_ok_of_isOk hOk with ⟨_, hValid⟩
  have hRules : Config.KeysOnce c.rules := by
    unfold Config.KeysOnce
    decide
  have hSwitches :=
    ((withRegistry_guarded_by_validate "/r" c .withBuiltins).2.2
      hValid).2 hRules
  have hSecurity :
      c.isEnabled "security/other" .security = false := by
    refine ((hSwitches _ _).1 _).mpr
      (.category ?_ (.tail _ (.head _)) ?_)
    · simp [c]
    · rfl
  have hText :
      (Config.ofText "settings.json" text).isOk = true := by
    decide +kernel
  rcases exists_eq_ok_of_isOk hText with ⟨c', hRead⟩
  refine ⟨hValid, hRules, ?_, hSecurity, ?_, ?_, c', hRead,
    (withRegistry_guarded_by_validate "/r" c' .withBuiltins).2.1
      _ _ hRead⟩
  · exact ((hSwitches _ _).1 _).mpr (.rule (.head _))
  · refine ((hSwitches _ _).1 _).mpr (.unset ?_ ?_)
    · simp [c]
    · intro key b hMem hSpells
      simp only [c, List.mem_cons, Prod.mk.injEq,
        List.not_mem_nil, or_false] at hMem
      rcases hMem with ⟨rfl, _⟩ | ⟨rfl, _⟩
      · exact Bool.false_ne_true hSpells
      · exact Bool.false_ne_true hSpells
  · rw [((hSwitches _ _).2 _ _ (.refl _)
      (List.reverse_perm _)).2]
    exact hSecurity

end Analyzer

end ModuleLint
