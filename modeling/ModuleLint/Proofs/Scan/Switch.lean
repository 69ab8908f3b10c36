import ModuleLint.Proofs.Rules.Blind
import ModuleLint.Proofs.Rules.Isolation
import ModuleLint.Proofs.Rules.Merge
import ModuleLint.Proofs.Scan.Load

/-
  Two ways to silence a rule.

  A rule that is switched off does not run.  A rule that is
  ignored runs, and its diagnostics are dropped afterwards.
  Reports are the same either way as long as no other rule
  looks at the switch, but a rule that runs may also fail.

  Main declarations:
    * `Config.disabling`, `Config.ignoring`
    * `Config.isEnabled_switch`, `Config.isEnabled_switches`
    * `Config.sameBut_switch`, `Config.globs_of_validate`
    * `Registry.enabled_disabling`
    * `Analyzer.scan_disabling_eq_scan_ignoring`
-/

namespace ModuleLint

------------------------------------------------------------
-- Switches
------------------------------------------------------------

namespace Config

/- The settings with the switch of a rule set. -/
def switch
    (c : Config)
    (id : String)
    (on : Bool) : Config :=
  { c with
    rules := (id, on) :: c.rules.filter (fun s => s.1 != id) }

/- A rule is switched off. -/
def disabling
    (c : Config)
    (id : String) : Config :=
  c.switch id false

/- A rule is switched on, and its diagnostics are ignored. -/
def ignoring
    (c : Config)
    (id : String) : Config :=
  { c.switch id true with
    ignore := { c.ignore with rules := c.ignore.rules ++ [id] } }

theorem ruleSwitch?_switch
    (c : Config)
    (id : String)
    (on : Bool)
    (name : String) :
    (c.switch id on).ruleSwitch? name =
      if name = id then some on else c.ruleSwitch? name := by
  unfold ruleSwitch? switch
  by_cases hName : name = id
  · simp [hName]
  · have hOther : (id == name) = false := by
      simpa using Ne.symm hName
    rw [if_neg hName, List.find?_cons_of_neg (by simp [hOther]),
      List.find?_filter]
    congr 2
    funext s
    by_cases hSame : s.1 = name
    · simp [hSame, hName]
    · simp [hSame]

/- A switch that is set counts, and the others stay. -/
theorem isEnabled_switch
    (c : Config)
    (id : String)
    (on : Bool)
    (name : String)
    (category : Category) :
    (c.switch id on).isEnabled name category =
      if name = id then on else c.isEnabled name category := by
  unfold isEnabled
  rw [ruleSwitch?_switch]
  by_cases hName : name = id
  · rw [if_pos hName, if_pos hName]
  · rw [if_neg hName, if_neg hName]
    rfl

/- Every category is told with its switch, if it has one. -/
theorem find?_categories_switches
    (c : Config)
    (category : Category) :
    c.switches.categories.find? (fun s => s.1 == category) =
      (c.categorySwitch? category).map
        (fun on => (category, on)) := by
  have hListed :
      Category.all.find? (· == category) = some category := by
    cases category <;> rfl
  have hHit :
      ∀ k,
        ((c.categorySwitch? k).map (fun on => (k, on))).any
            (fun s => s.1 == category) =
          (k == category &&
            (c.categorySwitch? category).isSome) := by
    intro k
    by_cases hSame : k = category
    · subst hSame
      cases c.categorySwitch? k <;> simp
    · cases c.categorySwitch? k <;> simp [hSame]
  rw [switches, List.find?_filterMap, funext hHit]
  cases hSwitch : c.categorySwitch? category with
  | none =>
      rw [List.find?_eq_none.mpr (by simp)]
      rfl
  | some on => simp [hListed, hSwitch]

/- The switches that rules are told are those that count. -/
theorem isEnabled_switches
    (c : Config)
    (id : String)
    (category : Category) :
    c.switches.isEnabled id category =
      c.isEnabled id category := by
  have hRules : c.switches.rules = c.rules := rfl
  unfold Switches.isEnabled isEnabled ruleSwitch?
  rw [find?_categories_switches, hRules]
  cases c.rules.find? (fun r => r.1 == id) with
  | some s => rfl
  | none => cases c.categorySwitch? category <;> rfl

/- Rules are told the same, but for the switch that is set. -/
theorem sameBut_switch
    (c : Config)
    (id : String) :
    (c.disabling id).ruleSettings.SameBut id
      (c.ignoring id).ruleSettings := by
  refine ⟨rfl, ?_⟩
  intro name category hName
  have hOn :
      (c.ignoring id).isEnabled name category =
        (c.switch id true).isEnabled name category := rfl
  calc
    (c.disabling id).switches.isEnabled name category
      = (c.disabling id).isEnabled name category :=
        isEnabled_switches ..
    _ = c.isEnabled name category := by
        rw [disabling, isEnabled_switch, if_neg hName]
    _ = (c.ignoring id).isEnabled name category := by
        rw [hOn, isEnabled_switch, if_neg hName]
    _ = (c.ignoring id).switches.isEnabled name category :=
        (isEnabled_switches ..).symm

end Config

namespace Registry

theorem mem_rules_of_mem_enabled
    {g : Registry}
    {c : Config}
    {r : Rule}
    (hMem : r ∈ g.enabled c) :
    r ∈ g.rules := by
  rcases List.mem_append.mp hMem with hOld | hLate
  · exact List.mem_append_left _ (List.mem_filter.mp hOld).1
  · exact (List.mem_filter.mp hLate).1

theorem isOn_disabling
    (c : Config)
    (id : String)
    (r : Rule) :
    isOn (c.disabling id) r =
      (isOn (c.ignoring id) r && r.id != id) := by
  have hOn :
      isOn (c.ignoring id) r = isOn (c.switch id true) r := rfl
  rw [hOn]
  unfold isOn Config.disabling
  rw [Config.isEnabled_switch, Config.isEnabled_switch]
  by_cases hName : r.id = id
  · simp [hName]
  · simp [hName]

/- Of the rules that run, only the one in question is missing. -/
theorem enabled_disabling
    (g : Registry)
    (c : Config)
    (id : String) :
    g.enabled (c.disabling id) =
      (g.enabled (c.ignoring id)).filter (·.id != id) := by
  unfold enabled
  rw [List.filter_append, List.filter_filter,
    List.filter_filter]
  congr 1
  · apply List.filter_congr
    intro r _
    rw [isOn_disabling, Bool.and_comm]
  · apply List.filter_congr
    intro r _
    rw [isOn_disabling]
    cases isOn (c.ignoring id) r <;> simp [Bool.and_comm]

end Registry

------------------------------------------------------------
-- Dropped Diagnostics
------------------------------------------------------------

/- One more rule is ignored. -/
theorem Filter.apply_append_rule
    (rules : List String)
    (files : GlobSet)
    (id : String)
    (ds : List Diagnostic) :
    apply ⟨rules ++ [id], files⟩ ds =
      apply ⟨rules, files⟩ (ds.filter (·.rule != id)) := by
  unfold apply
  rw [List.filter_filter]
  apply List.filter_congr
  intro d _
  unfold ignores
  by_cases hName : d.rule = id
  · simp [hName]
  · simp [hName]

------------------------------------------------------------
-- Settings That Make Sense
------------------------------------------------------------

theorem bind_eq_ok_iff
    {ε α β : Type}
    {x : Except ε α}
    {f : α → Except ε β}
    {b : β} :
    x >>= f = .ok b ↔ ∃ a, x = .ok a ∧ f a = .ok b := by
  cases x with
  | error e => simp [bind, Except.bind]
  | ok a => simp [bind, Except.bind]

/- The patterns of settings that make sense can be read. -/
theorem Config.globs_of_validate
    {c : Config}
    (hValid : c.validate = .ok ()) :
    (∃ gs, globs c.included = .ok gs) ∧
      (∃ gs, globs c.excludes = .ok gs) ∧
      ∃ gs, globs c.ignore.files = .ok gs := by
  unfold validate at hValid
  rcases bind_eq_ok_iff.mp hValid with ⟨_, _, hValid⟩
  rcases bind_eq_ok_iff.mp hValid with ⟨_, _, hValid⟩
  rcases bind_eq_ok_iff.mp hValid with ⟨_, _, hValid⟩
  rcases bind_eq_ok_iff.mp hValid with
    ⟨included, hIncluded, hValid⟩
  rcases bind_eq_ok_iff.mp hValid with
    ⟨excluded, hExcluded, hValid⟩
  rcases bind_eq_ok_iff.mp hValid with ⟨files, hFiles, _⟩
  exact ⟨⟨included, hIncluded⟩, ⟨excluded, hExcluded⟩,
    files, hFiles⟩

theorem Selector.exists_ofConfig
    {c : Config}
    (hValid : c.validate = .ok ()) :
    ∃ s, Selector.ofConfig c = .ok s := by
  rcases Config.globs_of_validate hValid with
    ⟨⟨included, hIncluded⟩, ⟨excluded, hExcluded⟩, _⟩
  unfold ofConfig
  rw [hIncluded, hExcluded]
  split <;> exact ⟨_, rfl⟩

namespace Analyzer

theorem withRegistry_eq_ok
    {c : Config}
    (hValid : c.validate = .ok ())
    {selector : Selector}
    (hSelector : Selector.ofConfig c = .ok selector)
    {files : GlobSet}
    (hFiles : Config.globs c.ignore.files = .ok files)
    (root : RawText)
    (g : Registry) :
    withRegistry root c g =
      .ok
        { root
          config := c
          selector
          engine := ⟨g.enabled c, c.ruleSettings⟩
          filter := ⟨c.ignore.rules, files⟩
          warnings := g.warnings } := by
  unfold withRegistry Filter.ofLists
  rw [hValid, hSelector, hFiles]
  rfl

end Analyzer

------------------------------------------------------------
-- Scans
------------------------------------------------------------

/- A result without the failures of a rule. -/
def ScanResult.withoutFailures
    (id : String)
    (r : ScanResult) : ScanResult :=
  { r with
    findings :=
      { r.findings with
        failures :=
          r.findings.failures.filter (·.ruleId != id) } }

namespace Analyzer

/-
  Two analyzers that differ in one rule, which one of them does
  not have and the other one ignores.
-/
structure Silences
    (id : String)
    (a b : Analyzer) : Prop where
  root : a.root = b.root
  sources :
    ∀ d : Disk,
      d.sourceFiles a.root a.config =
        d.sourceFiles b.root b.config
  scoring : a.config.scoring = b.config.scoring
  engine : ∀ p, a.engine.run p = (b.engine.without id).run p
  rules : b.filter.rules = a.filter.rules ++ [id]
  files : b.filter.files = a.filter.files
  warnings : a.warnings = b.warnings

section

variable {id : String}
variable {a b : Analyzer}

theorem Silences.loadProject
    (hSilences : Silences id a b)
    (d : Disk) :
    a.loadProject d = b.loadProject d := by
  unfold Analyzer.loadProject
  rw [hSilences.sources, hSilences.root]

/- The same diagnostics, and the same failures of others. -/
theorem Silences.analyze
    (hSilences : Silences id a b)
    (p : Project) :
    a.analyze p =
      { b.analyze p with
        failures :=
          (b.analyze p).failures.filter (·.ruleId != id) } := by
  have hFilter :
      b.filter = ⟨a.filter.rules ++ [id], a.filter.files⟩ := by
    rw [← hSilences.rules, ← hSilences.files]
  unfold Analyzer.analyze finish
  rw [hSilences.engine, Engine.run_without, hFilter,
    Filter.apply_append_rule]
  rfl

theorem Silences.scan
    (hSilences : Silences id a b)
    (d : Disk) :
    a.scan d =
      (b.scan d).map (ScanResult.withoutFailures id) := by
  unfold Analyzer.scan
  rw [hSilences.loadProject]
  cases b.loadProject d with
  | error f => rfl
  | ok p =>
      have hFound := hSilences.analyze p
      have hScore :
          ∀ ds n, a.score ds n = b.score ds n := by
        intro ds n
        unfold Analyzer.score
        rw [hSilences.scoring]
      simp only [bind, Except.bind, Except.map, hFound, hScore,
        hSilences.root, hSilences.warnings]
      rfl

end

end Analyzer

/-
  With a rule switched off, the other rules find what they find
  with the rule switched on, unless they look at its switch.
-/
theorem Engine.run_disabling
    {g : Registry}
    {id : String}
    (hBlind :
      ∀ r ∈ g.rules, r.id ≠ id → r.check.IsBlindTo id)
    (c : Config)
    (p : Project) :
    Engine.run
        ⟨g.enabled (c.disabling id),
          (c.disabling id).ruleSettings⟩ p =
      (Engine.without id
        ⟨g.enabled (c.ignoring id),
          (c.ignoring id).ruleSettings⟩).run p := by
  rw [Registry.enabled_disabling]
  refine Engine.run_congr ?_ (c.sameBut_switch id) p
  intro r hMem
  rcases List.mem_filter.mp hMem with ⟨hRuns, hName⟩
  exact hBlind r (Registry.mem_rules_of_mem_enabled hRuns)
    (by simpa using hName)

namespace Analyzer

/-
  A rule that is switched off, and the same rule switched on
  and ignored: both analyzers can be made, and on every disk
  both fail alike or both report alike, with the same
  diagnostics in the same order, and so with the same score and
  summary.  Only failures of the rule itself can differ.  Rules
  may be added as long as none but the rule itself looks at its
  switch.
-/
theorem scan_disabling_eq_scan_ignoring
    {c : Config}
    (hValid : c.validate = .ok ())
    (root : RawText)
    (batches : List (List Rule))
    {id : String}
    (hBlind :
      ∀ r ∈ (Registry.ofBatches batches).added,
        r.id ≠ id → r.check.IsBlindTo id) :
    ∃ a b,
      withRegistry root (c.disabling id)
          (.ofBatches batches) = .ok a ∧
        withRegistry root (c.ignoring id)
            (.ofBatches batches) = .ok b ∧
          ∀ d,
            a.scan d =
              (b.scan d).map
                (ScanResult.withoutFailures id) := by
  rcases Selector.exists_ofConfig hValid with
    ⟨selector, hSelector⟩
  rcases (Config.globs_of_validate hValid).2.2 with
    ⟨files, hFiles⟩
  have hAll :
      ∀ r ∈ (Registry.ofBatches batches).rules,
        r.id ≠ id → r.check.IsBlindTo id := by
    intro r hMem hName
    rcases List.mem_append.mp hMem with hBuiltin | hAdded
    · rw [Registry.builtins_ofBatches] at hBuiltin
      exact isBlindTo_builtin id r hBuiltin
    · exact hBlind r hAdded hName
  refine ⟨_, _,
    withRegistry_eq_ok (c := c.disabling id) hValid hSelector
      hFiles root _,
    withRegistry_eq_ok (c := c.ignoring id) hValid hSelector
      hFiles root _, ?_⟩
  apply Silences.scan
  exact ⟨rfl, fun _ => rfl, rfl, Engine.run_disabling hAll c,
    rfl, rfl, rfl⟩

/- A rule that reports when another rule is switched on. -/
def watcher
    (watched : String) : Rule :=
  { id := "x/watch"
    category := .correctness
    severity := .info
    description := ""
    help := ""
    check :=
      .project
        (fun s _ =>
          { findings :=
              if s.switches.isEnabled watched .security then
                [{ filePath := "", line := 1, column := 1,
                   message := watched }]
              else [] }) }

theorem isBlindTo_watcher
    {watched id : String}
    (hNe : watched ≠ id) :
    (watcher watched).check.IsBlindTo id := by
  intro s t hSame
  simp only [hSame.switches watched .security hNe]

/-
  A built-in rule runs only if it is ignored, and still all
  scans report alike, with a rule that looks at another switch
  among those that run.
-/
theorem scan_disabling_no_eval :
    let id := "security/no-eval"
    let g : Registry :=
      .ofBatches [[watcher "security/no-hardcoded-secrets"]]
    let runs (c : Config) : Bool :=
      (g.enabled c).any (·.id == id)
    g.added.length = 1 ∧
      runs (({} : Config).disabling id) = false ∧
      runs (({} : Config).ignoring id) = true ∧
      ∃ a b,
        withRegistry "/r" (({} : Config).disabling id) g =
            .ok a ∧
          withRegistry "/r" (({} : Config).ignoring id) g =
            .ok b ∧
          ∀ d,
            a.scan d =
              (b.scan d).map
                (ScanResult.withoutFailures id) := by
  intro id g runs
  have hOk : ({} : Config).validate.isOk = true := by
    decide +kernel
  rcases exists_eq_ok_of_isOk hOk with ⟨_, hValid⟩
  have hAdded :
      g.added = [watcher "security/no-hardcoded-secrets"] := rfl
  refine ⟨by decide +kernel, by decide +kernel,
    by decide +kernel,
    scan_disabling_eq_scan_ignoring hValid "/r" _ ?_⟩
  intro r hMem _
  rw [hAdded, List.mem_singleton] at hMem
  rw [hMem]
  exact isBlindTo_watcher (by decide)

/-
  A rule that looks at the switch of another one tells the two
  ways apart: in an empty directory it reports that the rule is
  on, though all diagnostics of that rule are dropped.
-/
theorem scan_disabling_watched :
    let id := "security/no-eval"
    let g : Registry := .ofBatches [[watcher id]]
    let d : Disk := ⟨.directory [("r", .directory [])]⟩
    let reports (c : Config) : Option (List String) :=
      do
        let a ← (withRegistry "/r" c g).toOption
        let result ← (a.scan d).toOption
        some (result.findings.diagnostics.map (·.rule))
    ({} : Config).validate.isOk = true ∧
      reports (({} : Config).disabling id) = some [] ∧
      reports (({} : Config).ignoring id) =
        some ["x/watch"] := by
  decide +kernel

end Analyzer

end ModuleLint
