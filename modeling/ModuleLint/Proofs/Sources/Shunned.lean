import ModuleLint.Proofs.Glob.Match
import ModuleLint.Proofs.Path.Component
import ModuleLint.Proofs.Scan.Switch

/-
  Files that are left out by default.

  Some directories and files are never scanned unless the
  settings ask for everything.  Other patterns cannot bring
  them back, since what is left out counts more.

  Main declarations:
    * `Path.IsShunned`
    * `Config.mem_excludes_of_mem_default`
    * `Config.exists_default_within`, `Config.default_ending`
    * `Selector.relative_extension`
    * `Selector.accepts_eq_false_of_isShunned`
-/

namespace ModuleLint

------------------------------------------------------------
-- Default Patterns
------------------------------------------------------------

namespace Path

/- Names of directories that are left out by default. -/
def shunnedNames : List String :=
  ["node_modules", "dist", "coverage", ".git"]

/- The ending of files that are left out by default. -/
def shunnedEnding : String :=
  ".d.ts"

/-
  The path leads through a directory that is left out by
  default, or to a file with an ending that is.
-/
def IsShunned
    (path : RawText) : Prop :=
  (∃ n ∈ shunnedNames, .name ↑n ∈ (partsOf path).dropLast) ∨
    ∃ n, fileName? path = some n ∧ n.endsWith shunnedEnding

end Path

namespace Config

theorem globs_eq_ok_iff
    {patterns : List String}
    {gs : GlobSet} :
    globs patterns = .ok gs ↔
      GlobSet.ofPatterns patterns = .ok gs := by
  unfold globs
  split
  · next hSet => simp [hSet]
  · next hSet => simp [hSet]

theorem mem_addPattern
    {patterns : List String}
    {p : String}
    (hMem : p ∈ patterns)
    (q : String) :
    p ∈ addPattern patterns q := by
  unfold addPattern
  split
  · exact hMem
  · exact List.mem_append_left [q] hMem

/- Default patterns stay, whatever else is left out. -/
theorem mem_excludes_of_mem_default
    {c : Config}
    (hDefaults : c.skipDefaultExcludes = false)
    {p : String}
    (hMem : p ∈ defaultExcludes) :
    p ∈ c.excludes := by
  unfold excludes
  rw [hDefaults, if_neg Bool.false_ne_true]
  exact List.foldlRecOn (motive := fun ps => p ∈ ps) _ _ hMem
    (fun _ hSoFar q _ => mem_addPattern hSoFar q)

theorem exists_default_within :
    ∀ n ∈ Path.shunnedNames,
      ∃ p ∈ defaultExcludes,
        Glob.ofPattern p = .ok (Glob.within n) := by
  intro n hMem
  refine ⟨"**/" ++ n ++ "/**", ?_, ?_⟩
  · revert n
    decide
  · simp only [Path.shunnedNames, List.mem_cons,
      List.not_mem_nil, or_false] at hMem
    rcases hMem with rfl | rfl | rfl | rfl
    · rfl
    · rfl
    · rfl
    · rfl

theorem default_ending :
    "**/*.d.ts" ∈ defaultExcludes ∧
      Glob.ofPattern "**/*.d.ts" =
        .ok (Glob.ending Path.shunnedEnding) :=
  ⟨by decide, rfl⟩

end Config

------------------------------------------------------------
-- Supported Files
------------------------------------------------------------

namespace Selector

/- A supported file is named with one of the endings. -/
theorem exists_extension
    {path : RawText}
    (hSupported : isSupported path = true) :
    ∃ n,
      Path.fileName? path = some n ∧
        ∃ e ∈ supportedExtensions,
          0x2e :: (RawText.ofText e).bytes <:+ n.bytes := by
  unfold isSupported at hSupported
  split at hSupported
  · next e hExtension =>
      rcases Option.bind_eq_some_iff.mp hExtension with
        ⟨n, hName, hEnd⟩
      exact ⟨n, hName, e, List.contains_iff_mem.mp hSupported,
        Path.suffix_of_nameExtension? hEnd⟩
  · cases hSupported

theorem extension_plain :
    ∀ e ∈ supportedExtensions, '\\' ∉ e.toList := by
  decide

/- A supported ending is no step without meaning. -/
theorem endsWith_of_extension
    {path : RawText}
    {e : String}
    (hMem : e ∈ supportedExtensions)
    (hEnd : (RawText.ofText e).bytes <:+ path.bytes) :
    path.endsWith "/" = false ∧ path.endsWith "/." = false := by
  have hShort :
      ∀ e ∈ supportedExtensions, ∀ t ∈ ["/", "/."],
        (RawText.ofText t).bytes.length ≤
            (RawText.ofText e).bytes.length ∧
          ¬ (RawText.ofText t).bytes <:+
              (RawText.ofText e).bytes := by
    decide
  have hOther :
      ∀ t ∈ ["/", "/."], path.endsWith ↑t = false := by
    intro t hT
    rw [← Bool.not_eq_true, RawText.endsWith_iff]
    intro hStep
    rcases hShort e hMem t hT with ⟨hLength, hNot⟩
    exact hNot
      (List.suffix_of_suffix_length_le hStep hEnd hLength)
  exact ⟨hOther "/" (by simp), hOther "/." (by simp)⟩

/-
  A supported file still has its ending when it is seen from
  a root, unless it is the root.
-/
theorem relative_extension
    (root : RawText)
    {path : RawText}
    (hSlash : path.endsWith "/" = false)
    (hHere : path.endsWith "/." = false)
    (hSupported : isSupported path = true) :
    Path.relative root path = "" ∨
      ∃ e ∈ supportedExtensions,
        e.toList <:+ (Path.relative root path).toList := by
  rcases exists_extension hSupported with
    ⟨n, hName, e, hMem, hEnd⟩
  have hKept :
      ∀ s : RawText, n.bytes <:+ s.bytes →
        e.toList <:+ (Path.slashed s.toText).toList := by
    intro s hFile
    have hBehind :=
      RawText.suffix_toText (by decide) (hEnd.trans hFile)
    exact Path.suffix_slashed
      ((List.suffix_cons _ _).trans hBehind)
      (extension_plain e hMem)
  unfold Path.relative
  cases hBehind : Path.behind? root path with
  | none =>
      exact .inr ⟨e, hMem, hKept path
        (Path.suffix_of_fileName? hName hSlash hHere)⟩
  | some rest =>
      rcases Path.suffix_of_behind? hBehind hName with
        rfl | hFile
      · exact .inl rfl
      · exact .inr ⟨e, hMem, hKept rest hFile⟩

------------------------------------------------------------
-- Selectors
------------------------------------------------------------

/- Whatever is included, all that is excluded is kept. -/
theorem excluded_of_ofConfig
    {c : Config}
    {s : Selector}
    (hSelector : ofConfig c = .ok s) :
    Config.globs c.excludes = .ok s.excluded := by
  have hRest :
      ∃ included,
        (do
          let excluded ← Config.globs c.excludes
          .ok (Selector.mk included excluded)) =
            Except.ok s := by
    unfold ofConfig at hSelector
    dsimp only at hSelector
    split at hSelector
    · exact ⟨none, hSelector⟩
    · split at hSelector
      · next gs _ => exact ⟨some gs, hSelector⟩
      · cases hSelector
  rcases hRest with ⟨included, hRest⟩
  rcases bind_eq_ok_iff.mp hRest with
    ⟨excluded, hExcluded, hSame⟩
  cases hSame
  exact hExcluded

/- A path that a default pattern matches is left out. -/
theorem accepts_eq_false_of_default
    {c : Config}
    (hDefaults : c.skipDefaultExcludes = false)
    {s : Selector}
    (hSelector : ofConfig c = .ok s)
    {p : String}
    (hMem : p ∈ defaultExcludes)
    {g : Glob}
    (hGlob : Glob.ofPattern p = .ok g)
    {root path : RawText}
    (hMatch : g.accepts (Path.relative root path) = true) :
    s.accepts root path = false := by
  have hIn : g ∈ s.excluded.globs :=
    GlobSet.mem_of_ofPatterns
      (Config.globs_eq_ok_iff.mp
        (excluded_of_ofConfig hSelector))
      (Config.mem_excludes_of_mem_default hDefaults hMem) hGlob
  have hExcluded :
      s.excluded.accepts (Path.relative root path) = true :=
    List.any_eq_true.mpr ⟨g, hIn, hMatch⟩
  simp [accepts, hExcluded]

/- A text that leads through a directory of the name matches. -/
theorem accepts_within_of_mem
    {n path : String}
    (hMem : .name ↑n ∈ (Path.partsOf path).dropLast) :
    (Glob.within n).accepts path = true := by
  rcases Path.text_of_mem_dropLast hMem with ⟨b, hText⟩
  apply Glob.accepts_within (b := b.toText)
  rcases hText with hFirst | ⟨a, hLater⟩
  · left
    simpa [RawText.toText_append_slash_append] using
      congrArg RawText.toText hFirst
  · right
    refine ⟨a.toText, ?_⟩
    simpa [RawText.toText_append_slash_append] using
      congrArg RawText.toText hLater

theorem suffix_of_endsWith
    {s : String}
    (hEnd :
      (RawText.ofText Path.shunnedEnding).bytes <:+
        (RawText.ofText s).bytes) :
    Path.shunnedEnding.toList <:+ s.toList := by
  have hSuffix :=
    RawText.suffix_toText (b := 0x2e) (e := "d.ts") (by decide) hEnd
  rwa [RawText.toText_ofText] at hSuffix

/-
  No settings that keep the default patterns let a file pass
  that these leave out, at any depth.
-/
theorem accepts_eq_false_of_isShunned
    {c : Config}
    (hDefaults : c.skipDefaultExcludes = false)
    {s : Selector}
    (hSelector : ofConfig c = .ok s)
    (root : RawText)
    {path : RawText}
    (hSlash : path.endsWith "/" = false)
    (hHere : path.endsWith "/." = false)
    (hShunned : Path.IsShunned (Path.relative root path)) :
    s.accepts root path = false := by
  by_cases hSupported : isSupported path = true
  · rcases hShunned with ⟨n, hName, hMem⟩ | ⟨n, hLast, hEnd⟩
    · rcases Config.exists_default_within n hName with
        ⟨p, hP, hGlob⟩
      exact accepts_eq_false_of_default hDefaults hSelector hP
        hGlob (accepts_within_of_mem hMem)
    · rcases Config.default_ending with ⟨hP, hGlob⟩
      have hSuffix :
          Path.shunnedEnding.toList <:+
            (Path.relative root path).toList := by
        rcases relative_extension root hSlash hHere hSupported
          with hEmpty | ⟨e, hE, hExtension⟩
        · rw [hEmpty] at hLast
          cases hLast
        · rcases endsWith_of_extension hE
              (RawText.suffix_ofText hExtension) with
            ⟨hRelSlash, hRelHere⟩
          exact suffix_of_endsWith
            ((RawText.endsWith_iff.mp hEnd).trans
              (Path.suffix_of_fileName? hLast hRelSlash
                hRelHere))
      exact accepts_eq_false_of_default hDefaults hSelector hP
        hGlob (Glob.accepts_ending hSuffix)
  · simp [accepts, hSupported]

/- Asking for installed packages does not bring them back. -/
theorem accepts_eq_false_installed :
    let c : Config :=
      { included := ["**/node_modules/**", "src/**"]
        excluded := ["legacy/*.js"] }
    let path := "/r/src/node_modules/lib/node_modules/a.ts"
    isSupported path = true ∧
      ∃ s, ofConfig c = .ok s ∧ s.accepts "/r" path = false := by
  intro c path
  have hOk : (ofConfig c).isOk = true := by
    decide +kernel
  rcases Analyzer.exists_eq_ok_of_isOk hOk with ⟨s, hSelector⟩
  have hShunned : Path.IsShunned (Path.relative "/r" path) :=
    .inl ⟨"node_modules", by decide, by decide +kernel⟩
  refine ⟨by decide +kernel, s, hSelector, ?_⟩
  exact accepts_eq_false_of_isShunned rfl hSelector "/r"
    (by decide +kernel) (by decide +kernel) hShunned

end Selector

end ModuleLint
