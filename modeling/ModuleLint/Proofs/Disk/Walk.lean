import ModuleLint.Disk.Walk
import ModuleLint.Proofs.Disk.Follow

/-
  What a walk comes to.

  A walk comes to the files on whose way no step is ignored.
  An edit of one file that leaves the lists of what to ignore
  alone does not change to which other files a walk comes.

  Main declarations:
    * `Entry.shows`, `Entry.mem_walk_iff`
    * `Disk.Shows`, `Disk.mem_filesBelow_iff`
    * `Entry.SameRules`
    * `Entry.Edited.shows_eq`, `Entry.Edited.layersAbove_eq`
-/

namespace ModuleLint

namespace Entry

------------------------------------------------------------
-- Steps of a Walk
------------------------------------------------------------

/- No step on the way of names is ignored. -/
def shows
    (o : IgnoreOptions) :
    List Layer → Entry → List RawText → Bool
  | _, _, [] => true
  | layers, e, n :: ns =>
      let layers := Layer.ofDirectory o e :: layers
      match e.member? n with
      | none => false
      | some m =>
          Layers.verdict o layers n m.isDirectory !=
              some .ignored &&
            shows o (layers.map (·.descend n)) m ns

theorem shows_cons_of_member?
    {o : IgnoreOptions}
    {layers : List Layer}
    {e m : Entry}
    {n : RawText}
    (hMember : e.member? n = some m)
    (ns : List RawText) :
    e.shows o layers (n :: ns) =
      (Layers.verdict o (Layer.ofDirectory o e :: layers) n
            m.isDirectory !=
          some .ignored &&
        m.shows o
          ((Layer.ofDirectory o e :: layers).map
            (·.descend n))
          ns) := by
  rw [shows, hMember]

theorem mem_walkMembers_iff
    {o : IgnoreOptions}
    {layers : List Layer}
    {way found : List RawText}
    {ms : List (RawText × Entry)} :
    found ∈ walkMembers o layers way ms ↔
      ∃ m ∈ ms,
        Layers.verdict o layers m.1 m.2.isDirectory ≠
            some .ignored ∧
          found ∈
            m.2.walk o (layers.map (·.descend m.1))
              (way ++ [m.1]) := by
  induction ms with
  | nil => simp [walkMembers]
  | cons m ms ih =>
      rcases m with ⟨name, e⟩
      rw [walkMembers, List.mem_append, ih]
      simp only [List.mem_cons, or_and_right, exists_or,
        exists_eq_left]
      apply or_congr_left
      by_cases hIgnored :
          Layers.verdict o layers name e.isDirectory =
            some .ignored
      · simp [hIgnored]
      · simp [hIgnored]

/- A walk comes to the files that are shown. -/
theorem mem_walk_iff
    {o : IgnoreOptions}
    {e : Entry}
    (hTidy : Tidy e)
    {layers : List Layer}
    {way found : List RawText} :
    found ∈ e.walk o layers way ↔
      ∃ ns c,
        found = way ++ ns ∧ e.at? ns = some (file c) ∧
          e.shows o layers ns = true := by
  induction hTidy generalizing layers way with
  | file c =>
      rw [walk, List.mem_singleton]
      constructor
      · rintro rfl
        exact ⟨[], c, by simp, at?_nil _, rfl⟩
      · rintro ⟨ns, c', rfl, hAt, _⟩
        rw [at?_file_eq_some_iff] at hAt
        rw [hAt.1, List.append_nil]
  | @directory ms hNames _ _ ih =>
      rw [walk, mem_walkMembers_iff]
      constructor
      · rintro ⟨⟨n, m⟩, hMem, hVerdict, hFound⟩
        have hMember := member?_of_mem hNames hMem
        rcases (ih _ hMem).mp hFound with
          ⟨ns, c, rfl, hAt, hShows⟩
        refine ⟨n :: ns, c, by simp, ?_, ?_⟩
        · rw [at?_cons, hMember]
          exact hAt
        · rw [shows_cons_of_member? hMember, hShows,
            Bool.and_true, bne_iff_ne]
          exact hVerdict
      · rintro ⟨ns, c, rfl, hAt, hShows⟩
        cases ns with
        | nil => simp at hAt
        | cons n ns =>
            rw [at?_cons, Option.bind_eq_some_iff] at hAt
            rcases hAt with ⟨m, hMember, hAt⟩
            have hMem := mem_of_member? hMember
            rw [shows_cons_of_member? hMember,
              Bool.and_eq_true, bne_iff_ne] at hShows
            refine ⟨(n, m), hMem, hShows.1, ?_⟩
            exact (ih _ hMem).mpr
              ⟨ns, c, by simp, hAt, hShows.2⟩

------------------------------------------------------------
-- Lists of What to Ignore
------------------------------------------------------------

/- Where the lists of a directory are. -/
def ruleFiles
    (o : IgnoreOptions) : List (List RawText) :=
  let usual : List (List RawText) :=
    [[".ignore"], [".gitignore"], [".git", "info", "exclude"]]
  o.customName.toList.map (fun n => [RawText.ofText n]) ++ usual

/-
  Everywhere in two trees, the lists of what to ignore say the
  same, and repositories begin at the same places.
-/
structure SameRules
    (o : IgnoreOptions)
    (e e' : Entry) : Prop where
  rules :
    ∀ way, ∀ f ∈ ruleFiles o,
      e'.rulesAt (way ++ f) = e.rulesAt (way ++ f)
  marks :
    ∀ way,
      (e'.at? (way ++ [RawText.ofText ".git"])).isSome =
        (e.at? (way ++ [RawText.ofText ".git"])).isSome

theorem foldl_member?
    (o : Option Entry)
    (ns : List RawText) :
    ns.foldl (fun e n => e.bind (·.member? n)) o =
      o.bind (fun e => e.at? ns) := by
  induction ns generalizing o with
  | nil => cases o <;> simp
  | cons n ns ih =>
      rw [List.foldl_cons, ih]
      cases o with
      | none => rfl
      | some e => rw [Option.bind_some, Option.bind_some, at?_cons]

theorem rulesAt_eq_of_at?_eq
    {e e' : Entry}
    {ns ks : List RawText}
    (hAt : e.at? ns = e'.at? ks) :
    e.rulesAt ns = e'.rulesAt ks := by
  unfold rulesAt
  rw [foldl_member?, foldl_member?, Option.bind_some,
    Option.bind_some, hAt]

theorem rulesAt_eq_nil
    {e : Entry}
    {ns : List RawText}
    (hNone : ∀ c, e.at? ns ≠ some (file c)) :
    e.rulesAt ns = [] := by
  unfold rulesAt
  rw [foldl_member?, Option.bind_some]
  split
  · next s hAt => exact absurd hAt (hNone (.text s))
  · rfl

/- Rules come from files only. -/
theorem rulesAt_congr
    {e e' : Entry}
    {ns ks : List RawText}
    (hFiles :
      ∀ c,
        e'.at? ks = some (file c) ↔ e.at? ns = some (file c)) :
    e'.rulesAt ks = e.rulesAt ns := by
  by_cases hFile : ∃ c, e.at? ns = some (file c)
  · rcases hFile with ⟨c, hAt⟩
    apply rulesAt_eq_of_at?_eq
    rw [hAt]
    exact (hFiles c).mpr hAt
  · have hNone : ∀ c, e.at? ns ≠ some (file c) :=
      fun c hAt => hFile ⟨c, hAt⟩
    rw [rulesAt_eq_nil hNone]
    apply rulesAt_eq_nil
    intro c hAt
    exact hNone c ((hFiles c).mp hAt)

theorem rulesAt_cons
    (e : Entry)
    (n : RawText)
    (ns : List RawText) :
    e.rulesAt (n :: ns) =
      ((e.member? n).getD (directory [])).rulesAt ns := by
  apply rulesAt_congr
  intro c
  rw [at?_cons]
  exact at?_getD_eq_file_iff.symm

/-
  An edit leaves the lists of what to ignore alone if it is not
  of one of them and not inside of a repository's own files.
-/
theorem Edited.sameRules
    {o : IgnoreOptions}
    {names : List RawText}
    {e e' : Entry}
    (hEdit : Edited names e e')
    (hFiles : ∀ f ∈ ruleFiles o, ¬ f <:+ names)
    (hGit : RawText.ofText ".git" ∉ names) :
    SameRules o e e' where
  rules := by
    intro way f hMem
    apply rulesAt_congr
    intro c
    apply hEdit.at?_eq_file_iff
    intro hSame
    exact hFiles f hMem ⟨way, hSame⟩
  marks := by
    intro way
    rw [hEdit.at?_eq]
    intro hPrefix
    exact hGit (hPrefix.subset (by simp))

/- The same holds of the members on the way of an edit. -/
theorem SameRules.inside
    {o : IgnoreOptions}
    {e e' inner : Entry}
    {n : RawText}
    (hSame : SameRules o e e')
    (hMember : e'.member? n = some inner) :
    SameRules o ((e.member? n).getD (directory [])) inner where
  rules := by
    intro way f hMem
    have hRules := hSame.rules (n :: way) f hMem
    rw [List.cons_append, rulesAt_cons, rulesAt_cons, hMember]
      at hRules
    exact hRules
  marks := by
    intro way
    have hMarks := hSame.marks (n :: way)
    rw [List.cons_append, at?_cons, at?_cons, hMember]
      at hMarks
    rw [← Option.bind_some inner (fun m => m.at? _), hMarks]
    cases e.member? n with
    | some m => rfl
    | none => cases way <;> rfl

/- A directory brings the same rules in both trees. -/
theorem SameRules.ofDirectory
    {o : IgnoreOptions}
    {e e' : Entry}
    (hSame : SameRules o e e') :
    Layer.ofDirectory o e' = Layer.ofDirectory o e := by
  have hRules :
      ∀ f ∈ ruleFiles o, e'.rulesAt f = e.rulesAt f :=
    hSame.rules []
  have hMarks :
      (e'.member? ".git").isSome =
        (e.member? ".git").isSome := by
    have hAt := hSame.marks []
    simpa [at?_cons] using hAt
  have hCustom :
      ∀ n, o.customName = some n →
        e'.rulesAt [n] = e.rulesAt [n] := by
    intro n hName
    apply hRules
    simp [ruleFiles, hName]
  unfold Layer.ofDirectory
  rw [hRules [".ignore"] (by simp [ruleFiles]),
    hRules [".gitignore"] (by simp [ruleFiles]),
    hRules [".git", "info", "exclude"] (by simp [ruleFiles]),
    hMarks]
  cases hName : o.customName with
  | none => rfl
  | some n => simp [hCustom n hName]

------------------------------------------------------------
-- Walks After an Edit
------------------------------------------------------------

/- Other files are shown as before. -/
theorem Edited.shows_eq
    {o : IgnoreOptions}
    {names : List RawText}
    {e e' : Entry}
    (hEdit : Edited names e e')
    (hSame : SameRules o e e')
    {ks : List RawText}
    (hNe : ks ≠ names)
    {c : Content}
    (hAt : e.at? ks = some (file c))
    (layers : List Layer) :
    e'.shows o layers ks = e.shows o layers ks := by
  induction hEdit generalizing ks layers with
  | @here n ms ms' hOthers hBefore _ =>
      cases ks with
      | nil => rfl
      | cons k ks =>
          by_cases hK : k = n
          · subst hK
            cases ks with
            | nil => exact absurd rfl hNe
            | cons j ks =>
                rw [at?_cons, at?_cons_of_isFile hBefore] at hAt
                cases hAt
          · rw [shows, shows, hSame.ofDirectory, hOthers k hK]
  | @inside n names ms ms' inner hOthers hAfter hInner ih =>
      cases ks with
      | nil => rfl
      | cons k ks =>
          by_cases hK : k = n
          · subst hK
            have hTail : ks ≠ names :=
              fun hEq => hNe (hEq ▸ rfl)
            have hInside := hSame.inside hAfter
            rw [at?_cons, Option.bind_eq_some_iff] at hAt
            rcases hAt with ⟨m, hMember, hAt⟩
            rw [hMember, Option.getD_some] at hInner hInside ih
            rw [shows_cons_of_member? hAfter,
              shows_cons_of_member? hMember,
              hSame.ofDirectory, hInner.isDirectory.1,
              hInner.isDirectory.2, ih hInside hTail hAt]
          · rw [shows, shows, hSame.ofDirectory, hOthers k hK]

/- The rules that come from above are the same. -/
theorem Edited.layersAbove_eq
    {o : IgnoreOptions}
    {front names : List RawText}
    {e e' top : Entry}
    (hEdit : Edited (front ++ names) e e')
    (hSome : names ≠ [])
    (hSame : SameRules o e e')
    (hTop : e.at? front = some top)
    (layers : List Layer) :
    Disk.layersAbove o e' front layers =
      Disk.layersAbove o e front layers := by
  induction front generalizing e e' layers with
  | nil => cases e <;> cases e' <;> rfl
  | cons n front ih =>
      rw [at?_cons, Option.bind_eq_some_iff] at hTop
      rcases hTop with ⟨inner, hMember, hTop⟩
      rw [List.cons_append] at hEdit
      generalize hWay : n :: (front ++ names) = way at hEdit
      cases hEdit with
      | here => simp [hSome] at hWay
      | inside hOthers hAfter hInner =>
          rw [List.cons.injEq] at hWay
          rcases hWay with ⟨rfl, rfl⟩
          have hInside := hSame.inside hAfter
          rw [hMember, Option.getD_some] at hInner hInside
          rw [Disk.layersAbove, Disk.layersAbove, hAfter,
            hMember, hSame.ofDirectory]
          exact ih hInner hInside hTop _

/- The lists below a directory on the way are the same. -/
theorem SameRules.at?
    {o : IgnoreOptions}
    {front : List RawText}
    {e e' top top' : Entry}
    (hSame : SameRules o e e')
    (hTop : e.at? front = some top)
    (hTop' : e'.at? front = some top') :
    SameRules o top top' := by
  induction front generalizing e e' with
  | nil =>
      rw [at?_nil, Option.some_inj] at hTop hTop'
      exact hTop ▸ hTop' ▸ hSame
  | cons n front ih =>
      rw [at?_cons, Option.bind_eq_some_iff] at hTop hTop'
      rcases hTop with ⟨inner, hMember, hTop⟩
      rcases hTop' with ⟨inner', hMember', hTop'⟩
      have hInside := hSame.inside hMember'
      rw [hMember] at hInside
      exact ih hInside hTop hTop'

end Entry

------------------------------------------------------------
-- Files Below a Path
------------------------------------------------------------

namespace Disk

/-
  No list of what to ignore and no hidden step hides what the
  names lead to from a root.
-/
def Shows
    (o : IgnoreOptions)
    (d : Disk)
    (root : RawText)
    (names : List RawText) : Prop :=
  ∃ top,
    d.entry root = .ok top ∧
      top.shows o (layersAbove o d.root (namesOf root) [])
        names = true

instance
    (o : IgnoreOptions)
    (d : Disk)
    (root : RawText)
    (names : List RawText) :
    Decidable (d.Shows o root names) :=
  decidable_of_iff
    ((d.entry root).toOption.any
        (fun top =>
          top.shows o (layersAbove o d.root (namesOf root) [])
            names) =
      true)
    (by
      unfold Shows
      cases d.entry root with
      | error f => simp [Except.toOption]
      | ok top => simp [Except.toOption])

/- The names that a walk comes to are put in order. -/
theorem filesBelow_eq_mergeSort
    (o : IgnoreOptions)
    (d : Disk)
    (root : RawText) :
    d.filesBelow o root =
      ((d.entry root).toOption.elim []
        (fun top =>
          top.walk o (layersAbove o d.root (namesOf root) [])
            [])).mergeSort
        Path.namesLe := by
  unfold filesBelow
  cases d.entry root with
  | error f => simp [Except.toOption]
  | ok top => rfl

theorem mem_filesBelow_iff
    {o : IgnoreOptions}
    {d : Disk}
    (hTidy : d.root.Tidy)
    {root : RawText}
    {top : Entry}
    (hTop : d.entry root = .ok top)
    (hDirectory : top.isDirectory = true)
    {names : List RawText} :
    names ∈ d.filesBelow o root ↔
      (∃ c, top.at? names = some (.file c)) ∧
        d.Shows o root names := by
  have hTopTidy : top.Tidy :=
    (hTidy.at? (at?_of_entry hTop hDirectory)).1
  unfold filesBelow Shows
  simp only [hTop, List.mem_mergeSort,
    Entry.mem_walk_iff hTopTidy, List.nil_append]
  constructor
  · rintro ⟨ns, c, rfl, hAt, hShows⟩
    exact ⟨⟨c, hAt⟩, top, rfl, hShows⟩
  · rintro ⟨⟨c, hAt⟩, top', hOk, hShows⟩
    cases hOk
    exact ⟨names, c, rfl, hAt, hShows⟩

/- A walk of a tidy tree comes to plain names. -/
theorem arePlain_of_mem_filesBelow
    {d : Disk}
    (hTidy : d.root.Tidy)
    {o : IgnoreOptions}
    {root : RawText}
    (hRoot : d.isDirectory root = true)
    {names : List RawText}
    (hMem : names ∈ d.filesBelow o root) :
    Path.ArePlain names := by
  rcases exists_entry_of_isDirectory hRoot with
    ⟨top, hTop, hDirectory⟩
  rw [mem_filesBelow_iff hTidy hTop hDirectory] at hMem
  rcases hMem with ⟨⟨c, hAt⟩, _⟩
  have hTopTidy :=
    (hTidy.at? (at?_of_entry hTop hDirectory)).1
  have hNames := (hTopTidy.at? hAt).2
  refine ⟨?_, hNames⟩
  rintro rfl
  rw [Entry.at?_nil, Option.some_inj] at hAt
  rw [hAt] at hDirectory
  cases hDirectory

end Disk

end ModuleLint
