import ModuleLint.Proofs.Disk.Walk

/-
  Files below a root that are written or deleted.

  Main declarations:
    * `Disk.Edit`
    * `Disk.Edit.edited`, `Disk.Edit.tidy`
    * `Disk.Edit.entry_root`
    * `Disk.Edit.mem_filesBelow_iff`
-/

namespace ModuleLint

namespace Disk

/-
  One file below a root changes: it is made, it gets another
  text, or it is deleted.  A file that is written is not
  hidden, and no list of what to ignore changes.
-/
structure Edit
    (o : IgnoreOptions)
    (root : RawText)
    (names : List RawText)
    (d d' : Disk) : Prop where
  plain : Path.ArePlain names
  sameRules : Entry.SameRules o d.root d'.root
  change :
    (∃ text,
      (d.isFile (Path.below root names) = true ∨
          d.entry (Path.below root names) =
            .error .missing) ∧
        d' =
          d.write (Path.below root names)
            (.file (.text text)) ∧
        d'.Shows o root names) ∨
    (d.isFile (Path.below root names) = true ∧
      d' = d.delete (Path.below root names))

section

variable {o : IgnoreOptions}
variable {root : RawText}
variable {names : List RawText}
variable {d d' : Disk}
variable {top : Entry}

------------------------------------------------------------
-- Trees Before and After
------------------------------------------------------------

theorem entry_below_eq_ok_iff
    (hTop : d.entry root = .ok top)
    (hDirectory : top.isDirectory = true)
    (hPlain : Path.ArePlain names)
    {e : Entry} :
    d.entry (Path.below root names) = .ok e ↔
      top.at? names = some e := by
  rw [entry_below hTop hDirectory hPlain.notEmpty
    hPlain.isName]
  exact Entry.lookup_eq_ok_iff

theorem isFile_below_iff
    (hTop : d.entry root = .ok top)
    (hDirectory : top.isDirectory = true)
    (hPlain : Path.ArePlain names) :
    d.isFile (Path.below root names) = true ↔
      ∃ c, top.at? names = some (.file c) := by
  rw [isFile_iff]
  simp only [entry_below_eq_ok_iff hTop hDirectory hPlain]

theorem read_below_eq_ok_iff
    (hTop : d.entry root = .ok top)
    (hDirectory : top.isDirectory = true)
    (hPlain : Path.ArePlain names)
    {text : String} :
    d.read (Path.below root names) = .ok text ↔
      top.at? names = some (.file (.text text)) := by
  rw [read_eq_ok_iff,
    entry_below_eq_ok_iff hTop hDirectory hPlain]

/- A file that is written is an edit of the tree of all files. -/
theorem edited_write
    (hTop : d.entry root = .ok top)
    (hDirectory : top.isDirectory = true)
    (hPlain : Path.ArePlain names)
    (hFree :
      d.isFile (Path.below root names) = true ∨
        d.entry (Path.below root names) = .error .missing)
    (c : Content) :
    Entry.Edited (namesOf root ++ names) d.root
      (d.write (Path.below root names) (.file c)).root := by
  have hOpen : Entry.Open (some top) names := by
    apply Entry.open_of_lookup
    rcases hFree with hFile | hMissing
    · rcases (isFile_below_iff hTop hDirectory hPlain).mp
          hFile with
        ⟨c, hAt⟩
      exact Or.inr ⟨c, Entry.lookup_eq_ok_iff.mpr hAt⟩
    · rw [entry_below hTop hDirectory hPlain.notEmpty
        hPlain.isName] at hMissing
      exact Or.inl hMissing
  unfold write
  rw [namesOf_below root hPlain.notEmpty hPlain.isName]
  exact Entry.edited_put
    (List.append_ne_nil_of_right_ne_nil _ hPlain.notEmpty)
    (Entry.open_append (at?_of_entry hTop hDirectory) hOpen) c

/- A new file that is not hidden and that hides nothing. -/
theorem edit_of_missing
    (hTop : d.entry root = .ok top)
    (hDirectory : top.isDirectory = true)
    (hPlain : Path.ArePlain names)
    (hRules :
      ∀ f ∈ Entry.ruleFiles o, ¬ f <:+ namesOf root ++ names)
    (hGit : RawText.ofText ".git" ∉ namesOf root ++ names)
    (hMissing : d.read (Path.below root names) = .error .missing)
    {text : String}
    (hShows :
      (d.write (Path.below root names)
        (.file (.text text))).Shows o root names) :
    Edit o root names d
      (d.write (Path.below root names) (.file (.text text))) where
  plain := hPlain
  sameRules :=
    (edited_write hTop hDirectory hPlain
      (Or.inr (read_eq_missing_iff.mp hMissing))
      (.text text)).sameRules hRules hGit
  change :=
    Or.inl
      ⟨text, Or.inr (read_eq_missing_iff.mp hMissing), rfl,
        hShows⟩

/- The change is an edit of the tree of all files. -/
theorem Edit.edited
    (hEdit : Edit o root names d d')
    (hTop : d.entry root = .ok top)
    (hDirectory : top.isDirectory = true) :
    Entry.Edited (namesOf root ++ names) d.root d'.root := by
  have hPlain := hEdit.plain
  rcases hEdit.change with
    ⟨text, hFree, rfl, _⟩ | ⟨hFile, rfl⟩
  · exact edited_write hTop hDirectory hPlain hFree (.text text)
  · rcases (isFile_below_iff hTop hDirectory hPlain).mp
        hFile with
      ⟨c, hAt⟩
    unfold delete
    rw [namesOf_below root hPlain.notEmpty hPlain.isName]
    refine Entry.edited_remove
      (List.append_ne_nil_of_right_ne_nil _ hPlain.notEmpty)
      (c := c) ?_
    rw [Entry.at?_append, at?_of_entry hTop hDirectory]
    exact hAt

theorem Edit.tidy
    (hEdit : Edit o root names d d')
    (hTidy : d.root.Tidy)
    (hTop : d.entry root = .ok top)
    (hDirectory : top.isDirectory = true) :
    d'.root.Tidy := by
  have hPlain := hEdit.plain
  rcases hEdit.change with
    ⟨text, _, rfl, _⟩ | ⟨_, rfl⟩
  · unfold write
    rw [namesOf_below root hPlain.notEmpty hPlain.isName]
    refine Entry.tidy_put (.file _) ?_ hTidy
    intro n hMem
    rcases List.mem_append.mp hMem with hAbove | hBelow
    · exact (hTidy.at? (at?_of_entry hTop hDirectory)).2
        n hAbove
    · exact hPlain.plain n hBelow
  · exact Entry.tidy_remove hTidy

/- The root is a directory after the change, too. -/
theorem Edit.entry_root
    (hEdit : Edit o root names d d')
    (hTop : d.entry root = .ok top)
    (hDirectory : top.isDirectory = true) :
    ∃ top',
      d'.entry root = .ok top' ∧
        top'.isDirectory = true ∧
        Entry.Edited names top top' := by
  have hEdited := hEdit.edited hTop hDirectory
  rcases entry_of_keeps hEdited.keeps hTop hDirectory with
    ⟨top', hTop', hDirectory'⟩
  rcases hEdited.of_append hEdit.plain.notEmpty
      (at?_of_entry hTop hDirectory) with
    ⟨inner, hAt, hInner⟩
  rw [at?_of_entry hTop' hDirectory', Option.some_inj] at hAt
  exact ⟨top', hTop', hDirectory', hAt ▸ hInner⟩

/- What is at the changed place afterwards. -/
theorem Edit.at?_after
    (hEdit : Edit o root names d d')
    {top' : Entry}
    (hTop' : d'.entry root = .ok top')
    (hDirectory' : top'.isDirectory = true) :
    top'.at? names = none ∨
      d'.Shows o root names ∧
        ∃ text, top'.at? names = some (.file (.text text)) := by
  have hPlain := hEdit.plain
  have hSome : namesOf root ++ names ≠ [] :=
    List.append_ne_nil_of_right_ne_nil _ hPlain.notEmpty
  have hNamesOf :=
    namesOf_below root hPlain.notEmpty hPlain.isName
  have hAt :
      d'.root.at? (namesOf root ++ names) =
        top'.at? names := by
    rw [Entry.at?_append, at?_of_entry hTop' hDirectory']
    rfl
  rw [← hAt]
  rcases hEdit.change with
    ⟨text, _, rfl, hShows⟩ | ⟨_, rfl⟩
  · right
    refine ⟨hShows, text, ?_⟩
    unfold write
    rw [hNamesOf]
    exact Entry.at?_put _ _ _
  · left
    unfold delete
    rw [hNamesOf]
    exact Entry.at?_remove hSome _

------------------------------------------------------------
-- Other Files
------------------------------------------------------------

/- A walk comes to the same other files. -/
theorem Edit.mem_filesBelow_iff
    (hEdit : Edit o root names d d')
    (hTidy : d.root.Tidy)
    (hTop : d.entry root = .ok top)
    (hDirectory : top.isDirectory = true)
    {ks : List RawText}
    (hNe : ks ≠ names) :
    ks ∈ d'.filesBelow o root ↔ ks ∈ d.filesBelow o root := by
  have hEdited := hEdit.edited hTop hDirectory
  have hTidy' := hEdit.tidy hTidy hTop hDirectory
  have hAtRoot := at?_of_entry hTop hDirectory
  rcases hEdit.entry_root hTop hDirectory with
    ⟨top', hTop', hDirectory', hInner⟩
  have hSame :=
    hEdit.sameRules.at? hAtRoot
      (at?_of_entry hTop' hDirectory')
  have hLayers :=
    hEdited.layersAbove_eq hEdit.plain.notEmpty
      hEdit.sameRules hAtRoot []
  rw [Disk.mem_filesBelow_iff hTidy' hTop' hDirectory',
    Disk.mem_filesBelow_iff hTidy hTop hDirectory]
  simp only [hInner.at?_eq_file_iff hNe, Shows, hTop, hTop',
    Except.ok.injEq, exists_eq_left', hLayers]
  apply and_congr_right
  rintro ⟨c, hAt⟩
  rw [hInner.shows_eq hSame hNe hAt]

/- Other files have the same texts. -/
theorem Edit.read_below_eq_ok_iff
    (hEdit : Edit o root names d d')
    (hTop : d.entry root = .ok top)
    (hDirectory : top.isDirectory = true)
    {ks : List RawText}
    (hKs : Path.ArePlain ks)
    (hNe : ks ≠ names)
    {text : String} :
    d'.read (Path.below root ks) = .ok text ↔
      d.read (Path.below root ks) = .ok text := by
  rcases hEdit.entry_root hTop hDirectory with
    ⟨top', hTop', hDirectory', hInner⟩
  rw [Disk.read_below_eq_ok_iff hTop' hDirectory' hKs,
    Disk.read_below_eq_ok_iff hTop hDirectory hKs,
    hInner.at?_eq_file_iff hNe]

end

end Disk

end ModuleLint
