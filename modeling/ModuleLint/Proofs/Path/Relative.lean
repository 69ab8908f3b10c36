import ModuleLint.Proofs.Path.Component

/-
  From a path as seen from a root back to the path.

  What is left of a path behind a root follows the root again,
  part by part, whether the path lies below the root or is the
  root.  A path that lies elsewhere is kept whole, and starting
  at the root of the disk, it is not changed by what it is
  joined to.

  What is seen is always a text.  So the way leads back if and
  only if what is left of the path is one.

  Main declarations:
    * `Path.partsOf_join_of_isAbsolute`
    * `Path.exists_steps_of_behind?`
    * `Path.IsPlain`
    * `Path.partsOf_join_relative_iff`
    * `Path.partsOf_eq_of_relative_eq`
-/

namespace ModuleLint

namespace Path

------------------------------------------------------------
-- Absolute Paths
------------------------------------------------------------

/- A path starts at the root if its first byte is a slash. -/
theorem start_ofText_eq_root_iff
    {s : RawText} :
    (ofText s).start = .root ↔ isAbsolute s = true := by
  rw [isAbsolute_iff]
  cases hBytes : s.bytes with
  | nil =>
      have hEmpty : s = RawText.ofText "" :=
        RawText.bytes_eq_nil_iff.mp hBytes
      simp [hEmpty, ofText_empty]
  | cons b bs =>
      rcases List.exists_cons_of_ne_nil
          (Text.pieces_ne_nil 0x2f bs) with
        ⟨q, qs, hPieces⟩
      by_cases hSlash : b = 0x2f
      · have hSplit :
            s.steps =
              RawText.ofText "" :: (q :: qs).map RawText.mk := by
          rw [RawText.steps, hBytes, Text.pieces,
            if_pos hSlash, hPieces]
          rfl
        rw [ofText_of_steps hSplit]
        simp [hSlash]
      · have hSplit :
            s.steps = ⟨b :: q⟩ :: qs.map RawText.mk := by
          rw [RawText.steps, hBytes, Text.pieces,
            if_neg hSlash, hPieces]
          rfl
        have hStart : (ofText s).start ≠ .root := by
          have hFirst : (⟨b :: q⟩ : RawText) ≠ RawText.ofText "" := by
            simp [RawText.ext_iff]
          rw [ofText_of_steps hSplit, if_neg (by simp [hFirst])]
          split <;> simp
        exact iff_of_false hStart (by simp [Ne.symm hSlash])

theorem partsOf_of_isAbsolute
    {s : RawText}
    (hAbsolute : isAbsolute s = true) :
    partsOf s =
      .root :: (ofText s).steps.filterMap Part.ofStep? := by
  unfold partsOf parts
  rw [start_ofText_eq_root_iff.mpr hAbsolute]
  rfl

/- The empty step before the first slash has no meaning. -/
theorem steps_of_isAbsolute
    {s : RawText}
    (hAbsolute : isAbsolute s = true) :
    s.steps = RawText.ofText "" :: (ofText s).steps := by
  have hStart := start_ofText_eq_root_iff.mpr hAbsolute
  rcases List.exists_cons_of_ne_nil
      (RawText.steps_ne_nil s) with
    ⟨first, rest, hSplit⟩
  rw [ofText_of_steps hSplit] at hStart ⊢
  split at hStart
  · next hFirst =>
      have hEmpty : first = RawText.ofText "" := by
        simpa using (Bool.and_eq_true_iff.mp hFirst).1
      rw [if_pos hFirst, hSplit, hEmpty]
  · split at hStart
    · cases hStart
    · cases hStart

/- The parts of an absolute path are those of all its steps. -/
theorem partsOf_eq_filterMap_steps
    {s : RawText}
    (hAbsolute : isAbsolute s = true) :
    partsOf s = .root :: s.steps.filterMap Part.ofStep? := by
  rw [partsOf_of_isAbsolute hAbsolute,
    steps_of_isAbsolute hAbsolute]
  rfl

/- What is joined to an absolute path follows its parts. -/
theorem partsOf_join_of_isAbsolute
    {root path : RawText}
    (hRoot : isAbsolute root = true)
    (hPath : isAbsolute path = false) :
    partsOf (join root path) =
      partsOf root ++ path.steps.filterMap Part.ofStep? := by
  rw [partsOf_eq_filterMap_steps hRoot,
    partsOf_eq_filterMap_steps (isAbsolute_join hRoot path)]
  rcases join_cases root hPath with
    ⟨rfl, _⟩ | ⟨front, rfl, hJoin⟩ | ⟨_, _, hJoin⟩
  · exact absurd hRoot (by decide)
  · rw [hJoin, RawText.steps_append_slash_append,
      RawText.steps_append_slash, List.filterMap_append,
      filterMap_ofStep?_append_empty]
    rfl
  · rw [hJoin, RawText.steps_append_slash_append,
      List.filterMap_append]
    rfl

------------------------------------------------------------
-- What Is Left Behind a Base
------------------------------------------------------------

theorem mem_steps_of_mem
    {s step : RawText}
    (hMem : step ∈ (ofText s).steps) :
    step ∈ s.steps := by
  rcases exists_steps_eq s with ⟨front, hSplit⟩
  rw [hSplit]
  exact List.mem_append_right front hMem

theorem rest_of_first?
    {p rest : Path}
    {a : Part}
    (hFirst : p.first? = some (a, rest)) :
    rest.start = .inner ∧ rest.steps <:+ p.steps := by
  unfold first? at hFirst
  cases hStart : p.start with
  | root =>
      rw [hStart] at hFirst
      cases hFirst
      exact ⟨rfl, List.suffix_rfl⟩
  | here =>
      rw [hStart] at hFirst
      cases hFirst
      exact ⟨rfl, List.suffix_rfl⟩
  | inner =>
      rw [hStart] at hFirst
      have hLater := List.dropWhile_suffix (l := p.steps) isIdle
      cases hSteps : p.steps.dropWhile isIdle with
      | nil =>
          rw [hSteps] at hFirst
          cases hFirst
      | cons s steps =>
          rw [hSteps] at hFirst hLater
          cases hFirst
          exact ⟨rfl, (List.suffix_cons s steps).trans hLater⟩

/- Behind at least one part, only the last steps are left. -/
theorem rest_of_behindParts?
    {bs : List Part}
    (hSome : bs ≠ [])
    {p q : Path}
    (hBehind : behindParts? bs p = some q) :
    q.start = .inner ∧ q.steps <:+ p.steps := by
  induction bs generalizing p with
  | nil => exact absurd rfl hSome
  | cons b bs ih =>
      unfold behindParts? at hBehind
      split at hBehind
      · next a rest hFirst =>
          split at hBehind
          · rcases rest_of_first? hFirst with ⟨hInner, hLater⟩
            by_cases hLast : bs = []
            · rw [hLast] at hBehind
              cases hBehind
              exact ⟨hInner, hLater⟩
            · rcases ih hLast hBehind with ⟨hStart, hSteps⟩
              exact ⟨hStart, hSteps.trans hLater⟩
          · cases hBehind
      · cases hBehind

theorem filterMap_trimEnd
    (steps : List RawText) :
    (steps.reverse.dropWhile isIdle).reverse.filterMap
        Part.ofStep? =
      steps.filterMap Part.ofStep? := by
  rw [List.filterMap_reverse, filterMap_dropWhile_isIdle,
    List.filterMap_reverse, List.reverse_reverse]

/-
  What is left of a path behind an absolute root: some of its
  steps, of which the first means something.  They have the
  parts that follow those of the root.
-/
theorem exists_steps_of_behind?
    {root path rest : RawText}
    (hRoot : isAbsolute root = true)
    (hBehind : behind? root path = some rest) :
    ∃ steps,
      rest = RawText.ofSteps steps ∧
        (∀ s ∈ steps, s ∈ path.steps) ∧
        partsOf path =
          partsOf root ++ steps.filterMap Part.ofStep? ∧
        (steps = [] ∨ Follow steps) := by
  rcases Option.map_eq_some_iff.mp hBehind with ⟨q, hQ, rfl⟩
  have hSome : partsOf root ≠ [] := by
    rw [partsOf_eq_filterMap_steps hRoot]
    exact List.cons_ne_nil _ _
  rcases rest_of_behindParts? hSome hQ with ⟨hInner, hLater⟩
  let steps :=
    (q.steps.reverse.dropWhile isIdle).reverse.dropWhile isIdle
  have hMem : ∀ s ∈ steps, s ∈ path.steps := by
    intro s hS
    have hFront := (List.dropWhile_suffix isIdle).mem hS
    rw [List.mem_reverse] at hFront
    exact mem_steps_of_mem
      (hLater.mem
        (List.mem_reverse.mp
          ((List.dropWhile_suffix isIdle).mem hFront)))
  refine ⟨steps, ?_, hMem, ?_, ?_⟩
  · simp [trimmed, text, hInner, steps]
  · have hParts : partsOf path = partsOf root ++ q.parts :=
      parts_of_behindParts? hQ
    rw [hParts, parts, hInner, filterMap_dropWhile_isIdle,
      filterMap_trimEnd]
    rfl
  · have hFirst := List.head?_dropWhile_not isIdle
      (q.steps.reverse.dropWhile isIdle).reverse
    cases hSteps : steps with
    | nil => exact .inl rfl
    | cons s ss =>
        right
        refine ⟨⟨s, ss, rfl, ?_⟩, ?_⟩
        · simpa [steps, hSteps] using hFirst
        · intro t hT
          exact (RawText.of_mem_steps (hMem t (hSteps ▸ hT))).1

/- Such steps do not start at the root. -/
theorem isAbsolute_ofSteps_of_cases
    {steps : List RawText}
    (hSteps : steps = [] ∨ Follow steps) :
    isAbsolute (RawText.ofSteps steps) = false := by
  rcases hSteps with rfl | hFollow
  · decide
  · exact isAbsolute_ofSteps hFollow

theorem filterMap_steps_ofSteps
    {steps : List RawText}
    (hSteps : steps = [] ∨ Follow steps) :
    (RawText.ofSteps steps).steps.filterMap Part.ofStep? =
      steps.filterMap Part.ofStep? := by
  rcases hSteps with rfl | hFollow
  · decide
  · rw [RawText.steps_ofSteps hFollow.notEmpty hFollow.noSlash]

------------------------------------------------------------
-- Names That Are Texts
------------------------------------------------------------

/- Only a step that is a name can fail to be a text. -/
theorem isText_of_ofStep?
    {s : RawText}
    (hName : Part.ofStep? s = some (.name s) → s.IsText) :
    s.IsText := by
  unfold Part.ofStep? at hName
  split at hName
  · next hIdle =>
      rcases Bool.or_eq_true_iff.mp hIdle with hEmpty | hHere
      · exact eq_of_beq hEmpty ▸ RawText.isText_ofText ""
      · exact eq_of_beq hHere ▸ RawText.isText_ofText "."
  · split at hName
    · next hParent =>
        exact eq_of_beq hParent ▸ RawText.isText_ofText ".."
    · exact hName rfl

theorem isText_ofSteps_of_names
    {steps : List RawText}
    (hNames :
      ∀ n, .name n ∈ steps.filterMap Part.ofStep? → n.IsText) :
    (RawText.ofSteps steps).IsText := by
  apply RawText.isText_ofSteps
  intro s hMem
  apply isText_of_ofStep?
  intro hStep
  exact hNames s (List.mem_filterMap.mpr ⟨s, hMem, hStep⟩)

/- Names of steps of a text are texts. -/
theorem isText_of_mem_filterMap
    {s n : RawText}
    (hText : s.IsText)
    (hMem : .name n ∈ s.steps.filterMap Part.ofStep?) :
    n.IsText := by
  rcases List.mem_filterMap.mp hMem with ⟨step, hStep, hName⟩
  rw [← (ofStep?_eq_name hName).1]
  exact hText.of_mem_steps hStep

------------------------------------------------------------
-- Back Again
------------------------------------------------------------

/-
  An absolute path without backslashes, of which a text is
  seen from the root.
-/
structure IsPlain
    (root path : RawText) : Prop where
  absolute : isAbsolute path = true
  isText : ((behind? root path).getD path).IsText
  noBackslash : 0x5c ∉ path.bytes

instance
    (root path : RawText) :
    Decidable (IsPlain root path) :=
  decidable_of_iff
    (isAbsolute path = true ∧
      ((behind? root path).getD path).IsText ∧
        0x5c ∉ path.bytes)
    ⟨fun ⟨hAbsolute, hText, hPlain⟩ =>
        ⟨hAbsolute, hText, hPlain⟩,
      fun ⟨hAbsolute, hText, hPlain⟩ =>
        ⟨hAbsolute, hText, hPlain⟩⟩

/- A path as seen from a root leads back to it from the root. -/
theorem partsOf_join_relative
    {root path : RawText}
    (hRoot : isAbsolute root = true)
    (hPath : IsPlain root path) :
    partsOf (join root (relative root path)) = partsOf path := by
  have hSeen := hPath.isText
  unfold relative
  cases hBehind : behind? root path with
  | none =>
      rw [hBehind, Option.getD_none] at hSeen
      rw [Option.getD_none,
        slashed_toText hSeen hPath.noBackslash, hSeen, join,
        if_pos hPath.absolute]
  | some rest =>
      rcases exists_steps_of_behind? hRoot hBehind with
        ⟨steps, rfl, hMem, hParts, hCases⟩
      rw [hBehind, Option.getD_some] at hSeen
      have hPlain : 0x5c ∉ (RawText.ofSteps steps).bytes := by
        intro hBackslash
        rcases RawText.mem_ofSteps hBackslash with
          hSep | ⟨s, hS, hB⟩
        · exact absurd hSep (by decide)
        · exact hPath.noBackslash
            ((RawText.of_mem_steps (hMem s hS)).2 _ hB)
      rw [Option.getD_some, slashed_toText hSeen hPlain, hSeen,
        partsOf_join_of_isAbsolute hRoot
          (isAbsolute_ofSteps_of_cases hCases),
        filterMap_steps_ofSteps hCases, hParts]

/- The slash at the start of a path is seen in its text. -/
theorem isAbsolute_slashed_toText
    {path : RawText}
    (hAbsolute : isAbsolute path = true) :
    isAbsolute (slashed path.toText) = true := by
  rcases isAbsolute_iff.mp hAbsolute with ⟨bs, hBytes⟩
  have hChars :
      path.toText.toList = '/' :: RawText.decode none bs := by
    rw [RawText.toText, String.toList_ofList, ← hBytes,
      List.singleton_append,
      RawText.decode_plain (by decide) bs]
    rfl
  rw [isAbsolute_iff, RawText.bytes_ofText, slashed, hChars]
  simp [String.utf8EncodeChar]

/- Where what is seen of a path leads if it leads back. -/
theorem steps_of_partsOf_join_relative
    {root path t : RawText}
    (hRoot : isAbsolute root = true)
    (hPath : isAbsolute path = true)
    (hBack : partsOf (join root t) = partsOf path) :
    (isAbsolute t = true ∧
        path.steps.filterMap Part.ofStep? =
          t.steps.filterMap Part.ofStep?) ∨
      (isAbsolute t = false ∧
        partsOf path =
          partsOf root ++ t.steps.filterMap Part.ofStep?) := by
  by_cases hStart : isAbsolute t = true
  · left
    rw [join, if_pos hStart, partsOf_eq_filterMap_steps hStart,
      partsOf_eq_filterMap_steps hPath] at hBack
    exact ⟨hStart, (List.cons.inj hBack).2.symm⟩
  · right
    have hInner := Bool.eq_false_iff.mpr hStart
    rw [partsOf_join_of_isAbsolute hRoot hInner] at hBack
    exact ⟨hInner, hBack.symm⟩

/- Only what is seen as a text leads back to where it is. -/
theorem isText_of_partsOf_join_relative
    {root path : RawText}
    (hRoot : isAbsolute root = true)
    (hPath : isAbsolute path = true)
    (hBack :
      partsOf (join root (relative root path)) =
        partsOf path) :
    ((behind? root path).getD path).IsText := by
  have hText := RawText.isText_ofText (relative root path)
  have hCases :=
    steps_of_partsOf_join_relative hRoot hPath hBack
  cases hBehind : behind? root path with
  | none =>
      have hStart : isAbsolute (relative root path) = true := by
        rw [relative, hBehind]
        exact isAbsolute_slashed_toText hPath
      rcases hCases with ⟨_, hSame⟩ | ⟨hInner, _⟩
      · rw [Option.getD_none, ← RawText.ofSteps_steps path]
        apply isText_ofSteps_of_names
        intro n hMem
        rw [hSame] at hMem
        exact isText_of_mem_filterMap hText hMem
      · rw [hStart] at hInner
        cases hInner
  | some rest =>
      rcases exists_steps_of_behind? hRoot hBehind with
        ⟨steps, rfl, hSteps, hParts, _⟩
      rw [Option.getD_some]
      apply isText_ofSteps_of_names
      intro n hMem
      apply isText_of_mem_filterMap hText
      rcases hCases with ⟨_, hSame⟩ | ⟨_, hSame⟩
      · rw [← hSame]
        exact List.filterMap_subset _ hSteps hMem
      · rw [hParts, List.append_cancel_left_eq] at hSame
        rwa [← hSame]

/-
  A path without backslashes leads back to itself from a root
  if and only if what is seen of it is a text.
-/
theorem partsOf_join_relative_iff
    {root path : RawText}
    (hRoot : isAbsolute root = true)
    (hPath : isAbsolute path = true)
    (hSlash : 0x5c ∉ path.bytes) :
    partsOf (join root (relative root path)) = partsOf path ↔
      ((behind? root path).getD path).IsText := by
  constructor
  · exact isText_of_partsOf_join_relative hRoot hPath
  · intro hText
    exact partsOf_join_relative hRoot ⟨hPath, hText, hSlash⟩

/- Different paths are seen differently from a root. -/
theorem partsOf_eq_of_relative_eq
    {root p q : RawText}
    (hRoot : isAbsolute root = true)
    (hP : IsPlain root p)
    (hQ : IsPlain root q)
    (hSame : relative root p = relative root q) :
    partsOf p = partsOf q := by
  rw [← partsOf_join_relative hRoot hP, hSame,
    partsOf_join_relative hRoot hQ]

end Path

end ModuleLint
