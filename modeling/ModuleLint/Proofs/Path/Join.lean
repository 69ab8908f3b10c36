import ModuleLint.Sources.Selector
import ModuleLint.Proofs.Text.Split

/-
  Paths of names below a base.

  A base followed by steps is the base's path with those steps
  at its end, whatever the base looks like.  If the steps are
  names, they are also what is left behind the base.

  Main declarations:
    * `Path.IsName`, `Path.Follow`
    * `Path.partsOf_join_steps`, `Path.partsOf_join`
    * `Path.behind?_join`
    * `Path.below_eq_join`, `Path.relative_below`
-/

namespace ModuleLint

namespace Path

------------------------------------------------------------
-- Names
------------------------------------------------------------

/- Bytes that can be the name of a file or a directory. -/
structure IsName
    (n : RawText) : Prop where
  notEmpty : n ≠ ""
  notHere : n ≠ "."
  notParent : n ≠ ".."
  noSlash : 0x2f ∉ n.bytes

instance
    (n : RawText) :
    Decidable (IsName n) :=
  decidable_of_iff
    (n ≠ "" ∧ n ≠ "." ∧ n ≠ ".." ∧ 0x2f ∉ n.bytes)
    ⟨fun ⟨hEmpty, hHere, hParent, hSlash⟩ =>
        ⟨hEmpty, hHere, hParent, hSlash⟩,
      fun ⟨hEmpty, hHere, hParent, hSlash⟩ =>
        ⟨hEmpty, hHere, hParent, hSlash⟩⟩

theorem IsName.not_idle
    {n : RawText}
    (hName : IsName n) :
    isIdle n = false := by
  simp [isIdle, hName.notEmpty, hName.notHere]

theorem IsName.ofStep?
    {n : RawText}
    (hName : IsName n) :
    Part.ofStep? n = some (.name n) := by
  simp [Part.ofStep?, hName.notEmpty, hName.notHere,
    hName.notParent]

theorem filterMap_ofStep?_names
    {names : List RawText}
    (hNames : ∀ n ∈ names, IsName n) :
    names.filterMap Part.ofStep? = names.map .name := by
  induction names with
  | nil => rfl
  | cons n names ih =>
      rcases List.forall_mem_cons.mp hNames with
        ⟨hHead, hTail⟩
      rw [List.filterMap_cons_some hHead.ofStep?, ih hTail]
      rfl

/-
  Steps that can come behind a base: the first of them has a
  meaning, and none of them is more than one step.
-/
structure Follow
    (steps : List RawText) : Prop where
  leads : ∃ s ss, steps = s :: ss ∧ isIdle s = false
  noSlash : ∀ s ∈ steps, 0x2f ∉ s.bytes

theorem Follow.notEmpty
    {steps : List RawText}
    (hFollow : Follow steps) :
    steps ≠ [] := by
  rcases hFollow.leads with ⟨s, ss, rfl, _⟩
  exact List.cons_ne_nil s ss

theorem follow_names
    {names : List RawText}
    (hSome : names ≠ [])
    (hNames : ∀ n ∈ names, IsName n) :
    Follow names := by
  rcases List.exists_cons_of_ne_nil hSome with ⟨n, ns, rfl⟩
  exact ⟨⟨n, ns, rfl, (hNames n List.mem_cons_self).not_idle⟩,
    fun m hMem => (hNames m hMem).noSlash⟩

------------------------------------------------------------
-- Bytes at Their Ends
------------------------------------------------------------

theorem isAbsolute_iff
    {s : RawText} :
    isAbsolute s = true ↔ [0x2f] <+: s.bytes := by
  rw [isAbsolute, RawText.startsWith_iff, RawText.bytes_slash]

theorem endsWith_slash_iff
    {s : RawText} :
    s.endsWith "/" = true ↔ [0x2f] <:+ s.bytes := by
  rw [RawText.endsWith_iff, RawText.bytes_slash]

/- Such steps joined together do not start at the root. -/
theorem isAbsolute_ofSteps
    {steps : List RawText}
    (hFollow : Follow steps) :
    isAbsolute (RawText.ofSteps steps) = false := by
  rw [Bool.eq_false_iff]
  intro hAbsolute
  rcases isAbsolute_iff.mp hAbsolute with ⟨rest, hRest⟩
  have hSplit :=
    RawText.steps_ofSteps hFollow.notEmpty hFollow.noSlash
  rcases hFollow.leads with ⟨s, ss, rfl, hIdle⟩
  rw [RawText.steps, ← hRest] at hSplit
  have hFirst : ⟨[]⟩ = s := by
    simpa [Text.pieces] using congrArg List.head? hSplit
  rw [← hFirst] at hIdle
  exact absurd hIdle (by decide)

/- The base, with a slash at its end if it needs one. -/
def opened
    (base : RawText) : RawText :=
  if base.isEmpty || base.endsWith "/" then base
  else base ++ "/"

theorem join_eq_append
    (base : RawText)
    {path : RawText}
    (hPath : isAbsolute path = false) :
    join base path = opened base ++ path := by
  unfold join opened
  rw [hPath, if_neg Bool.false_ne_true]
  split
  · rfl
  · rfl

/- The three shapes a base can have. -/
theorem join_cases
    (base : RawText)
    {path : RawText}
    (hPath : isAbsolute path = false) :
    (base = "" ∧ join base path = path) ∨
      (∃ front,
        base = front ++ "/" ∧
          join base path = front ++ "/" ++ path) ∨
      (base ≠ "" ∧ base.endsWith "/" = false ∧
        join base path = base ++ "/" ++ path) := by
  rw [join_eq_append base hPath]
  unfold opened
  by_cases hEmpty : base = ""
  · left
    simp [hEmpty]
  · right
    by_cases hEnd : base.endsWith "/" = true
    · left
      rcases endsWith_slash_iff.mp hEnd with ⟨front, hFront⟩
      have hBase : base = ⟨front⟩ ++ RawText.ofText "/" := by
        ext1
        simp [hFront]
      refine ⟨⟨front⟩, hBase, ?_⟩
      simp [hEnd, ← hBase]
    · right
      simp [hEmpty, hEnd]

------------------------------------------------------------
-- Steps of a Joined Path
------------------------------------------------------------

theorem ofText_of_steps
    {s first : RawText}
    {rest : List RawText}
    (hSplit : s.steps = first :: rest) :
    ofText s =
      if first == "" && !rest.isEmpty then ⟨.root, rest⟩
      else if first == "." then ⟨.here, rest⟩
      else ⟨.inner, first :: rest⟩ := by
  unfold ofText
  rw [hSplit]

theorem ofText_empty :
    ofText "" = ⟨.inner, [""]⟩ := rfl

theorem filterMap_ofStep?_append_empty
    (steps : List RawText) :
    (steps ++ [RawText.ofText ""]).filterMap Part.ofStep? =
      steps.filterMap Part.ofStep? := by
  simp [Part.ofStep?]

/-
  More steps stand behind the steps of the base.  An empty
  step at the end of the base is gone.
-/
theorem ofText_join
    (base : RawText)
    {more : List RawText}
    (hFollow : Follow more) :
    ∃ steps,
      ofText (join base (RawText.ofSteps more)) =
          ⟨(ofText base).start, steps ++ more⟩ ∧
        steps.filterMap Part.ofStep? =
          (ofText base).steps.filterMap Part.ofStep? := by
  have hAbsolute := isAbsolute_ofSteps hFollow
  have hSome := hFollow.notEmpty
  have hMoreSplit :=
    RawText.steps_ofSteps hSome hFollow.noSlash
  rcases join_cases base hAbsolute with
    ⟨rfl, hJoin⟩ | ⟨front, rfl, hJoin⟩ | ⟨hBase, _, hJoin⟩
  · rcases hFollow.leads with ⟨n, ns, rfl, hIdle⟩
    have hHead : n ≠ "" ∧ n ≠ "." := by
      simpa [isIdle] using hIdle
    refine ⟨[], ?_, ?_⟩
    · rw [hJoin, ofText_of_steps hMoreSplit, ofText_empty]
      simp [hHead]
    · rw [ofText_empty]
      exact (filterMap_ofStep?_append_empty []).symm
  · rcases List.exists_cons_of_ne_nil
        (RawText.steps_ne_nil front) with
      ⟨first, rest, hFront⟩
    have hBaseSplit :
        (front ++ "/").steps =
          first :: (rest ++ [RawText.ofText ""]) := by
      rw [RawText.steps_append_slash, hFront, List.cons_append]
    have hJoinSplit :
        RawText.steps
            (front ++ "/" ++ RawText.ofSteps more) =
          first :: (rest ++ more) := by
      rw [RawText.steps_append_slash_append, hFront, hMoreSplit]
      rfl
    rw [hJoin, ofText_of_steps hJoinSplit,
      ofText_of_steps hBaseSplit]
    by_cases hRoot : first = ""
    · refine ⟨rest, ?_, ?_⟩
      · simp [hRoot, hSome]
      · simp [hRoot, Part.ofStep?]
    · by_cases hHere : first = "."
      · refine ⟨rest, ?_, ?_⟩
        · simp [hHere]
        · simp [hHere, Part.ofStep?]
      · refine ⟨first :: rest, ?_, ?_⟩
        · simp [hRoot, hHere]
        · have hEnd :=
            filterMap_ofStep?_append_empty (first :: rest)
          rw [List.cons_append] at hEnd
          simp only [hRoot, hHere, beq_iff_eq, Bool.and_eq_true,
            false_and, if_false, hEnd]
  · rcases List.exists_cons_of_ne_nil
        (RawText.steps_ne_nil base) with
      ⟨first, rest, hBaseSplit⟩
    have hJoinSplit :
        RawText.steps
            (base ++ "/" ++ RawText.ofSteps more) =
          first :: (rest ++ more) := by
      rw [RawText.steps_append_slash_append, hBaseSplit, hMoreSplit]
      rfl
    rw [hJoin, ofText_of_steps hJoinSplit,
      ofText_of_steps hBaseSplit]
    by_cases hRoot : first = ""
    · have hRest : rest ≠ [] := by
        rintro rfl
        apply hBase
        rw [← RawText.ofSteps_steps base, hBaseSplit, hRoot]
        rfl
      refine ⟨rest, ?_, ?_⟩
      · simp [hRoot, hSome, hRest]
      · simp [hRoot, hRest]
    · by_cases hHere : first = "."
      · exact ⟨rest, by simp [hHere], by simp [hHere]⟩
      · exact ⟨first :: rest, by simp [hRoot, hHere],
          by simp [hRoot, hHere]⟩

/- The parts of a base followed by steps. -/
theorem partsOf_join_steps
    (base : RawText)
    {more : List RawText}
    (hFollow : Follow more) :
    partsOf (join base (RawText.ofSteps more)) =
      partsOf base ++ more.filterMap Part.ofStep? := by
  rcases ofText_join base hFollow with ⟨steps, hText, hSteps⟩
  unfold partsOf parts
  rw [hText, List.filterMap_append, hSteps, List.append_assoc]

/- The parts of a base followed by names. -/
theorem partsOf_join
    (base : RawText)
    {names : List RawText}
    (hSome : names ≠ [])
    (hNames : ∀ n ∈ names, IsName n) :
    partsOf (join base (RawText.ofSteps names)) =
      partsOf base ++ names.map .name := by
  rw [partsOf_join_steps base (follow_names hSome hNames),
    filterMap_ofStep?_names hNames]

------------------------------------------------------------
-- Behind a Base
------------------------------------------------------------

theorem first?_inner_cons_of_idle
    {s : RawText}
    (hIdle : isIdle s = true)
    (ss : List RawText) :
    first? ⟨.inner, s :: ss⟩ = first? ⟨.inner, ss⟩ := by
  simp [first?, hIdle]

theorem first?_inner_cons
    {s : RawText}
    (hIdle : isIdle s = false)
    {p : Part}
    (hPart : Part.ofStep? s = some p)
    (ss : List RawText) :
    first? ⟨.inner, s :: ss⟩ = some (p, ⟨.inner, ss⟩) := by
  have hEmpty : s ≠ "" ∧ s ≠ "." := by
    simpa [isIdle] using hIdle
  by_cases hParent : s = ".."
  · simp_all [first?, Part.ofStep?]
  · simp_all [first?, Part.ofStep?]

theorem ofStep?_eq_none_iff
    {s : RawText} :
    Part.ofStep? s = none ↔ isIdle s = true := by
  unfold Part.ofStep? isIdle
  split
  · simp_all
  · split
    · simp_all
    · simp_all

/-
  Behind the parts of some steps come the remaining steps.
  Steps without meaning may be left in front of them.
-/
theorem behindParts?_steps
    (steps rest : List RawText) :
    ∃ idle,
      (∀ s ∈ idle, isIdle s = true) ∧
        behindParts? (steps.filterMap Part.ofStep?)
            ⟨.inner, steps ++ rest⟩ =
          some ⟨.inner, idle ++ rest⟩ := by
  induction steps with
  | nil => exact ⟨[], by simp, rfl⟩
  | cons s steps ih =>
      rcases ih with ⟨idle, hIdle, hBehind⟩
      cases hPart : Part.ofStep? s with
      | none =>
          have hS := ofStep?_eq_none_iff.mp hPart
          rw [List.filterMap_cons_none hPart]
          cases hParts : steps.filterMap Part.ofStep? with
          | nil =>
              refine ⟨s :: steps, ?_, rfl⟩
              intro t hMem
              rcases List.mem_cons.mp hMem with rfl | hLater
              · exact hS
              · exact ofStep?_eq_none_iff.mp
                  (List.filterMap_eq_nil_iff.mp hParts t
                    hLater)
          | cons p ps =>
              rw [hParts] at hBehind
              refine ⟨idle, hIdle, ?_⟩
              rw [List.cons_append, behindParts?,
                first?_inner_cons_of_idle hS]
              exact hBehind
      | some p =>
          have hS : isIdle s = false := by
            rw [Bool.eq_false_iff]
            intro hS
            rw [ofStep?_eq_none_iff.mpr hS] at hPart
            cases hPart
          refine ⟨idle, hIdle, ?_⟩
          rw [List.filterMap_cons_some hPart,
            List.cons_append, behindParts?,
            first?_inner_cons hS hPart]
          simpa using hBehind

/- Names without the meaningless steps around them. -/
theorem trimmed_names
    {idle names : List RawText}
    (hIdle : ∀ s ∈ idle, isIdle s = true)
    (hSome : names ≠ [])
    (hNames : ∀ n ∈ names, IsName n) :
    trimmed ⟨.inner, idle ++ names⟩ = ⟨.inner, names⟩ := by
  have hLast :
      (idle ++ names).reverse.dropWhile isIdle =
        (idle ++ names).reverse := by
    rw [List.reverse_append]
    rcases List.exists_cons_of_ne_nil
        (List.reverse_ne_nil_iff.mpr hSome) with
      ⟨n, ns, hReverse⟩
    have hMem : n ∈ names := by
      rw [← List.mem_reverse, hReverse]
      exact List.mem_cons_self
    rw [hReverse, List.cons_append,
      List.dropWhile_cons_of_neg
        (by simp [(hNames n hMem).not_idle])]
  have hFirst :
      (idle ++ names).dropWhile isIdle = names := by
    rw [List.dropWhile_append_of_pos hIdle]
    rcases List.exists_cons_of_ne_nil hSome with
      ⟨n, ns, rfl⟩
    rw [List.dropWhile_cons_of_neg
      (by simp [(hNames n List.mem_cons_self).not_idle])]
  simp only [trimmed, hLast, List.reverse_reverse, hFirst,
    beq_self_eq_true, if_true]

/- What is left behind the base are the names. -/
theorem behind?_join
    (base : RawText)
    {names : List RawText}
    (hSome : names ≠ [])
    (hNames : ∀ n ∈ names, IsName n) :
    behind? base (join base (RawText.ofSteps names)) =
      some (RawText.ofSteps names) := by
  rcases ofText_join base (follow_names hSome hNames) with
    ⟨steps, hText, hSteps⟩
  rcases behindParts?_steps steps names with
    ⟨idle, hIdle, hBehind⟩
  have hParts :
      behindParts? (partsOf base)
          ⟨(ofText base).start, steps ++ names⟩ =
        some ⟨.inner, idle ++ names⟩ := by
    unfold partsOf parts
    rw [← hSteps]
    cases (ofText base).start with
    | root => simpa [Start.parts, behindParts?, first?]
    | here => simpa [Start.parts, behindParts?, first?]
    | inner => simpa [Start.parts]
  unfold behind?
  rw [hText, hParts, Option.map_some,
    trimmed_names hIdle hSome hNames]
  rfl

theorem slashed_of_not_mem
    {s : String}
    (hSlash : '\\' ∉ s.toList) :
    slashed s = s := by
  have hChars :
      s.toList.map (fun c => if c == '\\' then '/' else c) =
        s.toList.map id := by
    apply List.map_congr_left
    intro c hMem
    have hNe : c ≠ '\\' := fun hEq => hSlash (hEq ▸ hMem)
    simp [hNe]
  rw [slashed, hChars, List.map_id, String.ofList_toList]

theorem slashed_toText
    {s : RawText}
    (hText : s.IsText)
    (hSlash : 0x5c ∉ s.bytes) :
    slashed s.toText = s.toText := by
  apply slashed_of_not_mem
  intro hMem
  have hEncode : String.utf8EncodeChar '\\' = [0x5c] := by
    decide
  have hByte := RawText.mem_bytes_of_mem hEncode hMem
  rw [hText] at hByte
  exact hSlash hByte

/- A name that is a text without backslashes. -/
structure IsPlainName
    (n : RawText) : Prop where
  isName : IsName n
  isText : n.IsText
  noBackslash : 0x5c ∉ n.bytes

instance
    (n : RawText) :
    Decidable (IsPlainName n) :=
  decidable_of_iff
    (IsName n ∧ n.IsText ∧ 0x5c ∉ n.bytes)
    ⟨fun ⟨hName, hText, hSlash⟩ => ⟨hName, hText, hSlash⟩,
      fun ⟨hName, hText, hSlash⟩ => ⟨hName, hText, hSlash⟩⟩

/- The path of names as seen from the base. -/
theorem relative_join
    (base : RawText)
    {names : List RawText}
    (hSome : names ≠ [])
    (hPlain : ∀ n ∈ names, IsPlainName n) :
    relative base (join base (RawText.ofSteps names)) =
      (RawText.ofSteps names).toText := by
  have hNames : ∀ n ∈ names, IsName n :=
    fun n hMem => (hPlain n hMem).isName
  unfold relative
  rw [behind?_join base hSome hNames, Option.getD_some]
  apply slashed_toText
  · exact RawText.isText_ofSteps
      (fun n hMem => (hPlain n hMem).isText)
  · intro hMem
    rcases RawText.mem_ofSteps hMem with hSep | ⟨n, hName, hB⟩
    · exact absurd hSep (by decide)
    · exact (hPlain n hName).noBackslash hB

------------------------------------------------------------
-- Name by Name
------------------------------------------------------------

/- A base with one more name neither is empty nor ends in a slash. -/
theorem endsWith_join
    (base : RawText)
    {n : RawText}
    (hName : IsName n) :
    join base n ≠ "" ∧
      (join base n).endsWith "/" = false := by
  have hAbsolute : isAbsolute n = false :=
    isAbsolute_ofSteps
      (follow_names (List.cons_ne_nil n [])
        (List.forall_mem_singleton.mpr hName))
  have hChars :
      (join base n).bytes =
        (opened base).bytes ++ n.bytes := by
    rw [join_eq_append base hAbsolute, RawText.bytes_append]
  have hSome : n.bytes ≠ [] := by
    simpa using hName.notEmpty
  refine ⟨?_, ?_⟩
  · intro hEmpty
    rw [hEmpty] at hChars
    simp [hSome] at hChars
  · rw [Bool.eq_false_iff]
    intro hSlash
    rw [endsWith_slash_iff, hChars,
      List.singleton_suffix_iff_getLast?_eq_some,
      List.getLast?_append, List.getLast?_eq_some_getLast hSome,
      Option.some_or, Option.some_inj] at hSlash
    exact hName.noSlash
      (hSlash ▸ List.getLast_mem hSome)

/- Joining names one by one or all at once is the same. -/
theorem below_eq_join
    (base : RawText)
    {names : List RawText}
    (hSome : names ≠ [])
    (hNames : ∀ n ∈ names, IsName n) :
    below base names = join base (RawText.ofSteps names) := by
  induction names generalizing base with
  | nil => exact absurd rfl hSome
  | cons n names ih =>
      rcases List.forall_mem_cons.mp hNames with
        ⟨hHead, hTail⟩
      cases names with
      | nil => rfl
      | cons m names =>
          have hRest := List.cons_ne_nil m names
          rcases endsWith_join base hHead with
            ⟨hEmpty, hEnd⟩
          have hOpened :
              opened (join base n) = join base n ++ "/" := by
            simp [opened, hEmpty, hEnd]
          have hInner : isAbsolute n = false :=
            isAbsolute_ofSteps
              (follow_names (List.cons_ne_nil n [])
                (List.forall_mem_singleton.mpr hHead))
          calc
            below base (n :: m :: names)
                = join (join base n)
                    (RawText.ofSteps (m :: names)) :=
                  ih (join base n) hRest hTail
            _ = join base n ++ "/" ++
                  RawText.ofSteps (m :: names) := by
                rw [join_eq_append _
                  (isAbsolute_ofSteps
                    (follow_names hRest hTail)), hOpened]
            _ = opened base ++
                  RawText.ofSteps (n :: m :: names) := by
                rw [join_eq_append base hInner,
                  RawText.ofSteps_cons_cons]
                simp only [RawText.append_assoc]
            _ = join base
                  (RawText.ofSteps (n :: m :: names)) :=
                (join_eq_append base
                  (isAbsolute_ofSteps
                    (follow_names hSome hNames))).symm

/- Behind an absolute base, all paths are absolute. -/
theorem isAbsolute_join
    {base : RawText}
    (hBase : isAbsolute base = true)
    (path : RawText) :
    isAbsolute (join base path) = true := by
  by_cases hPath : isAbsolute path = true
  · rw [join, if_pos hPath]
    exact hPath
  · rw [join_eq_append base (Bool.eq_false_iff.mpr hPath)]
    rw [isAbsolute_iff] at hBase ⊢
    have hOpened : base.bytes <+: (opened base).bytes := by
      unfold opened
      split
      · exact List.prefix_rfl
      · simp
    rw [RawText.bytes_append]
    exact hBase.trans (hOpened.trans (List.prefix_append _ _))

/- An absolute path is not changed by the base. -/
theorem join_below_of_isAbsolute
    {base : RawText}
    (hBase : isAbsolute base = true)
    {names : List RawText}
    (hSome : names ≠ [])
    (hNames : ∀ n ∈ names, IsName n) :
    join base (below base names) = below base names := by
  have hAbsolute : isAbsolute (below base names) = true := by
    rw [below_eq_join base hSome hNames]
    exact isAbsolute_join hBase _
  rw [join, if_pos hAbsolute]

------------------------------------------------------------
-- Plain Names
------------------------------------------------------------

/- Names that can lead to a file below a directory. -/
structure ArePlain
    (names : List RawText) : Prop where
  notEmpty : names ≠ []
  plain : ∀ n ∈ names, IsPlainName n

theorem ArePlain.isName
    {names : List RawText}
    (hPlain : ArePlain names) :
    ∀ n ∈ names, IsName n :=
  fun n hMem => (hPlain.plain n hMem).isName

theorem ArePlain.isText_ofSteps
    {names : List RawText}
    (hPlain : ArePlain names) :
    (RawText.ofSteps names).IsText :=
  RawText.isText_ofSteps
    (fun n hMem => (hPlain.plain n hMem).isText)

theorem relative_below
    (base : RawText)
    {names : List RawText}
    (hPlain : ArePlain names) :
    relative base (below base names) =
      (RawText.ofSteps names).toText := by
  rw [below_eq_join base hPlain.notEmpty hPlain.isName]
  exact relative_join base hPlain.notEmpty hPlain.plain

/- Different names have different texts. -/
theorem ArePlain.eq_of_toText_eq
    {names ks : List RawText}
    (hNames : ArePlain names)
    (hKs : ArePlain ks)
    (hSame :
      (RawText.ofSteps names).toText =
        (RawText.ofSteps ks).toText) :
    names = ks := by
  have hJoined : RawText.ofSteps names = RawText.ofSteps ks :=
    hNames.isText_ofSteps.symm.trans
      ((congrArg RawText.ofText hSame).trans
        hKs.isText_ofSteps)
  exact RawText.ofSteps_injective hNames.notEmpty hKs.notEmpty
    (fun n hN => (hNames.isName n hN).noSlash)
    (fun n hN => (hKs.isName n hN).noSlash) hJoined

end Path

end ModuleLint
