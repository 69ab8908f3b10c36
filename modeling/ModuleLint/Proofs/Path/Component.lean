import Mathlib.Data.List.TakeWhile
import ModuleLint.Proofs.Path.Join

/-
  Parts of paths in their bytes.

  A name that is not the last part of a path has a slash behind
  it, and either a slash or nothing before it.  The name at the
  end of a path is at the end of its bytes, unless steps
  without meaning follow, and it still is so in what is left
  behind a base.

  Main declarations:
    * `Path.text_of_mem_dropLast`
    * `Path.suffix_of_fileName?`
    * `Path.parts_of_behindParts?`, `Path.suffix_of_behind?`
    * `Path.suffix_of_nameExtension?`, `Path.suffix_slashed`
-/

namespace ModuleLint

namespace Path

------------------------------------------------------------
-- Steps
------------------------------------------------------------

/- All steps of a path are pieces of its bytes, up to the end. -/
theorem exists_steps_eq
    (s : RawText) :
    ∃ front,
      s.steps = front ++ (ofText s).steps := by
  rcases List.exists_cons_of_ne_nil
      (RawText.steps_ne_nil s) with
    ⟨first, rest, hSplit⟩
  rw [ofText_of_steps hSplit, hSplit]
  split
  · exact ⟨[first], rfl⟩
  · split
    · exact ⟨[first], rfl⟩
    · exact ⟨[], rfl⟩

/- The last steps of a path are at the end of its bytes. -/
theorem exists_text_eq
    {s : RawText}
    {xs ys : List RawText}
    (hSteps : (ofText s).steps = xs ++ ys) :
    ∃ front, s = RawText.ofSteps (front ++ ys) := by
  rcases exists_steps_eq s with ⟨front, hSplit⟩
  refine ⟨front ++ xs, ?_⟩
  rw [List.append_assoc, ← hSteps, ← hSplit,
    RawText.ofSteps_steps]

theorem ofStep?_eq_name
    {step n : RawText}
    (hStep : Part.ofStep? step = some (.name n)) :
    step = n ∧ isIdle n = false := by
  unfold Part.ofStep? at hStep
  split at hStep
  · cases hStep
  · next hIdle =>
      split at hStep
      · cases hStep
      · cases hStep
        exact ⟨rfl, Bool.eq_false_iff.mpr hIdle⟩

/- The step of a part, with the steps around it. -/
theorem exists_step
    {steps : List RawText}
    {before after : List Part}
    {n : RawText}
    (hParts :
      steps.filterMap Part.ofStep? =
        before ++ .name n :: after) :
    isIdle n = false ∧
      ∃ xs ys,
        steps = xs ++ n :: ys ∧
          ys.filterMap Part.ofStep? = after := by
  rcases List.filterMap_eq_append_iff.mp hParts with
    ⟨front, back, rfl, _, hBack⟩
  rcases List.filterMap_eq_cons_iff.mp hBack with
    ⟨idle, step, ys, rfl, _, hStep, hYs⟩
  rcases ofStep?_eq_name hStep with ⟨rfl, hIdle⟩
  exact ⟨hIdle, front ++ idle, ys,
    (List.append_assoc ..).symm, hYs⟩

theorem name_not_mem_start
    (n : RawText)
    (start : Start) :
    Part.name n ∉ Start.parts start := by
  cases start <;> simp [Start.parts]

/- A name among the parts of a path is one of its steps. -/
theorem exists_step_of_parts
    {p : Path}
    {before after : List Part}
    {n : RawText}
    (hParts : p.parts = before ++ .name n :: after) :
    isIdle n = false ∧
      ∃ xs ys,
        p.steps = xs ++ n :: ys ∧
          ys.filterMap Part.ofStep? = after := by
  unfold parts at hParts
  rcases List.append_eq_append_iff.mp hParts with
    ⟨rest, _, hSteps⟩ | ⟨rest, hStart, hSteps⟩
  · exact exists_step hSteps
  · cases rest with
    | nil =>
        have hNone :
            p.steps.filterMap Part.ofStep? =
              [] ++ .name n :: after :=
          hSteps.symm
        exact exists_step hNone
    | cons part rest =>
        have hMem : Part.name n ∈ Start.parts p.start := by
          rw [hStart, (List.cons.inj hSteps).1]
          simp
        exact absurd hMem (name_not_mem_start n p.start)

/- Behind a name that is not the last part comes a slash. -/
theorem text_of_mem_dropLast
    {s n : RawText}
    (hMem : .name n ∈ (partsOf s).dropLast) :
    ∃ b,
      s = n ++ "/" ++ b ∨
        ∃ a, s = a ++ "/" ++ n ++ "/" ++ b := by
  rcases List.append_of_mem hMem with ⟨before, after, hFront⟩
  have hSome : partsOf s ≠ [] := by
    intro hNil
    simp [hNil] at hMem
  have hParts :
      (ofText s).parts =
        before ++ .name n ::
          (after ++ [(partsOf s).getLast hSome]) := by
    have hLast := List.dropLast_concat_getLast hSome
    rw [hFront, List.append_assoc, List.cons_append] at hLast
    exact hLast.symm
  rcases exists_step_of_parts hParts with
    ⟨_, xs, ys, hSteps, hYs⟩
  have hLater : ys ≠ [] := by
    rintro rfl
    simp at hYs
  rcases exists_text_eq hSteps with ⟨front, hText⟩
  have hBack :
      RawText.ofSteps (n :: ys) =
        n ++ "/" ++ RawText.ofSteps ys :=
    RawText.ofSteps_append (List.cons_ne_nil n []) hLater
  refine ⟨RawText.ofSteps ys, ?_⟩
  by_cases hFirst : front = []
  · rw [hFirst, List.nil_append, hBack] at hText
    exact .inl hText
  · rw [RawText.ofSteps_append hFirst (List.cons_ne_nil n ys),
      hBack] at hText
    refine .inr ⟨RawText.ofSteps front, ?_⟩
    rw [hText]
    simp only [RawText.append_assoc]

------------------------------------------------------------
-- The Last Name
------------------------------------------------------------

theorem fileName?_eq_some_iff
    {s n : RawText} :
    fileName? s = some n ↔
      (partsOf s).getLast? = some (.name n) := by
  unfold fileName?
  split
  · next m hLast => simp [hLast]
  · next hOther =>
      constructor
      · intro hNone
        cases hNone
      · intro hLast
        exact absurd hLast (hOther n)

/- Only steps without meaning come behind the last name. -/
theorem exists_last_step
    {p : Path}
    {n : RawText}
    (hLast : p.parts.getLast? = some (.name n)) :
    isIdle n = false ∧
      ∃ xs ys,
        p.steps = xs ++ n :: ys ∧
          ∀ y ∈ ys, isIdle y = true := by
  rcases List.getLast?_eq_some_iff.mp hLast with
    ⟨before, hParts⟩
  rcases exists_step_of_parts hParts with
    ⟨hIdle, xs, ys, hSteps, hYs⟩
  refine ⟨hIdle, xs, ys, hSteps, ?_⟩
  intro y hMem
  exact ofStep?_eq_none_iff.mp
    (List.filterMap_eq_nil_iff.mp hYs y hMem)

/-
  The last name of a path is at the end of its bytes, unless
  these end in a step without meaning.
-/
theorem suffix_of_fileName?
    {s n : RawText}
    (hName : fileName? s = some n)
    (hSlash : s.endsWith "/" = false)
    (hHere : s.endsWith "/." = false) :
    n.bytes <:+ s.bytes := by
  rcases exists_last_step (fileName?_eq_some_iff.mp hName) with
    ⟨_, xs, ys, hSteps, hIdle⟩
  rcases List.eq_nil_or_concat ys with rfl | ⟨zs, y, rfl⟩
  · rcases exists_text_eq hSteps with ⟨front, hText⟩
    rw [hText]
    exact RawText.suffix_ofSteps_concat front n
  · -- A step without meaning would be at the end.
    rw [List.concat_eq_append, ← List.cons_append,
      ← List.append_assoc] at hSteps
    rcases exists_steps_eq s with ⟨front, hSplit⟩
    have hFront : front ++ (xs ++ n :: zs) ≠ [] := by simp
    have hText :
        s = RawText.ofSteps (front ++ (xs ++ n :: zs)) ++
          ("/" ++ y) := by
      rw [← RawText.ofSteps_steps s, hSplit, hSteps,
        ← List.append_assoc,
        RawText.ofSteps_append hFront (List.cons_ne_nil y []),
        RawText.append_assoc]
      rfl
    have hEnd : ("/" ++ y).bytes <:+ s.bytes := by
      rw [hText, RawText.bytes_append (t := "/" ++ y)]
      exact List.suffix_append _ _
    have hY : y = "" ∨ y = "." := by
      have hLast := hIdle y (by simp)
      simpa [isIdle] using hLast
    rcases hY with rfl | rfl
    · rw [← Bool.not_eq_true, RawText.endsWith_iff] at hSlash
      exact absurd hEnd hSlash
    · rw [← Bool.not_eq_true, RawText.endsWith_iff] at hHere
      exact absurd hEnd hHere

------------------------------------------------------------
-- Behind a Base
------------------------------------------------------------

theorem filterMap_dropWhile_isIdle
    (steps : List RawText) :
    (steps.dropWhile isIdle).filterMap Part.ofStep? =
      steps.filterMap Part.ofStep? := by
  induction steps with
  | nil => rfl
  | cons s steps ih =>
      by_cases hIdle : isIdle s = true
      · rw [List.dropWhile_cons_of_pos hIdle, ih,
          List.filterMap_cons_none
            (ofStep?_eq_none_iff.mpr hIdle)]
      · rw [List.dropWhile_cons_of_neg hIdle]

/- The first part comes off the parts. -/
theorem parts_of_first?
    {p rest : Path}
    {a : Part}
    (hFirst : p.first? = some (a, rest)) :
    p.parts = a :: rest.parts := by
  unfold first? at hFirst
  unfold parts
  cases hStart : p.start with
  | root =>
      rw [hStart] at hFirst
      cases hFirst
      rfl
  | here =>
      rw [hStart] at hFirst
      cases hFirst
      rfl
  | inner =>
      rw [hStart] at hFirst
      rw [← filterMap_dropWhile_isIdle p.steps]
      cases hSteps : p.steps.dropWhile isIdle with
      | nil =>
          rw [hSteps] at hFirst
          cases hFirst
      | cons s steps =>
          rw [hSteps] at hFirst
          cases hFirst
          have hIdle :=
            List.head?_dropWhile_not isIdle p.steps
          rw [hSteps] at hIdle
          have hStep :
              Part.ofStep? s =
                some
                  (if s == ".." then .parent else .name s) := by
            unfold Part.ofStep?
            rw [if_neg (by simpa [isIdle] using hIdle)]
            split
            · rfl
            · rfl
          rw [List.filterMap_cons_some hStep]
          rfl

/- What is behind some parts has the remaining ones. -/
theorem parts_of_behindParts?
    {bs : List Part}
    {p q : Path}
    (hBehind : behindParts? bs p = some q) :
    p.parts = bs ++ q.parts := by
  induction bs generalizing p with
  | nil =>
      cases hBehind
      rfl
  | cons b bs ih =>
      unfold behindParts? at hBehind
      split at hBehind
      · next a rest hFirst =>
          split at hBehind
          · next hSame =>
              rw [parts_of_first? hFirst, ih hBehind, hSame]
              rfl
          · cases hBehind
      · cases hBehind

theorem suffix_text_of_steps
    {p : Path}
    {xs : List RawText}
    {n : RawText}
    (hSteps : p.steps = xs ++ [n]) :
    n.bytes <:+ p.text.bytes := by
  have hJoined := RawText.suffix_ofSteps_concat xs n
  unfold text
  rw [hSteps]
  cases p.start with
  | root =>
      rw [RawText.bytes_append]
      exact hJoined.trans (List.suffix_append _ _)
  | here =>
      have hSome : (xs ++ [n]).isEmpty = false := by simp
      simp only [hSome, Bool.false_eq_true, if_false,
        RawText.bytes_append]
      exact hJoined.trans (List.suffix_append _ _)
  | inner => exact hJoined

/- The last name stays at the end of a trimmed path. -/
theorem suffix_text_trimmed
    {p : Path}
    {n : RawText}
    (hLast : p.parts.getLast? = some (.name n)) :
    n.bytes <:+ p.trimmed.text.bytes := by
  rcases exists_last_step hLast with
    ⟨hName, xs, ys, hSteps, hIdle⟩
  have hBack :
      (p.steps.reverse.dropWhile isIdle).reverse =
        xs ++ [n] := by
    rw [hSteps, List.reverse_append, List.reverse_cons,
      List.append_assoc, List.dropWhile_append_of_pos (by simpa),
      List.singleton_append,
      List.dropWhile_cons_of_neg (by simp [hName])]
    simp
  have hFront :
      ∃ zs, (xs ++ [n]).dropWhile isIdle = zs ++ [n] := by
    rw [List.dropWhile_append]
    split
    · exact ⟨[], by simp [hName]⟩
    · exact ⟨xs.dropWhile isIdle, rfl⟩
  have hTrimmed : ∃ zs, p.trimmed.steps = zs ++ [n] := by
    unfold trimmed
    rw [hBack]
    split
    · exact hFront
    · exact ⟨xs, rfl⟩
  rcases hTrimmed with ⟨zs, hZs⟩
  exact suffix_text_of_steps hZs

/- Nothing is left of a path without parts. -/
theorem text_trimmed_of_parts_eq_nil
    {p : Path}
    (hParts : p.parts = []) :
    p.trimmed.text = "" := by
  rcases List.append_eq_nil_iff.mp hParts with
    ⟨hStart, hSteps⟩
  have hIdle : p.steps.reverse.dropWhile isIdle = [] := by
    rw [List.dropWhile_eq_nil_iff]
    intro s hMem
    exact ofStep?_eq_none_iff.mp
      (List.filterMap_eq_nil_iff.mp hSteps s
        (List.mem_reverse.mp hMem))
  have hInner : p.start = .inner := by
    cases hCase : p.start with
    | root => simp [hCase, Start.parts] at hStart
    | here => simp [hCase, Start.parts] at hStart
    | inner => rfl
  simp [trimmed, hIdle, hInner, text, RawText.ofSteps]

/-
  The name at the end of a path also ends what is left of it
  behind a base, if there is anything left.
-/
theorem suffix_of_behind?
    {base path rest n : RawText}
    (hBehind : behind? base path = some rest)
    (hName : fileName? path = some n) :
    rest = "" ∨ n.bytes <:+ rest.bytes := by
  rcases Option.map_eq_some_iff.mp hBehind with
    ⟨q, hQ, rfl⟩
  have hParts : partsOf path = partsOf base ++ q.parts :=
    parts_of_behindParts? hQ
  by_cases hNone : q.parts = []
  · exact .inl (text_trimmed_of_parts_eq_nil hNone)
  · right
    apply suffix_text_trimmed
    rw [fileName?_eq_some_iff, hParts, List.getLast?_append,
      List.getLast?_eq_some_getLast hNone, Option.some_or,
      ← List.getLast?_eq_some_getLast] at hName
    exact hName

------------------------------------------------------------
-- Endings
------------------------------------------------------------

/- The ending of a name stands behind a point. -/
theorem suffix_of_nameExtension?
    {n : RawText}
    {e : String}
    (hExtension : nameExtension? n = some e) :
    0x2e :: (RawText.ofText e).bytes <:+ n.bytes := by
  unfold nameExtension? at hExtension
  dsimp only at hExtension
  have hSplit :=
    List.takeWhile_append_dropWhile (p := (· != (0x2e : UInt8)))
      (l := n.bytes.reverse)
  have hPoint :=
    List.head?_dropWhile_not (· != (0x2e : UInt8))
      n.bytes.reverse
  generalize n.bytes.reverse.takeWhile (· != 0x2e) = ending at *
  rw [← hSplit, List.drop_left] at hExtension
  split at hExtension
  · next b c cs hRest =>
      rw [RawText.text?_eq_some_iff] at hExtension
      have hB : b = 0x2e := by
        simpa [hRest] using hPoint
      rw [← hExtension, ← List.reverse_prefix, ← hSplit, hRest,
        hB]
      simp
  · cases hExtension

/- Backslashes before an ending do not change the ending. -/
theorem suffix_slashed
    {e s : String}
    (hEnd : e.toList <:+ s.toList)
    (hPlain : '\\' ∉ e.toList) :
    e.toList <:+ (slashed s).toList := by
  have hSame := congrArg String.toList (slashed_of_not_mem hPlain)
  unfold slashed at hSame ⊢
  rw [String.toList_ofList] at hSame ⊢
  rw [← hSame]
  exact hEnd.map _

end Path

end ModuleLint
