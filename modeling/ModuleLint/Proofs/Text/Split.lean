import ModuleLint.Path.Basic
import ModuleLint.Proofs.Text.Raw

/-
  Splitting texts at a separator and joining them again.

  Main declarations:
    * `Text.pieces_eq_splitOn`
    * `Text.splitAt_joinWith`, `Text.joinWith_injective`
    * `RawText.steps_ofSteps`, `RawText.ofSteps_steps`
    * `RawText.steps_ofText`, `RawText.isText_ofSteps`
-/

namespace ModuleLint

namespace Text

------------------------------------------------------------
-- Pieces
------------------------------------------------------------

section Pieces

variable {α : Type} [DecidableEq α]

theorem pieces_ne_nil
    (sep : α)
    (cs : List α) :
    pieces sep cs ≠ [] := by
  fun_induction pieces sep cs <;> simp_all

/- A text without the separator is one piece. -/
theorem pieces_of_not_mem
    {sep : α}
    {cs : List α}
    (hSep : sep ∉ cs) :
    pieces sep cs = [cs] := by
  induction cs with
  | nil => rfl
  | cons c cs ih =>
      rw [List.mem_cons, not_or] at hSep
      rw [pieces, if_neg (Ne.symm hSep.1), ih hSep.2]

/- Pieces on both sides of a separator stay apart. -/
theorem pieces_append_sep
    (sep : α)
    (as bs : List α) :
    pieces sep (as ++ sep :: bs) =
      pieces sep as ++ pieces sep bs := by
  induction as with
  | nil => simp [pieces]
  | cons a as ih =>
      rw [List.cons_append, pieces, pieces, ih]
      split
      · rfl
      · cases hPieces : pieces sep as with
        | nil => exact absurd hPieces (pieces_ne_nil sep as)
        | cons p ps => rfl

/- Pieces are made of the other characters. -/
theorem of_mem_pieces
    {sep : α}
    {cs p : List α}
    (hMem : p ∈ pieces sep cs) :
    sep ∉ p ∧ ∀ c ∈ p, c ∈ cs := by
  fun_induction pieces sep cs generalizing p with
  | case1 =>
      rw [List.mem_singleton] at hMem
      simp [hMem]
  | case2 cs ih =>
      rcases List.mem_cons.mp hMem with rfl | hLater
      · simp
      · rcases ih hLater with ⟨hSep, hChars⟩
        exact ⟨hSep, fun c hC => List.mem_cons_of_mem _
          (hChars c hC)⟩
  | case3 d cs hOther q qs hPieces ih =>
      rw [hPieces] at ih
      rcases List.mem_cons.mp hMem with rfl | hLater
      · rcases ih List.mem_cons_self with ⟨hSep, hChars⟩
        refine ⟨?_, List.cons_subset_cons d hChars⟩
        rw [List.mem_cons, not_or]
        exact ⟨Ne.symm hOther, hSep⟩
      · rcases ih (List.mem_cons_of_mem q hLater) with
          ⟨hSep, hChars⟩
        exact ⟨hSep, fun c hC => List.mem_cons_of_mem d
          (hChars c hC)⟩
  | case4 d cs _ hPieces _ =>
      exact absurd hPieces (pieces_ne_nil sep cs)

/- What stands before a separator goes into the first piece. -/
theorem pieces_cons
    {sep c : α}
    (hOther : c ≠ sep)
    (cs : List α) :
    pieces sep (c :: cs) =
      (pieces sep cs).modifyHead (c :: ·) := by
  rw [pieces, if_neg hOther]
  cases hPieces : pieces sep cs with
  | nil => exact absurd hPieces (pieces_ne_nil sep cs)
  | cons p ps => rfl

theorem pieces_append
    {sep : α}
    {as : List α}
    (hSep : sep ∉ as)
    (bs : List α) :
    pieces sep (as ++ bs) =
      (pieces sep bs).modifyHead (as ++ ·) := by
  induction as with
  | nil =>
      rw [List.nil_append]
      cases pieces sep bs <;> rfl
  | cons a as ih =>
      rw [List.mem_cons, not_or] at hSep
      rw [List.cons_append, pieces_cons (Ne.symm hSep.1),
        ih hSep.2, List.modifyHead_modifyHead]
      rfl

/- The pieces are those that a list is split into. -/
theorem pieces_eq_splitOn
    (sep : α)
    (cs : List α) :
    pieces sep cs = cs.splitOn sep := by
  induction cs with
  | nil => rfl
  | cons c cs ih =>
      rw [List.splitOn_cons_eq_if_modifyHead, ← ih]
      by_cases hSep : c = sep
      · simp [pieces, hSep]
      · simp [pieces_cons hSep, hSep]

theorem pieces_intercalate
    {sep : α}
    {ps : List (List α)}
    (hSome : ps ≠ [])
    (hSep : ∀ p ∈ ps, sep ∉ p) :
    pieces sep ([sep].intercalate ps) = ps := by
  rw [pieces_eq_splitOn]
  exact List.splitOn_intercalate sep hSep hSome

theorem intercalate_pieces
    (sep : α)
    (cs : List α) :
    [sep].intercalate (pieces sep cs) = cs := by
  rw [pieces_eq_splitOn]
  exact List.intercalate_splitOn sep

end Pieces

------------------------------------------------------------
-- Texts
------------------------------------------------------------

theorem splitAt_of_not_mem
    {sep : Char}
    {s : String}
    (hSep : sep ∉ s.toList) :
    splitAt sep s = [s] := by
  simp [splitAt, pieces_of_not_mem hSep]

theorem joinWith_cons_cons
    (sep s t : String)
    (ss : List String) :
    joinWith sep (s :: t :: ss) =
      s ++ sep ++ joinWith sep (t :: ss) := rfl

theorem toList_joinWith
    (sep : String)
    (ss : List String) :
    (joinWith sep ss).toList =
      sep.toList.intercalate (ss.map String.toList) := by
  fun_induction joinWith sep ss with
  | case1 => rfl
  | case2 s => simp
  | case3 s ss hMore ih =>
      cases ss with
      | nil => exact absurd rfl hMore
      | cons t ss => simp [ih, List.intercalate_cons_cons]

/- Joined texts are found again, unless they hold slashes. -/
theorem splitAt_joinWith
    {ss : List String}
    (hSome : ss ≠ [])
    (hSlash : ∀ s ∈ ss, '/' ∉ s.toList) :
    splitAt '/' (joinWith "/" ss) = ss := by
  have hPieces :
      pieces '/' (joinWith "/" ss).toList =
        ss.map String.toList := by
    rw [toList_joinWith]
    exact pieces_intercalate (by simpa) (by simpa)
  rw [splitAt, hPieces]
  simp

/- Different texts without slashes are joined differently. -/
theorem joinWith_injective
    {ss ts : List String}
    (hS : ss ≠ [])
    (hT : ts ≠ [])
    (hSlashS : ∀ s ∈ ss, '/' ∉ s.toList)
    (hSlashT : ∀ t ∈ ts, '/' ∉ t.toList)
    (hJoined : joinWith "/" ss = joinWith "/" ts) :
    ss = ts := by
  rw [← splitAt_joinWith hS hSlashS, hJoined,
    splitAt_joinWith hT hSlashT]

end Text

namespace RawText

------------------------------------------------------------
-- Steps
------------------------------------------------------------

@[simp]
theorem bytes_slash :
    (ofText "/").bytes = [0x2f] := by
  decide

/- Steps are made of the other bytes. -/
theorem of_mem_steps
    {s t : RawText}
    (hMem : t ∈ s.steps) :
    0x2f ∉ t.bytes ∧ ∀ b ∈ t.bytes, b ∈ s.bytes := by
  rcases List.mem_map.mp hMem with ⟨p, hP, rfl⟩
  exact Text.of_mem_pieces hP

theorem steps_ne_nil
    (s : RawText) :
    s.steps ≠ [] := by
  intro hNil
  exact Text.pieces_ne_nil 0x2f s.bytes
    (List.map_eq_nil_iff.mp hNil)

theorem steps_append_slash_append
    (s t : RawText) :
    (s ++ ofText "/" ++ t).steps = s.steps ++ t.steps := by
  simp [steps, Text.pieces_append_sep]

theorem steps_append_slash
    (s : RawText) :
    (s ++ ofText "/").steps = s.steps ++ [ofText ""] := by
  simp [steps, Text.pieces_append_sep, Text.pieces, RawText.ext_iff]

theorem ofSteps_cons_cons
    (s t : RawText)
    (ss : List RawText) :
    ofSteps (s :: t :: ss) =
      s ++ ofText "/" ++ ofSteps (t :: ss) := rfl

theorem bytes_ofSteps
    (ss : List RawText) :
    (ofSteps ss).bytes = [0x2f].intercalate (ss.map bytes) := by
  fun_induction ofSteps ss with
  | case1 => rfl
  | case2 s => simp
  | case3 s ss hMore ih =>
      cases ss with
      | nil => exact absurd rfl hMore
      | cons t ss => simp [ih, List.intercalate_cons_cons]

/- Joined steps are found again, unless they hold slashes. -/
theorem steps_ofSteps
    {ss : List RawText}
    (hSome : ss ≠ [])
    (hSlash : ∀ s ∈ ss, 0x2f ∉ s.bytes) :
    (ofSteps ss).steps = ss := by
  have hPieces :
      Text.pieces 0x2f (ofSteps ss).bytes = ss.map bytes := by
    rw [bytes_ofSteps]
    exact Text.pieces_intercalate (by simpa) (by simpa)
  rw [steps, hPieces, List.map_map]
  exact List.map_id ss

/- What is split can be joined again. -/
theorem ofSteps_steps
    (s : RawText) :
    ofSteps s.steps = s := by
  ext1
  rw [bytes_ofSteps, steps, List.map_map]
  exact (congrArg _ (List.map_id _)).trans
    (Text.intercalate_pieces 0x2f s.bytes)

/- Different steps without slashes are joined differently. -/
theorem ofSteps_injective
    {ss ts : List RawText}
    (hS : ss ≠ [])
    (hT : ts ≠ [])
    (hSlashS : ∀ s ∈ ss, 0x2f ∉ s.bytes)
    (hSlashT : ∀ t ∈ ts, 0x2f ∉ t.bytes)
    (hJoined : ofSteps ss = ofSteps ts) :
    ss = ts := by
  rw [← steps_ofSteps hS hSlashS, hJoined,
    steps_ofSteps hT hSlashT]

theorem mem_ofSteps
    {b : UInt8}
    {ss : List RawText}
    (hMem : b ∈ (ofSteps ss).bytes) :
    b = 0x2f ∨ ∃ s ∈ ss, b ∈ s.bytes := by
  fun_induction ofSteps ss with
  | case1 => simp at hMem
  | case2 s => exact .inr ⟨s, List.mem_cons_self, hMem⟩
  | case3 s ss _ ih =>
      rw [bytes_append, bytes_append, List.mem_append,
        List.mem_append, bytes_slash,
        List.mem_singleton] at hMem
      rcases hMem with (hHead | hSep) | hTail
      · exact .inr ⟨s, List.mem_cons_self, hHead⟩
      · exact .inl hSep
      · rcases ih hTail with hSep | ⟨t, hT, hB⟩
        · exact .inl hSep
        · exact .inr ⟨t, List.mem_cons_of_mem s hT, hB⟩

theorem ofSteps_append
    {xs ys : List RawText}
    (hXs : xs ≠ [])
    (hYs : ys ≠ []) :
    ofSteps (xs ++ ys) =
      ofSteps xs ++ ofText "/" ++ ofSteps ys := by
  induction xs with
  | nil => exact absurd rfl hXs
  | cons x xs ih =>
      cases xs with
      | nil =>
          rcases List.exists_cons_of_ne_nil hYs with
            ⟨y, ys, rfl⟩
          exact ofSteps_cons_cons x y ys
      | cons x' xs =>
          rw [List.cons_append, List.cons_append,
            ofSteps_cons_cons, ← List.cons_append,
            ih (List.cons_ne_nil x' xs), ofSteps_cons_cons]
          simp only [append_assoc]

/- The last step ends all of them. -/
theorem suffix_ofSteps_concat
    (xs : List RawText)
    (s : RawText) :
    s.bytes <:+ (ofSteps (xs ++ [s])).bytes := by
  by_cases hXs : xs = []
  · rw [hXs]
    exact List.suffix_rfl
  · rw [ofSteps_append hXs (List.cons_ne_nil s []),
      bytes_append]
    exact List.suffix_append _ _

------------------------------------------------------------
-- Steps That Are Texts
------------------------------------------------------------

/- Slashes of a text are slashes among its bytes. -/
theorem pieces_encode
    (cs : List Char) :
    Text.pieces 0x2f (cs.flatMap String.utf8EncodeChar) =
      (Text.pieces '/' cs).map
        (fun p => p.flatMap String.utf8EncodeChar) := by
  induction cs with
  | nil => rfl
  | cons c cs ih =>
      by_cases hSlash : c = '/'
      · have hByte : String.utf8EncodeChar c = [0x2f] := by
          rw [hSlash]
          decide
        rw [List.flatMap_cons, hByte, List.singleton_append,
          Text.pieces, if_pos rfl, ih, Text.pieces,
          if_pos hSlash]
        rfl
      · have hByte : 0x2f ∉ String.utf8EncodeChar c :=
          fun hMem => hSlash (encode_of_mem hMem (by decide)).1
        rw [List.flatMap_cons, Text.pieces_append hByte, ih,
          Text.pieces_cons hSlash]
        cases Text.pieces '/' cs with
        | nil => rfl
        | cons p ps => rfl

theorem steps_ofText
    (s : String) :
    (ofText s).steps = (Text.splitAt '/' s).map ofText := by
  simp [steps, pieces_encode, Text.splitAt, ofText,
    Function.comp_def]

/- The steps of a text are texts. -/
theorem IsText.of_mem_steps
    {s t : RawText}
    (hText : IsText s)
    (hMem : t ∈ s.steps) :
    IsText t := by
  rw [← hText, steps_ofText] at hMem
  rcases List.mem_map.mp hMem with ⟨u, _, rfl⟩
  exact isText_ofText u

theorem isText_ofSteps
    {ss : List RawText}
    (hTexts : ∀ s ∈ ss, IsText s) :
    IsText (ofSteps ss) := by
  fun_induction ofSteps ss with
  | case1 => exact isText_ofText ""
  | case2 s => exact hTexts s List.mem_cons_self
  | case3 s ss _ ih =>
      rcases List.forall_mem_cons.mp hTexts with ⟨hHead, hTail⟩
      exact (hHead.append (isText_ofText "/")).append (ih hTail)

theorem toText_append_slash_append
    (s t : RawText) :
    (s ++ ofText "/" ++ t).toText =
      s.toText ++ "/" ++ t.toText := by
  have hChars :
      decode none (s.bytes ++ 0x2f :: t.bytes) =
        decode none s.bytes ++ '/' :: decode none t.bytes :=
    decode_append_plain (by simp) s.bytes (by decide) t.bytes
  rw [← String.toList_inj]
  simp [toText, hChars]

end RawText

end ModuleLint
