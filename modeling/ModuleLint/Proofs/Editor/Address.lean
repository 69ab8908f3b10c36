import ModuleLint.Editor.Uri
import ModuleLint.Proofs.Path.Relative

/-
  Addresses of files.

  An escaped byte can be told from a plain one, and neither is
  a slash, so different names are written differently.  Paths
  therefore have the same address just if they are the same
  path, however they are spelled.

  Main declarations:
    * `Uri.escapeName_injective`
    * `Uri.ofPath?_eq_some_iff`
    * `Uri.partsOf_eq_of_ofPath?_eq`, `Uri.ofPath?_congr`
-/

namespace ModuleLint

namespace Uri

------------------------------------------------------------
-- Names in Addresses
------------------------------------------------------------

/- A byte that is written as it is. -/
theorem toNat_of_not_escaped
    {b : UInt8}
    (hPlain : isEscaped b = false) :
    (Char.ofNat b.toNat).toNat = b.toNat ∧
      b.toNat ≠ 0x25 ∧ b.toNat ≠ 0x2f := by
  have hBound : b.toNat < 0x7f ∧
      b.toNat ≠ 0x25 ∧ b.toNat ≠ 0x2f := by
    simp only [isEscaped, Bool.or_eq_false_iff,
      decide_eq_false_iff_not, UInt8.not_le,
      UInt8.lt_iff_toNat_lt, List.contains_eq_mem,
      List.mem_cons, not_or] at hPlain
    exact ⟨hPlain.1.2, hPlain.2.2.2.2.1, hPlain.2.2.2.2.2.1⟩
  have hValid : b.toNat.isValidChar := Or.inl (by omega)
  refine ⟨?_, hBound.2⟩
  rw [Char.ofNat, dif_pos hValid]
  rfl

theorem toUpper_hexDigit_injective :
    ∀ m, m < 16 → ∀ n, n < 16 →
      (Json.hexDigit m).toUpper = (Json.hexDigit n).toUpper →
        m = n := by
  decide

theorem toUpper_hexDigit_ne_slash :
    ∀ n, n < 16 → (Json.hexDigit n).toUpper ≠ '/' := by
  decide

theorem escapeByte_ne_nil
    (b : UInt8) :
    escapeByte b ≠ [] := by
  unfold escapeByte
  split <;> simp

/- Where a byte was written can be seen from the front. -/
theorem escapeByte_append_cancel
    {b c : UInt8}
    {xs ys : List Char}
    (hSame : escapeByte b ++ xs = escapeByte c ++ ys) :
    b = c ∧ xs = ys := by
  have hB : b.toNat < 256 := b.toNat_lt
  have hC : c.toNat < 256 := c.toNat_lt
  have hMark : ∀ d : UInt8, isEscaped d = false →
      Char.ofNat d.toNat ≠ '%' := by
    intro d hPlain hChar
    rcases toNat_of_not_escaped hPlain with ⟨hCode, hPercent, _⟩
    rw [hChar] at hCode
    exact hPercent hCode.symm
  unfold escapeByte at hSame
  split at hSame
  · split at hSame
    · simp only [List.cons_append, List.nil_append,
        List.cons.injEq, true_and] at hSame
      have hHigh := toUpper_hexDigit_injective _ (by omega) _
        (by omega) hSame.1
      have hLow := toUpper_hexDigit_injective _ (by omega) _
        (by omega) hSame.2.1
      exact ⟨UInt8.toNat_inj.mp (by omega), hSame.2.2⟩
    · next hPlain =>
        have hFirst := (List.cons.inj hSame).1
        exact absurd hFirst.symm
          (hMark c (Bool.eq_false_iff.mpr hPlain))
  · next hPlainB =>
      have hPlainB := Bool.eq_false_iff.mpr hPlainB
      split at hSame
      · have hFirst := (List.cons.inj hSame).1
        exact absurd hFirst (hMark b hPlainB)
      · next hPlainC =>
          have hPlainC := Bool.eq_false_iff.mpr hPlainC
          rcases List.cons.inj hSame with ⟨hFirst, hRest⟩
          have hCode := congrArg Char.toNat hFirst
          rw [(toNat_of_not_escaped hPlainB).1,
            (toNat_of_not_escaped hPlainC).1] at hCode
          exact ⟨UInt8.toNat_inj.mp hCode, hRest⟩

theorem flatMap_escapeByte_injective
    {bs cs : List UInt8}
    (hSame : bs.flatMap escapeByte = cs.flatMap escapeByte) :
    bs = cs := by
  induction bs generalizing cs with
  | nil =>
      cases cs with
      | nil => rfl
      | cons c cs =>
          have hNil := (List.append_eq_nil_iff.mp hSame.symm).1
          exact absurd hNil (escapeByte_ne_nil c)
  | cons b bs ih =>
      cases cs with
      | nil =>
          have hNil := (List.append_eq_nil_iff.mp hSame).1
          exact absurd hNil (escapeByte_ne_nil b)
      | cons c cs =>
          rw [List.flatMap_cons, List.flatMap_cons] at hSame
          rcases escapeByte_append_cancel hSame with
            ⟨rfl, hRest⟩
          rw [ih hRest]

/- Different names are written differently. -/
theorem escapeName_injective
    {m n : RawText}
    (hSame : escapeName m = escapeName n) :
    m = n :=
  RawText.ext
    (flatMap_escapeByte_injective
      (String.ofList_injective hSame))

theorem slash_not_mem_escapeName
    (n : RawText) :
    '/' ∉ (escapeName n).toList := by
  unfold escapeName
  rw [String.toList_ofList]
  intro hMem
  rcases List.mem_flatMap.mp hMem with ⟨b, _, hB⟩
  have hByte : b.toNat < 256 := b.toNat_lt
  unfold escapeByte at hB
  split at hB
  · simp only [List.mem_cons, List.not_mem_nil, or_false] at hB
    rcases hB with hPercent | hHigh | hLow
    · exact absurd hPercent (by decide)
    · exact toUpper_hexDigit_ne_slash _ (by omega) hHigh.symm
    · exact toUpper_hexDigit_ne_slash _ (by omega) hLow.symm
  · next hPlain =>
      rcases toNat_of_not_escaped (Bool.eq_false_iff.mpr hPlain)
        with ⟨hCode, _, hSlash⟩
      rw [← List.mem_singleton.mp hB] at hCode
      exact hSlash hCode.symm

------------------------------------------------------------
-- Addresses
------------------------------------------------------------

/- A part that a step of a path can be. -/
def IsStep
    (p : Part) : Prop :=
  ∃ s, Part.ofStep? s = some p

theorem isStep_cases
    {p : Part}
    (hStep : IsStep p) :
    p = .parent ∨
      ∃ n, p = .name n ∧ n ≠ "" ∧ n ≠ ".." := by
  rcases hStep with ⟨s, hPart⟩
  unfold Part.ofStep? at hPart
  split at hPart
  · cases hPart
  · next hIdle =>
      split at hPart
      · cases hPart
        exact .inl rfl
      · next hParent =>
          cases hPart
          right
          exact ⟨s, rfl, by rintro rfl; simp at hIdle,
            by rintro rfl; simp at hParent⟩

theorem escapeName_eq_empty_iff
    {n : RawText} :
    escapeName n = "" ↔ n = "" := by
  constructor
  · intro hEmpty
    exact escapeName_injective (hEmpty.trans (by decide +kernel))
  · rintro rfl
    decide +kernel

theorem escapeName_parent :
    escapeName ".." = ".." := by
  decide +kernel

/- A step is written as a name of its own. -/
theorem partText_of_isStep
    {p : Part}
    (hStep : IsStep p) :
    ∃ n, partText p = some n ∧ n ≠ "" ∧ '/' ∉ n.toList := by
  rcases isStep_cases hStep with rfl | ⟨n, rfl, hSome, _⟩
  · exact ⟨"..", rfl, by decide, by decide⟩
  · exact ⟨escapeName n, rfl,
      fun hEmpty => hSome (escapeName_eq_empty_iff.mp hEmpty),
      slash_not_mem_escapeName n⟩

theorem partText_inj
    {p q : Part}
    (hP : IsStep p)
    (hQ : IsStep q)
    (hSame : partText p = partText q) :
    p = q := by
  have hParent : ∀ n, some (escapeName n) = some ".." →
      n = ".." := by
    intro n hText
    exact escapeName_injective
      ((Option.some.inj hText).trans escapeName_parent.symm)
  rcases isStep_cases hP with rfl | ⟨m, rfl, _, hM⟩
  · rcases isStep_cases hQ with rfl | ⟨n, rfl, _, hN⟩
    · rfl
    · exact absurd (hParent n hSame.symm) hN
  · rcases isStep_cases hQ with rfl | ⟨n, rfl, _, _⟩
    · exact absurd (hParent m hSame) hM
    · rw [escapeName_injective (Option.some.inj hSame)]

/- Different steps are written differently. -/
theorem eq_of_filterMap_partText_eq
    {ps qs : List Part}
    (hPs : ∀ p ∈ ps, IsStep p)
    (hQs : ∀ q ∈ qs, IsStep q)
    (hSame : ps.filterMap partText = qs.filterMap partText) :
    ps = qs := by
  induction ps generalizing qs with
  | nil =>
      cases qs with
      | nil => rfl
      | cons q qs =>
          rcases partText_of_isStep (hQs q List.mem_cons_self)
            with ⟨n, hText, _⟩
          rw [List.filterMap_cons_some hText] at hSame
          cases hSame
  | cons p ps ih =>
      rcases List.forall_mem_cons.mp hPs with ⟨hP, hPs⟩
      rcases partText_of_isStep hP with ⟨n, hText, _⟩
      rw [List.filterMap_cons_some hText] at hSame
      cases qs with
      | nil => cases hSame
      | cons q qs =>
          rcases List.forall_mem_cons.mp hQs with ⟨hQ, hQs⟩
          rcases partText_of_isStep hQ with ⟨m, hText', _⟩
          rw [List.filterMap_cons_some hText'] at hSame
          rcases List.cons.inj hSame with ⟨hHead, hTail⟩
          rw [partText_inj hP hQ
              (by rw [hText, hText', hHead]),
            ih hPs hQs hTail]

/- The names of an address, the first one behind two slashes. -/
def names
    (path : RawText) : List String :=
  ((Path.ofText path).steps.filterMap Part.ofStep?).filterMap
    partText

theorem join_slashes
    {ns : List String}
    (hSome : ns ≠ []) :
    String.join (ns.map (fun n => "/" ++ n)) =
      "/" ++ Text.joinWith "/" ns := by
  induction ns with
  | nil => exact absurd rfl hSome
  | cons n ns ih =>
      cases ns with
      | nil => simp [Text.joinWith]
      | cons m ns =>
          rw [List.map_cons, String.join_cons,
            ih (List.cons_ne_nil m ns),
            Text.joinWith_cons_cons]
          simp only [String.append_assoc]

/- The address of a path consists of its names. -/
theorem ofPath?_of_isAbsolute
    {path : RawText}
    (hPath : Path.isAbsolute path = true) :
    ofPath? path =
      some
        ("file://" ++ ("/" ++ Text.joinWith "/" (names path))) := by
  have hNames :
      (Path.partsOf path).filterMap partText = names path := by
    rw [Path.partsOf_of_isAbsolute hPath]
    rfl
  unfold ofPath?
  rw [if_pos hPath, hNames]
  by_cases hNone : names path = []
  · rw [hNone]
    rfl
  · rw [← join_slashes hNone]
    exact if_neg (by simpa using hNone)

theorem ofPath?_eq_some_iff
    {path : RawText}
    {uri : String} :
    ofPath? path = some uri ↔
      Path.isAbsolute path = true ∧
        "file://" ++ ("/" ++ Text.joinWith "/" (names path)) =
          uri := by
  by_cases hPath : Path.isAbsolute path = true
  · rw [ofPath?_of_isAbsolute hPath, Option.some_inj]
    exact (and_iff_right hPath).symm
  · unfold ofPath?
    rw [if_neg hPath]
    simp [hPath]

theorem joinWith_inj
    {ns ms : List String}
    (hNs : ∀ n ∈ ns, n ≠ "" ∧ '/' ∉ n.toList)
    (hMs : ∀ m ∈ ms, m ≠ "" ∧ '/' ∉ m.toList)
    (hSame : Text.joinWith "/" ns = Text.joinWith "/" ms) :
    ns = ms := by
  have hNone :
      ∀ ks : List String, (∀ k ∈ ks, k ≠ "" ∧ '/' ∉ k.toList) →
        Text.joinWith "/" ks = "" → ks = [] := by
    intro ks hKs hEmpty
    by_contra hSome
    have hSplit := Text.splitAt_joinWith hSome
      (fun k hMem => (hKs k hMem).2)
    rw [hEmpty] at hSplit
    have hMem : "" ∈ ks := by
      rw [← hSplit]
      exact List.mem_singleton_self ""
    exact (hKs "" hMem).1 rfl
  by_cases hN : ns = []
  · rw [hN] at hSame
    rw [hN, hNone ms hMs hSame.symm]
  · by_cases hM : ms = []
    · rw [hM] at hSame
      exact absurd (hNone ns hNs hSame) hN
    · exact Text.joinWith_injective hN hM
        (fun n hMem => (hNs n hMem).2)
        (fun m hMem => (hMs m hMem).2) hSame

/- Different paths have different addresses. -/
theorem partsOf_eq_of_ofPath?_eq
    {p q : RawText}
    {uri : String}
    (hP : ofPath? p = some uri)
    (hQ : ofPath? q = some uri) :
    Path.partsOf p = Path.partsOf q := by
  have hSteps :
      ∀ path, ∀ part ∈
        (Path.ofText path).steps.filterMap Part.ofStep?,
          IsStep part := by
    intro path part hMem
    rcases List.mem_filterMap.mp hMem with ⟨s, _, hPart⟩
    exact ⟨s, hPart⟩
  have hNames :
      ∀ path, ∀ n ∈ names path, n ≠ "" ∧ '/' ∉ n.toList := by
    intro path n hMem
    rcases List.mem_filterMap.mp hMem with ⟨part, hPart, hText⟩
    rcases partText_of_isStep (hSteps path part hPart) with
      ⟨m, hText', hSome, hSlash⟩
    rw [hText, Option.some_inj] at hText'
    rw [hText']
    exact ⟨hSome, hSlash⟩
  rcases ofPath?_eq_some_iff.mp hP with ⟨hAbsoluteP, hUriP⟩
  rcases ofPath?_eq_some_iff.mp hQ with ⟨hAbsoluteQ, hUriQ⟩
  rw [← hUriQ] at hUriP
  have hJoined := String.append_right_inj _ |>.mp
    (String.append_right_inj _ |>.mp hUriP)
  rw [Path.partsOf_of_isAbsolute hAbsoluteP,
    Path.partsOf_of_isAbsolute hAbsoluteQ,
    eq_of_filterMap_partText_eq (hSteps p) (hSteps q)
      (joinWith_inj (hNames p) (hNames q) hJoined)]

/- The same path has the same address, however it is spelled. -/
theorem ofPath?_congr
    {p q : RawText}
    (hP : Path.isAbsolute p = true)
    (hQ : Path.isAbsolute q = true)
    (hParts : Path.partsOf p = Path.partsOf q) :
    ofPath? p = ofPath? q := by
  unfold ofPath?
  rw [hP, hQ, hParts]

end Uri

end ModuleLint
