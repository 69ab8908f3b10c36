import Mathlib.Tactic.SplitIfs
import ModuleLint.Text.Raw

/-
  Bytes that are those of a text, and the text of any bytes.

  What is written of a text is read as that text.  Of other
  bytes, what is on either side of a plain byte is read by
  itself.

  Main declarations:
    * `RawText.decode_encode`, `RawText.toText_ofText`
    * `RawText.IsText`
    * `RawText.decode_append_plain`
-/

namespace ModuleLint

------------------------------------------------------------
-- First Bytes of Characters
------------------------------------------------------------

namespace HalfChar

/- No plain byte begins a character of several bytes. -/
theorem le_of_ofByte?
    {b : Nat}
    {h : HalfChar}
    (hByte : ofByte? b = some h) :
    0x80 ≤ b ∧ 0x80 ≤ h.low := by
  unfold ofByte? at hByte
  simp only [Bool.and_eq_true, decide_eq_true_eq,
    beq_iff_eq] at hByte
  split_ifs at hByte
  all_goals
    rw [← Option.some.inj hByte]
    exact ⟨by omega, by simp⟩

/- The first byte of a character of two. -/
theorem ofByte?_of_two
    {v : Nat}
    (hLow : 0x80 ≤ v)
    (hHigh : v < 0x800) :
    ofByte? (v / 64 + 0xc0) = some ⟨v / 64, 0x80, 0xbf, 0⟩ := by
  have hRange : 0xc2 ≤ v / 64 + 0xc0 ∧ v / 64 + 0xc0 ≤ 0xdf := by
    omega
  simp [ofByte?, hRange]

/- The first two bytes of a character of three. -/
theorem exists_ofByte?_of_three
    {v : Nat}
    (hLow : 0x800 ≤ v)
    (hHigh : v < 0x10000)
    (hWhole : v < 0xd800 ∨ 0xdfff < v) :
    ∃ low high,
      ofByte? (v / 4096 + 0xe0) =
          some ⟨v / 4096, low, high, 1⟩ ∧
        low ≤ v / 64 % 64 + 0x80 ∧
        v / 64 % 64 + 0x80 ≤ high := by
  unfold ofByte?
  simp only [Bool.and_eq_true, decide_eq_true_eq, beq_iff_eq]
  rw [if_neg (by omega)]
  by_cases hFirst : v / 4096 = 0
  · exact ⟨0xa0, 0xbf, by simp [hFirst], by omega, by omega⟩
  by_cases hLast : v / 4096 = 0xd
  · exact ⟨0x80, 0x9f, by simp [hLast], by omega, by omega⟩
  rw [if_neg (by omega), if_neg (by omega), if_pos (by omega),
    Nat.add_sub_cancel]
  exact ⟨0x80, 0xbf, rfl, by omega, by omega⟩

/- The first two bytes of a character of four. -/
theorem exists_ofByte?_of_four
    {v : Nat}
    (hLow : 0x10000 ≤ v)
    (hHigh : v < 0x110000) :
    ∃ low high,
      ofByte? (v / 262144 + 0xf0) =
          some ⟨v / 262144, low, high, 2⟩ ∧
        low ≤ v / 4096 % 64 + 0x80 ∧
        v / 4096 % 64 + 0x80 ≤ high := by
  unfold ofByte?
  simp only [Bool.and_eq_true, decide_eq_true_eq, beq_iff_eq]
  rw [if_neg (by omega), if_neg (by omega), if_neg (by omega),
    if_neg (by omega)]
  by_cases hFirst : v / 262144 = 0
  · exact ⟨0x90, 0xbf, by simp [hFirst], by omega, by omega⟩
  by_cases hLast : v / 262144 = 4
  · exact ⟨0x80, 0x8f, by simp [hLast], by omega, by omega⟩
  rw [if_neg (by omega), if_pos (by omega), Nat.add_sub_cancel]
  exact ⟨0x80, 0xbf, rfl, by omega, by omega⟩

end HalfChar

namespace RawText

------------------------------------------------------------
-- Byte by Byte
------------------------------------------------------------

theorem decode_plain
    {b : UInt8}
    (hPlain : b.toNat < 0x80)
    (bs : List UInt8) :
    decode none (b :: bs) =
      Char.ofNat b.toNat :: decode none bs := by
  simp [decode, step, begin, hPlain]

theorem decode_first
    {b : UInt8}
    {h : HalfChar}
    (hByte : HalfChar.ofByte? b.toNat = some h)
    (bs : List UInt8) :
    decode none (b :: bs) = decode (some h) bs := by
  have hHigh : ¬ b.toNat < 0x80 :=
    Nat.not_lt.mpr (HalfChar.le_of_ofByte? hByte).1
  simp [decode, step, begin, hHigh, hByte]

theorem decode_inner
    {bits low high later : Nat}
    {b : UInt8}
    (hLow : low ≤ b.toNat)
    (hHigh : b.toNat ≤ high)
    (bs : List UInt8) :
    decode (some ⟨bits, low, high, later + 1⟩) (b :: bs) =
      decode
        (some ⟨bits * 64 + b.toNat % 64, 0x80, 0xbf, later⟩)
        bs := by
  simp [decode, step, HalfChar.takes, HalfChar.bitsWith, hLow,
    hHigh]

theorem decode_last
    {bits low high : Nat}
    {b : UInt8}
    (hLow : low ≤ b.toNat)
    (hHigh : b.toNat ≤ high)
    (bs : List UInt8) :
    decode (some ⟨bits, low, high, 0⟩) (b :: bs) =
      Char.ofNat (bits * 64 + b.toNat % 64) ::
        decode none bs := by
  simp [decode, step, HalfChar.takes, HalfChar.bitsWith, hLow,
    hHigh]

/- What is written of a character is read as that character. -/
theorem decode_encode
    (c : Char)
    (bs : List UInt8) :
    decode none (String.utf8EncodeChar c ++ bs) =
      c :: decode none bs := by
  have hByte {n : Nat} (hN : n < 256) :
      (UInt8.ofNat n).toNat = n :=
    UInt8.toNat_ofNat_of_lt hN
  have hChar {n : Nat} (hN : n = c.val.toNat) :
      Char.ofNat n = c := by
    rw [hN]
    exact Char.ofNat_toNat c
  have hValid :
      c.val.toNat < 0xd800 ∨
        0xdfff < c.val.toNat ∧ c.val.toNat < 0x110000 :=
    c.valid
  unfold String.utf8EncodeChar
  generalize c.val.toNat = v at *
  dsimp only
  split_ifs with hOne hTwo hThree
  · have hB := hByte (n := v) (by omega)
    rw [List.singleton_append, decode_plain (by omega), hB,
      hChar rfl]
  · have hFirst :=
      HalfChar.ofByte?_of_two (v := v) (by omega) (by omega)
    have hB := hByte (n := v / 64 % 32 + 192) (by omega)
    have hB' := hByte (n := v % 64 + 128) (by omega)
    rw [show v / 64 + 0xc0 = v / 64 % 32 + 192 by omega,
      ← hB] at hFirst
    simp only [List.cons_append, List.nil_append]
    rw [decode_first hFirst,
      decode_last (by omega) (by omega), hB',
      hChar (by omega)]
  · rcases HalfChar.exists_ofByte?_of_three (v := v)
        (by omega) (by omega) (by omega) with
      ⟨low, high, hFirst, hLow, hHigh⟩
    have hB := hByte (n := v / 4096 % 16 + 224) (by omega)
    have hB' := hByte (n := v / 64 % 64 + 128) (by omega)
    have hB'' := hByte (n := v % 64 + 128) (by omega)
    rw [show v / 4096 + 0xe0 = v / 4096 % 16 + 224 by omega,
      ← hB] at hFirst
    simp only [List.cons_append, List.nil_append]
    rw [decode_first hFirst,
      decode_inner (by omega) (by omega),
      decode_last (by omega) (by omega), hB', hB'',
      hChar (by omega)]
  · rcases HalfChar.exists_ofByte?_of_four (v := v)
        (by omega) (by omega) with
      ⟨low, high, hFirst, hLow, hHigh⟩
    have hB := hByte (n := v / 262144 % 8 + 240) (by omega)
    have hB' := hByte (n := v / 4096 % 64 + 128) (by omega)
    have hB'' := hByte (n := v / 64 % 64 + 128) (by omega)
    have hB''' := hByte (n := v % 64 + 128) (by omega)
    rw [show v / 262144 + 0xf0 = v / 262144 % 8 + 240 by omega,
      ← hB] at hFirst
    simp only [List.cons_append, List.nil_append]
    rw [decode_first hFirst,
      decode_inner (by omega) (by omega),
      decode_inner (by omega) (by omega),
      decode_last (by omega) (by omega), hB', hB'', hB''',
      hChar (by omega)]

------------------------------------------------------------
-- Texts
------------------------------------------------------------

/- The text of the bytes of a text is that text. -/
@[simp]
theorem toText_ofText
    (s : String) :
    (ofText s).toText = s := by
  suffices hChars :
      ∀ cs : List Char,
        decode none (cs.flatMap String.utf8EncodeChar) = cs by
    rw [toText, ofText, hChars, String.ofList_toList]
  intro cs
  induction cs with
  | nil => rfl
  | cons c cs ih => rw [List.flatMap_cons, decode_encode, ih]

theorem ofText_injective :
    Function.Injective ofText :=
  Function.LeftInverse.injective toText_ofText

@[simp]
theorem ofText_inj
    {s t : String} :
    ofText s = ofText t ↔ s = t :=
  ofText_injective.eq_iff

theorem bytes_ofText
    (s : String) :
    (ofText s).bytes =
      s.toList.flatMap String.utf8EncodeChar := rfl

@[simp]
theorem bytes_append
    (s t : RawText) :
    (s ++ t).bytes = s.bytes ++ t.bytes := rfl

@[simp]
theorem bytes_empty :
    (ofText "").bytes = [] := rfl

theorem ofText_append
    (s t : String) :
    ofText (s ++ t) = ofText s ++ ofText t := by
  ext1
  simp [bytes_ofText]

theorem suffix_ofText
    {s t : String}
    (hEnd : s.toList <:+ t.toList) :
    (ofText s).bytes <:+ (ofText t).bytes := by
  rcases hEnd with ⟨front, hFront⟩
  rw [bytes_ofText, bytes_ofText, ← hFront, List.flatMap_append]
  exact List.suffix_append _ _

theorem append_assoc
    (s t u : RawText) :
    s ++ t ++ u = s ++ (t ++ u) := by
  ext1
  simp

@[simp]
theorem append_empty
    (s : RawText) :
    s ++ ofText "" = s := by
  ext1
  simp

@[simp]
theorem empty_append
    (s : RawText) :
    ofText "" ++ s = s := by
  ext1
  simp

@[simp]
theorem bytes_eq_nil_iff
    {s : RawText} :
    s.bytes = [] ↔ s = ofText "" := by
  rw [RawText.ext_iff, bytes_empty]

@[simp]
theorem isEmpty_iff
    {s : RawText} :
    s.isEmpty = true ↔ s = ofText "" := by
  rw [isEmpty, List.isEmpty_iff, bytes_eq_nil_iff]

theorem startsWith_iff
    {s front : RawText} :
    s.startsWith front = true ↔ front.bytes <+: s.bytes :=
  List.isPrefixOf_iff_prefix

theorem endsWith_iff
    {s back : RawText} :
    s.endsWith back = true ↔ back.bytes <:+ s.bytes :=
  List.isSuffixOf_iff_suffix

/- The bytes are those of a text. -/
def IsText
    (s : RawText) : Prop :=
  ofText s.toText = s

instance
    (s : RawText) :
    Decidable (IsText s) :=
  inferInstanceAs (Decidable (ofText s.toText = s))

theorem isText_ofText
    (s : String) :
    IsText (ofText s) := by
  rw [IsText, toText_ofText]

theorem isText_iff
    {s : RawText} :
    IsText s ↔ ∃ t : String, s = ofText t := by
  constructor
  · intro hText
    exact ⟨s.toText, hText.symm⟩
  · rintro ⟨t, rfl⟩
    exact isText_ofText t

theorem IsText.append
    {s t : RawText}
    (hS : IsText s)
    (hT : IsText t) :
    IsText (s ++ t) := by
  rcases isText_iff.mp hS with ⟨x, rfl⟩
  rcases isText_iff.mp hT with ⟨y, rfl⟩
  rw [← ofText_append]
  exact isText_ofText (x ++ y)

theorem text?_eq_some_iff
    {s : RawText}
    {t : String} :
    s.text? = some t ↔ s = ofText t := by
  unfold text?
  constructor
  · intro hSome
    split at hSome
    · next hText =>
        cases hSome
        exact hText.symm
    · cases hSome
  · rintro rfl
    simp

------------------------------------------------------------
-- Plain Bytes
------------------------------------------------------------

/- A plain byte stands for itself alone. -/
theorem encode_of_mem
    {c : Char}
    {b : UInt8}
    (hMem : b ∈ String.utf8EncodeChar c)
    (hPlain : b.toNat < 0x80) :
    c = Char.ofNat b.toNat ∧ String.utf8EncodeChar c = [b] := by
  unfold String.utf8EncodeChar at hMem ⊢
  dsimp only at hMem ⊢
  split_ifs at hMem ⊢ with hOne hTwo hThree
  · rw [List.mem_singleton] at hMem
    have hB : b.toNat = c.val.toNat := by
      rw [hMem, UInt8.toNat_ofNat']
      omega
    refine ⟨?_, by rw [hMem]⟩
    rw [hB]
    exact (Char.ofNat_toNat c).symm
  all_goals
    exfalso
    simp only [List.mem_cons, List.not_mem_nil, or_false] at hMem
    rcases hMem with rfl | rfl | rfl | rfl
    all_goals
      rw [UInt8.toNat_ofNat'] at hPlain
      omega

theorem mem_bytes_of_mem
    {s : String}
    {c : Char}
    {b : UInt8}
    (hEncode : String.utf8EncodeChar c = [b])
    (hMem : c ∈ s.toList) :
    b ∈ (ofText s).bytes := by
  rw [bytes_ofText, List.mem_flatMap]
  exact ⟨c, hMem, by simp [hEncode]⟩

/- Bytes after which no character has begun with a plain byte. -/
theorem low_of_step
    {half : Option HalfChar}
    {b : Nat}
    {h : HalfChar}
    (hStep : (step half b).2 = some h) :
    0x80 ≤ h.low := by
  have hBegin (hAgain : (begin b).2 = some h) : 0x80 ≤ h.low := by
    unfold begin at hAgain
    split at hAgain
    · cases hAgain
    · split at hAgain
      · next hByte =>
          cases hAgain
          exact (HalfChar.le_of_ofByte? hByte).2
      · cases hAgain
  unfold step at hStep
  split at hStep
  · exact hBegin hStep
  · split at hStep
    · split at hStep
      · cases hStep
      · cases hStep
        exact Nat.le_refl _
    · exact hBegin hStep

theorem decode_append_plain
    {half : Option HalfChar}
    (hHalf : ∀ h, half = some h → 0x80 ≤ h.low)
    (bs : List UInt8)
    {b : UInt8}
    (hPlain : b.toNat < 0x80)
    (cs : List UInt8) :
    decode half (bs ++ b :: cs) =
      decode half bs ++ Char.ofNat b.toNat :: decode none cs := by
  induction bs generalizing half with
  | nil =>
      cases half with
      | none => exact decode_plain hPlain cs
      | some h =>
          have hRefused : h.takes b.toNat = false := by
            have hLow := hHalf h rfl
            simp [HalfChar.takes, show ¬ h.low ≤ b.toNat by omega]
          simp [decode, step, begin, hRefused, hPlain]
  | cons d bs ih =>
      rw [List.cons_append, decode, decode,
        ih (fun h hStep => low_of_step hStep), List.append_assoc]

/- A text at the end, behind a plain byte, stays at the end. -/
theorem suffix_toText
    {b : UInt8}
    (hPlain : b.toNat < 0x80)
    {e : String}
    {s : RawText}
    (hEnd : b :: (ofText e).bytes <:+ s.bytes) :
    Char.ofNat b.toNat :: e.toList <:+ s.toText.toList := by
  rcases hEnd with ⟨front, hFront⟩
  have hText : decode none (ofText e).bytes = e.toList := by
    rw [← String.toList_ofList (l := decode none _)]
    exact congrArg String.toList (toText_ofText e)
  have hChars :
      decode none s.bytes =
        decode none front ++ Char.ofNat b.toNat :: e.toList := by
    rw [← hFront, decode_append_plain (by simp) front hPlain,
      hText]
  rw [toText, String.toList_ofList, hChars]
  exact List.suffix_append _ _

end RawText

end ModuleLint
