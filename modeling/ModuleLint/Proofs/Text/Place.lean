import Mathlib.Data.List.Induction
import Mathlib.Data.List.TakeWhile
import ModuleLint.Text.Place

/-
  Lines and columns say where an offset is.

  An offset between two characters has a front, the characters
  of the text ahead of it.  The front ends in a line, what is
  behind the last newline of it.  The line number counts the
  newlines of the front and the column the characters of that
  line, so that a longer front comes later in this order.

  Numbers of 32 bits suffice for a text of less than 2 ^ 32
  bytes, but for the end of a text that leaves no number for
  what comes behind it.

  Main declarations:
    * `Text.IsFront`, `Text.EndsIn`
    * `Text.isValid_iff_exists_isFront`
    * `Text.IsBrimful`, `Text.AtBrim`
    * `Text.lineColumn_of_isFront`
    * `Text.lineColumn_lt`
    * `Text.lineColumn_faithful`
    * `Text.lineColumn_newlines_wraps`
-/

namespace ModuleLint

namespace Text

------------------------------------------------------------
-- Bytes
------------------------------------------------------------

theorem byteLength_append
    (as bs : List Char) :
    byteLength (as ++ bs) = byteLength as + byteLength bs := by
  induction as with
  | nil => simp [byteLength]
  | cons a as ih =>
      rw [List.cons_append, byteLength, ih, byteLength,
        Nat.add_assoc]

/- Every character takes a byte at least. -/
theorem length_le_byteLength
    (cs : List Char) :
    cs.length ≤ byteLength cs := by
  induction cs with
  | nil => exact Nat.le_refl 0
  | cons c cs ih =>
      have hPos := c.utf8Size_pos
      rw [List.length_cons, byteLength]
      omega

theorem length_flatMap_utf8EncodeChar
    (cs : List Char) :
    (cs.flatMap String.utf8EncodeChar).length =
      byteLength cs := by
  induction cs with
  | nil => rfl
  | cons c cs ih =>
      rw [List.flatMap_cons, List.length_append, ih,
        String.length_utf8EncodeChar, byteLength]

theorem toList_data_toByteArray
    (s : String) :
    s.toByteArray.data.toList =
      s.toList.flatMap String.utf8EncodeChar := by
  rw [← String.ofList_toList (s := s), String.toByteArray_ofList,
    String.toList_ofList, List.utf8Encode,
    List.toList_data_toByteArray]

theorem byteLength_toList
    (s : String) :
    byteLength s.toList = s.utf8ByteSize := by
  rw [← length_flatMap_utf8EncodeChar, ← toList_data_toByteArray,
    ← String.size_toByteArray]
  rfl

/- The bytes of characters that take more than one are large. -/
theorem le_of_mem_utf8EncodeChar
    {c : Char}
    {b : UInt8}
    (hLong : 127 < c.toNat)
    (hMem : b ∈ String.utf8EncodeChar c) :
    128 ≤ b.toNat := by
  have hFirst : ¬ c.val.toNat ≤ 127 := Nat.not_le_of_lt hLong
  have hMod : ∀ n, (UInt8.ofNat n).toNat = n % 256 :=
    fun _ => UInt8.toNat_ofNat'
  simp only [String.utf8EncodeChar, if_neg hFirst] at hMem
  split at hMem
  · simp only [List.mem_cons, List.not_mem_nil, or_false] at hMem
    rcases hMem with rfl | rfl <;> rw [hMod] <;> omega
  · split at hMem <;>
      simp only [List.mem_cons, List.not_mem_nil, or_false]
        at hMem
    · rcases hMem with rfl | rfl | rfl <;> rw [hMod] <;> omega
    · rcases hMem with rfl | rfl | rfl | rfl <;>
        rw [hMod] <;> omega

/- No character but a newline has the byte of a newline. -/
theorem count_utf8EncodeChar
    (c : Char) :
    (String.utf8EncodeChar c).count 10 = [c].count '\n' := by
  by_cases hLong : 127 < c.toNat
  · rw [List.count_eq_zero.mpr, List.count_eq_zero.mpr]
    · rw [List.mem_singleton]
      rintro rfl
      exact absurd hLong (by decide)
    · intro hMem
      exact absurd (le_of_mem_utf8EncodeChar hLong hMem)
        (by decide)
  · have hOne :
        String.utf8EncodeChar c = [UInt8.ofNat c.toNat] :=
      if_pos (Nat.le_of_not_lt hLong)
    have hSame : UInt8.ofNat c.toNat = 10 ↔ c = '\n' := by
      rw [← UInt8.toNat_inj, UInt8.toNat_ofNat',
        ← Char.toNat_inj, Nat.mod_eq_of_lt (by omega)]
      rfl
    simp only [hOne, List.count_singleton, beq_iff_eq, hSame]

theorem count_flatMap_utf8EncodeChar
    (cs : List Char) :
    (cs.flatMap String.utf8EncodeChar).count 10 =
      cs.count '\n' := by
  induction cs with
  | nil => rfl
  | cons c cs ih =>
      rw [List.flatMap_cons, List.count_append, ih,
        count_utf8EncodeChar, ← List.count_append,
        List.singleton_append]

------------------------------------------------------------
-- Fronts
------------------------------------------------------------

/-
  The characters of a text ahead of an offset that lies between
  two of them or at an end of the text.
-/
def IsFront
    (source : String)
    (offset : Nat)
    (front : List Char) : Prop :=
  front <+: source.toList ∧ byteLength front = offset

theorem isValid_iff_exists_isFront
    {source : String}
    {offset : Nat} :
    String.Pos.Raw.IsValid source ⟨offset⟩ ↔
      ∃ front, IsFront source offset front := by
  rw [String.Pos.Raw.isValid_iff_exists_append]
  constructor
  · rintro ⟨s, t, rfl, hEnd⟩
    refine ⟨s.toList, ?_, ?_⟩
    · rw [String.toList_append]
      exact List.prefix_append _ _
    · rw [byteLength_toList]
      exact (congrArg String.Pos.Raw.byteIdx hEnd).symm
  · rintro ⟨front, ⟨rest, hRest⟩, rfl⟩
    refine ⟨.ofList front, .ofList rest, ?_, ?_⟩
    · rw [← String.toList_inj, ← hRest]
      simp
    · rw [String.Pos.Raw.ext_iff, String.byteIdx_rawEndPos,
        ← byteLength_toList, String.toList_ofList]

theorem IsFront.le_size
    {source : String}
    {offset : Nat}
    {front : List Char}
    (hFront : IsFront source offset front) :
    offset ≤ source.utf8ByteSize := by
  rcases hFront with ⟨⟨rest, hRest⟩, rfl⟩
  rw [← byteLength_toList, ← hRest, byteLength_append]
  exact Nat.le_add_right _ _

/- The front is as many bytes as the offset says. -/
theorem IsFront.count_bytes
    {source : String}
    {offset : Nat}
    {front : List Char}
    (hFront : IsFront source offset front) :
    (source.toUTF8.data.toList.take offset).count 10 =
      front.count '\n' := by
  rcases hFront with ⟨⟨rest, hRest⟩, rfl⟩
  rw [String.toUTF8_eq_toByteArray, toList_data_toByteArray,
    ← hRest, List.flatMap_append,
    ← length_flatMap_utf8EncodeChar, List.take_left,
    count_flatMap_utf8EncodeChar]

/- An offset has one front. -/
theorem IsFront.unique
    {source : String}
    {offset : Nat}
    {f₁ f₂ : List Char}
    (hFront₁ : IsFront source offset f₁)
    (hFront₂ : IsFront source offset f₂) :
    f₁ = f₂ := by
  have hNil :
      ∀ {f gap : List Char},
        byteLength (f ++ gap) = byteLength f → gap = [] := by
    intro f gap hSame
    have hLength := length_le_byteLength gap
    rw [byteLength_append] at hSame
    exact List.eq_nil_of_length_eq_zero (by omega)
  rcases hFront₁ with ⟨hPrefix₁, hSize₁⟩
  rcases hFront₂ with ⟨hPrefix₂, hSize₂⟩
  rcases List.prefix_or_prefix_of_prefix hPrefix₁ hPrefix₂ with
    ⟨gap, rfl⟩ | ⟨gap, rfl⟩
  · rw [hNil (hSize₂.trans hSize₁.symm), List.append_nil]
  · rw [hNil (hSize₁.trans hSize₂.symm), List.append_nil]

/- Of two fronts of a text the longer one goes on from the other. -/
theorem IsFront.exists_gap
    {source : String}
    {o₁ o₂ : Nat}
    {f₁ f₂ : List Char}
    (hFront₁ : IsFront source o₁ f₁)
    (hFront₂ : IsFront source o₂ f₂)
    (hLt : o₁ < o₂) :
    ∃ gap, gap ≠ [] ∧ f₂ = f₁ ++ gap := by
  rcases hFront₁ with ⟨hPrefix₁, rfl⟩
  rcases hFront₂ with ⟨hPrefix₂, rfl⟩
  rcases List.prefix_or_prefix_of_prefix hPrefix₁ hPrefix₂ with
    ⟨gap, rfl⟩ | ⟨gap, rfl⟩
  · refine ⟨gap, ?_, rfl⟩
    rintro rfl
    rw [List.append_nil] at hLt
    exact Nat.lt_irrefl _ hLt
  · rw [byteLength_append] at hLt
    omega

------------------------------------------------------------
-- Lines
------------------------------------------------------------

/- The line is what is behind the last newline, if there is one. -/
def EndsIn
    (front line : List Char) : Prop :=
  '\n' ∉ line ∧
    (front = line ∨ ∃ above, front = above ++ '\n' :: line)

theorem takeWhile_append_newline
    {line : List Char}
    (hLine : '\n' ∉ line)
    (rest : List Char) :
    (line.reverse ++ rest).takeWhile (· != '\n') =
      line.reverse ++ rest.takeWhile (· != '\n') := by
  refine List.takeWhile_append_of_pos ?_
  intro c hMem
  rw [bne_iff_ne]
  rintro rfl
  exact hLine (List.mem_reverse.mp hMem)

theorem EndsIn.takeWhile_eq
    {front line : List Char}
    (hEnds : EndsIn front line) :
    front.reverse.takeWhile (· != '\n') = line.reverse := by
  rcases hEnds with ⟨hLine, rfl | ⟨above, rfl⟩⟩
  · simpa using takeWhile_append_newline hLine []
  · rw [List.reverse_append, List.reverse_cons,
      List.append_assoc, takeWhile_append_newline hLine]
    simp

theorem EndsIn.unique
    {front line line' : List Char}
    (hEnds : EndsIn front line)
    (hEnds' : EndsIn front line') :
    line = line' := by
  rw [← List.reverse_inj, ← hEnds.takeWhile_eq,
    hEnds'.takeWhile_eq]

theorem endsIn_newline
    (front : List Char) :
    EndsIn (front ++ ['\n']) [] :=
  ⟨List.not_mem_nil, Or.inr ⟨front, rfl⟩⟩

/- The line grows by characters that are no newlines. -/
theorem EndsIn.append
    {front line gap : List Char}
    (hEnds : EndsIn front line)
    (hGap : '\n' ∉ gap) :
    EndsIn (front ++ gap) (line ++ gap) := by
  refine ⟨?_, ?_⟩
  · rw [List.mem_append, not_or]
    exact ⟨hEnds.1, hGap⟩
  · rcases hEnds.2 with rfl | ⟨above, rfl⟩
    · exact Or.inl rfl
    · exact Or.inr ⟨above, by simp⟩

theorem exists_endsIn
    (front : List Char) :
    ∃ line, EndsIn front line := by
  induction front using List.reverseRecOn with
  | nil => exact ⟨[], List.not_mem_nil, Or.inl rfl⟩
  | append_singleton front c ih =>
      by_cases hChar : c = '\n'
      · rw [hChar]
        exact ⟨[], endsIn_newline front⟩
      · rcases ih with ⟨line, hEnds⟩
        refine ⟨line ++ [c], hEnds.append ?_⟩
        rw [List.mem_singleton]
        exact Ne.symm hChar

/- Newlines and the characters of the line share no byte. -/
theorem EndsIn.count_add_length_le
    {front line : List Char}
    (hEnds : EndsIn front line) :
    front.count '\n' + line.length ≤ byteLength front := by
  refine Nat.le_trans ?_ (length_le_byteLength front)
  rcases hEnds with ⟨hLine, rfl | ⟨above, rfl⟩⟩
  · rw [List.count_eq_zero.mpr hLine, Nat.zero_add]
  · have hAbove := above.count_le_length (a := '\n')
    rw [List.count_append, List.count_cons_self,
      List.count_eq_zero.mpr hLine, List.length_append,
      List.length_cons]
    omega

------------------------------------------------------------
-- Places
------------------------------------------------------------

/- What ends at or before the end of a front is the front. -/
theorem before_append
    (front rest : List Char)
    (n : Nat)
    (seen : List Char) :
    before (n + byteLength front) (front ++ rest) n seen =
      (front.reverse ++ seen, n + byteLength front) := by
  induction front generalizing n seen with
  | nil =>
      cases rest with
      | nil => rfl
      | cons c rest =>
          have hPos := c.utf8Size_pos
          exact if_neg (by rw [byteLength]; omega)
  | cons c front ih =>
      rw [List.cons_append, before, byteLength,
        if_pos (by omega), ← Nat.add_assoc, ih,
        List.reverse_cons, List.append_assoc]
      rfl

theorem IsFront.before_eq
    {source : String}
    {offset : Nat}
    {front : List Char}
    (hFront : IsFront source offset front) :
    before offset source.toList 0 [] =
      (front.reverse, offset) := by
  rcases hFront with ⟨⟨rest, hRest⟩, rfl⟩
  rw [← hRest]
  simpa using before_append front rest 0 []

/- The column counts the characters of the line. -/
theorem columnAt_of_isFront
    {source : String}
    {offset : Nat}
    {front line : List Char}
    (hFront : IsFront source offset front)
    (hEnds : EndsIn front line) :
    columnAt source offset = ordinal line.length := by
  simp [columnAt, Nat.min_eq_left hFront.le_size,
    hFront.before_eq, hEnds.takeWhile_eq]

/- The line number counts the newlines ahead. -/
theorem lineColumn_of_isFront
    {source : String}
    {offset : Nat}
    {front line : List Char}
    (hFront : IsFront source offset front)
    (hEnds : EndsIn front line) :
    lineColumn source offset =
      (ordinal (front.count '\n'), ordinal line.length) := by
  simp [lineColumn, Nat.min_eq_left hFront.le_size,
    hFront.before_eq, columnAt_of_isFront hFront hEnds]

/- A place that went over a front has the same line and column. -/
theorem foldl_after
    {front line : List Char}
    (hEnds : EndsIn front line) :
    front.foldl Place.after .origin =
      ⟨byteLength front, front.count '\n' + 1,
        line.length + 1⟩ := by
  induction front using List.reverseRecOn generalizing line with
  | nil =>
      rw [hEnds.unique ⟨List.not_mem_nil, Or.inl rfl⟩]
      rfl
  | append_singleton front c ih =>
      rcases exists_endsIn front with ⟨last, hLast⟩
      rw [List.foldl_append, ih hLast, byteLength_append]
      by_cases hChar : c = '\n'
      · subst hChar
        rw [hEnds.unique (endsIn_newline front)]
        have hByte : '\n'.utf8Size = 1 := rfl
        simp [Place.after, byteLength, hByte]
      · have hNew : '\n' ∉ [c] := by
          rw [List.mem_singleton]
          exact Ne.symm hChar
        rw [hEnds.unique (hLast.append hNew), List.count_append,
          List.count_eq_zero.mpr hNew]
        simp [Place.after, byteLength, hChar]

------------------------------------------------------------
-- Numbers of 32 Bits
------------------------------------------------------------

/-
  The text holds as many newlines, or as many characters in its
  one line, as there are numbers of 32 bits from one on.
-/
def IsBrimful
    (source : String) : Prop :=
  source.length + 1 = UInt32.size ∧
    ((∀ c ∈ source.toList, c = '\n') ∨ '\n' ∉ source.toList)

/- The offset is the end of a text that is brimful. -/
def AtBrim
    (source : String)
    (offset : Nat) : Prop :=
  IsBrimful source ∧ offset = source.utf8ByteSize

/- A front with a character for each byte is the whole text. -/
theorem IsFront.eq_toList
    {source : String}
    {offset : Nat}
    {front : List Char}
    (hFront : IsFront source offset front)
    (hAll : source.utf8ByteSize ≤ front.length) :
    front = source.toList := by
  rcases hFront with ⟨⟨rest, hRest⟩, _⟩
  rw [← byteLength_toList, ← hRest, byteLength_append] at hAll
  have hBytes := length_le_byteLength front
  have hLength := length_le_byteLength rest
  have hNil : rest = [] :=
    List.eq_nil_of_length_eq_zero (by omega)
  rw [← hRest, hNil, List.append_nil]

/- Neither the newlines nor the last line outgrow the text. -/
theorem IsFront.counts_le
    {source : String}
    {offset : Nat}
    {front line : List Char}
    (hFront : IsFront source offset front)
    (hEnds : EndsIn front line) :
    front.count '\n' + line.length ≤ source.utf8ByteSize := by
  have hBytes := hEnds.count_add_length_le
  rw [hFront.2] at hBytes
  exact Nat.le_trans hBytes hFront.le_size

/- Elsewhere there are numbers for the line and the column. -/
theorem IsFront.fits
    {source : String}
    {offset : Nat}
    {front line : List Char}
    (hSize : source.utf8ByteSize < UInt32.size)
    (hFront : IsFront source offset front)
    (hEnds : EndsIn front line)
    (hInside : ¬ AtBrim source offset) :
    front.count '\n' + 1 < UInt32.size ∧
      line.length + 1 < UInt32.size := by
  have hBytes := length_le_byteLength front
  have hOffset := hFront.le_size
  rw [hFront.2] at hBytes
  -- A number can only run out if the front is all of the text.
  have hWhole :
      UInt32.size ≤ front.length + 1 →
        front = source.toList ∧
          source.length + 1 = UInt32.size ∧
          offset = source.utf8ByteSize := by
    intro hLong
    have hSame := hFront.eq_toList (by omega)
    refine ⟨hSame, ?_, by omega⟩
    rw [← String.length_toList, ← hSame]
    omega
  constructor
  · by_contra hMany
    have hCount := front.count_le_length (a := '\n')
    rcases hWhole (by omega) with ⟨hSame, hLength, hEnd⟩
    refine hInside ⟨⟨hLength, Or.inl ?_⟩, hEnd⟩
    rw [← hSame]
    intro c hMem
    exact (List.count_eq_length.mp (by omega) c hMem).symm
  · by_contra hLong
    rcases hEnds with ⟨hLine, rfl | ⟨above, rfl⟩⟩
    · rcases hWhole (by omega) with ⟨hSame, hLength, hEnd⟩
      exact hInside ⟨⟨hLength, Or.inr (hSame ▸ hLine)⟩, hEnd⟩
    · rw [List.length_append, List.length_cons] at hBytes
      omega

/- The numbers count what they are meant to count. -/
theorem toNat_lineColumn
    {source : String}
    {offset : Nat}
    {front line : List Char}
    (hFront : IsFront source offset front)
    (hEnds : EndsIn front line)
    (hFits :
      front.count '\n' + 1 < UInt32.size ∧
        line.length + 1 < UInt32.size) :
    (lineColumn source offset).1.toNat = front.count '\n' + 1 ∧
      (lineColumn source offset).2.toNat = line.length + 1 := by
  rw [lineColumn_of_isFront hFront hEnds]
  exact ⟨toNat_ordinal hFits.1, toNat_ordinal hFits.2⟩

/- Behind a gap there are more lines, or more of the last one. -/
theorem IsFront.counts_lt
    {source : String}
    {o₁ o₂ : Nat}
    {f₁ f₂ l₁ l₂ : List Char}
    (hFront₁ : IsFront source o₁ f₁)
    (hFront₂ : IsFront source o₂ f₂)
    (hEnds₁ : EndsIn f₁ l₁)
    (hEnds₂ : EndsIn f₂ l₂)
    (hLt : o₁ < o₂) :
    f₁.count '\n' < f₂.count '\n' ∨
      f₁.count '\n' = f₂.count '\n' ∧ l₁.length < l₂.length := by
  rcases hFront₁.exists_gap hFront₂ hLt with ⟨gap, hSome, rfl⟩
  rw [List.count_append]
  by_cases hGap : '\n' ∈ gap
  · have hMore := List.count_pos_iff.mpr hGap
    left
    omega
  · have hMore := List.length_pos_iff.mpr hSome
    rw [hEnds₂.unique (hEnds₁.append hGap),
      List.count_eq_zero.mpr hGap, List.length_append]
    right
    omega

/- A later offset is on a later line or further on in its line. -/
theorem lineColumn_lt
    {source : String}
    {o₁ o₂ : Nat}
    (hSize : source.utf8ByteSize < UInt32.size)
    (hValid₁ : String.Pos.Raw.IsValid source ⟨o₁⟩)
    (hValid₂ : String.Pos.Raw.IsValid source ⟨o₂⟩)
    (hLt : o₁ < o₂)
    (hInside : ¬ AtBrim source o₂) :
    Prod.Lex (· < ·) (· < ·) (lineColumn source o₁)
      (lineColumn source o₂) := by
  rcases isValid_iff_exists_isFront.mp hValid₁ with
    ⟨f₁, hFront₁⟩
  rcases isValid_iff_exists_isFront.mp hValid₂ with
    ⟨f₂, hFront₂⟩
  rcases exists_endsIn f₁ with ⟨l₁, hEnds₁⟩
  rcases exists_endsIn f₂ with ⟨l₂, hEnds₂⟩
  have hInside₁ : ¬ AtBrim source o₁ := by
    rintro ⟨_, hEnd⟩
    have hLe := hFront₂.le_size
    omega
  rcases toNat_lineColumn hFront₁ hEnds₁
      (hFront₁.fits hSize hEnds₁ hInside₁) with
    ⟨hLine₁, hColumn₁⟩
  rcases toNat_lineColumn hFront₂ hEnds₂
      (hFront₂.fits hSize hEnds₂ hInside) with
    ⟨hLine₂, hColumn₂⟩
  have hCounts := hFront₁.counts_lt hFront₂ hEnds₁ hEnds₂ hLt
  rw [Prod.lex_def, UInt32.lt_iff_toNat_lt,
    UInt32.lt_iff_toNat_lt, ← UInt32.toNat_inj, hLine₁, hLine₂,
    hColumn₁, hColumn₂]
  omega

/- Counts of 32 bits are told apart by the numbers behind them. -/
theorem ordinal_inj
    {m n : Nat}
    (hM : m < UInt32.size)
    (hN : n < UInt32.size)
    (hSame : ordinal m = ordinal n) :
    m = n := by
  have hBefore := congrArg (fun x => (x - 1).toNat) hSame
  simpa [ordinal, UInt32.add_sub_cancel, UInt32.toNat_ofNat',
    Nat.mod_eq_of_lt hM, Nat.mod_eq_of_lt hN] using hBefore

/- Different offsets have different lines or columns. -/
theorem lineColumn_injective
    {source : String}
    {o₁ o₂ : Nat}
    (hSize : source.utf8ByteSize < UInt32.size)
    (hValid₁ : String.Pos.Raw.IsValid source ⟨o₁⟩)
    (hValid₂ : String.Pos.Raw.IsValid source ⟨o₂⟩)
    (hSame : lineColumn source o₁ = lineColumn source o₂) :
    o₁ = o₂ := by
  rcases isValid_iff_exists_isFront.mp hValid₁ with
    ⟨f₁, hFront₁⟩
  rcases isValid_iff_exists_isFront.mp hValid₂ with
    ⟨f₂, hFront₂⟩
  rcases exists_endsIn f₁ with ⟨l₁, hEnds₁⟩
  rcases exists_endsIn f₂ with ⟨l₂, hEnds₂⟩
  have hCounts₁ := hFront₁.counts_le hEnds₁
  have hCounts₂ := hFront₂.counts_le hEnds₂
  rw [lineColumn_of_isFront hFront₁ hEnds₁,
    lineColumn_of_isFront hFront₂ hEnds₂, Prod.mk.injEq] at hSame
  have hLines := ordinal_inj (by omega) (by omega) hSame.1
  have hColumns := ordinal_inj (by omega) (by omega) hSame.2
  rcases Nat.lt_trichotomy o₁ o₂ with hLt | hEq | hGt
  · have hCounts :=
      hFront₁.counts_lt hFront₂ hEnds₁ hEnds₂ hLt
    omega
  · exact hEq
  · have hCounts :=
      hFront₂.counts_lt hFront₁ hEnds₂ hEnds₁ hGt
    omega

/-
  In a text of less than 2 ^ 32 bytes, and for an offset between
  characters, the line number is one more than the newlines
  ahead, counted in characters or in bytes, and the column is
  one more than the characters since the last of them; a place
  that goes over the same characters agrees.  The order of
  offsets is that of lines and columns.  This is not so at the
  end of a brimful text, but even there lines and columns tell
  offsets apart.
-/
theorem lineColumn_faithful
    {source : String}
    (hSize : source.utf8ByteSize < UInt32.size) :
    (∀ offset,
        String.Pos.Raw.IsValid source ⟨offset⟩ →
          ¬ AtBrim source offset →
            ∃ front line,
              IsFront source offset front ∧
                EndsIn front line ∧
                (lineColumn source offset).1.toNat =
                  front.count '\n' + 1 ∧
                (lineColumn source offset).2.toNat =
                  line.length + 1 ∧
                (columnAt source offset).toNat =
                  line.length + 1 ∧
                front.foldl Place.after .origin =
                  ⟨offset, front.count '\n' + 1,
                    line.length + 1⟩ ∧
                (source.toUTF8.data.toList.take offset).count
                    10 =
                  front.count '\n') ∧
      (∀ o₁ o₂,
        String.Pos.Raw.IsValid source ⟨o₁⟩ →
          String.Pos.Raw.IsValid source ⟨o₂⟩ →
            o₁ < o₂ →
              ¬ AtBrim source o₂ →
                Prod.Lex (· < ·) (· < ·)
                  (lineColumn source o₁)
                  (lineColumn source o₂)) ∧
      ∀ o₁ o₂,
        String.Pos.Raw.IsValid source ⟨o₁⟩ →
          String.Pos.Raw.IsValid source ⟨o₂⟩ →
            lineColumn source o₁ = lineColumn source o₂ →
              o₁ = o₂ := by
  refine ⟨?_, fun _ _ => lineColumn_lt hSize,
    fun _ _ => lineColumn_injective hSize⟩
  intro offset hValid hInside
  rcases isValid_iff_exists_isFront.mp hValid with
    ⟨front, hFront⟩
  rcases exists_endsIn front with ⟨line, hEnds⟩
  have hFits := hFront.fits hSize hEnds hInside
  rcases toNat_lineColumn hFront hEnds hFits with
    ⟨hLine, hColumn⟩
  have hPlace := foldl_after hEnds
  rw [hFront.2] at hPlace
  refine ⟨front, line, hFront, hEnds, hLine, hColumn, ?_, hPlace,
    hFront.count_bytes⟩
  rw [columnAt_of_isFront hFront hEnds]
  exact toNat_ordinal hFits.2

/-
  Letters of two and four bytes, a carriage return and an empty
  line, up to the end of the text.
-/
theorem lineColumn_faithful_mixed :
    let source := "é\r\n\n😀x"
    source.utf8ByteSize < UInt32.size ∧
      String.Pos.Raw.IsValid source ⟨4⟩ ∧
      String.Pos.Raw.IsValid source ⟨10⟩ ∧
      ¬ AtBrim source 4 ∧
      ¬ AtBrim source 10 ∧
      (∃ front line,
        IsFront source 10 front ∧
          EndsIn front line ∧
          (lineColumn source 10).1.toNat =
            front.count '\n' + 1 ∧
          (lineColumn source 10).2.toNat = line.length + 1) ∧
      lineColumn source 4 = (2, 1) ∧
      lineColumn source 10 = (3, 3) ∧
      Prod.Lex (· < ·) (· < ·) (lineColumn source 4)
        (lineColumn source 10) ∧
      ∀ o,
        String.Pos.Raw.IsValid source ⟨o⟩ →
          lineColumn source o = (2, 1) → o = 4 := by
  intro source
  have hSize : source.utf8ByteSize < UInt32.size := by decide
  have hFour : String.Pos.Raw.IsValid source ⟨4⟩ :=
    isValid_iff_exists_isFront.mpr
      ⟨['é', '\r', '\n'], by decide, by decide⟩
  have hEnd : String.Pos.Raw.IsValid source ⟨10⟩ :=
    isValid_iff_exists_isFront.mpr
      ⟨source.toList, List.prefix_rfl, by decide⟩
  have hInside : ∀ o, ¬ AtBrim source o := by
    rintro o ⟨⟨hLength, _⟩, _⟩
    exact absurd hLength (by decide)
  have hAt : lineColumn source 4 = (2, 1) := by decide
  rcases lineColumn_faithful hSize with
    ⟨hPlaces, hOrder, hUnique⟩
  rcases hPlaces 10 hEnd (hInside 10) with
    ⟨front, line, hFront, hEnds, hLine, hColumn, _⟩
  refine ⟨hSize, hFour, hEnd, hInside 4, hInside 10,
    ⟨front, line, hFront, hEnds, hLine, hColumn⟩, hAt,
    by decide,
    hOrder 4 10 hFour hEnd (by decide) (hInside 10), ?_⟩
  intro o hValid hSame
  exact hUnique o 4 hValid hFour (hSame.trans hAt.symm)

------------------------------------------------------------
-- A Brimful Text
------------------------------------------------------------

/- A text of newlines. -/
def newlines
    (n : Nat) : String :=
  .ofList (List.replicate n '\n')

theorem byteLength_newlines
    (n : Nat) :
    byteLength (List.replicate n '\n') = n := by
  induction n with
  | zero => rfl
  | succ n ih =>
      have hByte : '\n'.utf8Size = 1 := rfl
      rw [List.replicate_succ, byteLength, ih, hByte,
        Nat.add_comm]

theorem utf8ByteSize_newlines
    (n : Nat) :
    (newlines n).utf8ByteSize = n := by
  rw [← byteLength_toList, newlines, String.toList_ofList,
    byteLength_newlines]

theorem isFront_newlines
    {n k : Nat}
    (hLe : k ≤ n) :
    IsFront (newlines n) k (List.replicate k '\n') := by
  refine ⟨?_, byteLength_newlines k⟩
  rw [newlines, String.toList_ofList]
  exact ⟨List.replicate (n - k) '\n', by
    rw [List.replicate_append_replicate,
      Nat.add_sub_cancel' hLe]⟩

theorem lineColumn_newlines
    {n k : Nat}
    (hLe : k ≤ n) :
    lineColumn (newlines n) k = (ordinal k, 1) := by
  have hEnds : EndsIn (List.replicate k '\n') [] := by
    cases k with
    | zero => exact ⟨List.not_mem_nil, Or.inl rfl⟩
    | succ k =>
        rw [List.replicate_succ']
        exact endsIn_newline _
  rw [lineColumn_of_isFront (isFront_newlines hLe) hEnds,
    List.count_replicate_self]
  rfl

/-
  Behind 2 ^ 32 - 1 newlines the line is zero, which comes
  before the line of the last of them.
-/
theorem lineColumn_newlines_wraps :
    (newlines 4294967295).utf8ByteSize < UInt32.size ∧
      String.Pos.Raw.IsValid (newlines 4294967295)
        ⟨4294967294⟩ ∧
      String.Pos.Raw.IsValid (newlines 4294967295)
        ⟨4294967295⟩ ∧
      lineColumn (newlines 4294967295) 4294967295 = (0, 1) ∧
      ¬ Prod.Lex (· < ·) (· < ·)
          (lineColumn (newlines 4294967295) 4294967294)
          (lineColumn (newlines 4294967295) 4294967295) := by
  refine ⟨?_, ?_, ?_, ?_, ?_⟩
  · rw [utf8ByteSize_newlines]
    decide
  · exact isValid_iff_exists_isFront.mpr
      ⟨_, isFront_newlines (by decide)⟩
  · exact isValid_iff_exists_isFront.mpr
      ⟨_, isFront_newlines (by decide)⟩
  · rw [lineColumn_newlines (by decide)]
    rfl
  · rw [lineColumn_newlines (by decide),
      lineColumn_newlines (by decide), Prod.lex_def]
    decide

end Text

end ModuleLint
