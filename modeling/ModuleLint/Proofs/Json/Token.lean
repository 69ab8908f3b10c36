import ModuleLint.Json.Reader
import ModuleLint.Json.Writer

/-
  Strings and whole numbers are read as they were written.

  A string is read up to its closing quote.  A number ends
  where something stands behind it that cannot go on with it.

  Main declarations:
    * `Json.readString_of_written`, `Json.readString_quote`
    * `Json.Ends`, `Json.readNumber_writeInt`
    * `Json.le_toNat_of_mem_quote`
-/

namespace ModuleLint

namespace Json

------------------------------------------------------------
-- Strings
------------------------------------------------------------

theorem hexValue?_hexDigit :
    ∀ n, n < 16 → hexValue? (hexDigit n) = some n := by
  decide

/- A control character is read by its code. -/
theorem codePoint?_control
    {c : Char}
    (hControl : c.toNat < 0x20)
    (cs : List Char) :
    codePoint?
        ('0' :: '0' :: hexDigit (c.toNat / 16) ::
          hexDigit (c.toNat % 16) :: cs) =
      some (c, cs) := by
  have hZero : hexValue? '0' = some 0 := by decide
  have hHigh := hexValue?_hexDigit (c.toNat / 16) (by omega)
  have hLow := hexValue?_hexDigit (c.toNat % 16) (by omega)
  have hCode :
      0 * 4096 + 0 * 256 + c.toNat / 16 * 16 + c.toNat % 16 =
        c.toNat := by
    omega
  have hFour :
      fourHex?
          ('0' :: '0' :: hexDigit (c.toNat / 16) ::
            hexDigit (c.toNat % 16) :: cs) =
        some (c.toNat, cs) := by
    simp only [fourHex?, hZero, hHigh, hLow, Option.bind_eq_bind,
      Option.bind_some, hCode]
  have hPlain :
      ¬ (0xD800 ≤ c.toNat) ∧ ¬ (0xDC00 ≤ c.toNat) := by
    omega
  unfold codePoint?
  simp [hFour, hPlain]

/-
  How a character is written: as an escape of one letter, by
  its code if it is a control character, or as it is.
-/
inductive Written
    (c : Char) : List Char → Prop
| letter
    {e : Char}
    (hMeans : plainEscape? e = some c)
    (hLetter : e ≠ 'u')
    (hShown : 0x20 ≤ e.toNat) :
    Written c ['\\', e]
| code
    (hControl : c.toNat < 0x20) :
    Written c
      ['\\', 'u', '0', '0', hexDigit (c.toNat / 16),
        hexDigit (c.toNat % 16)]
| itself
    (hQuote : c ≠ '"')
    (hSlash : c ≠ '\\')
    (hShown : 0x20 ≤ c.toNat) :
    Written c [c]

theorem written_of_toNat_eq
    {c e : Char}
    {n : Nat}
    (hCode : c.toNat = n)
    (hMeans : plainEscape? e = some (Char.ofNat n))
    (hLetter : e ≠ 'u')
    (hShown : 0x20 ≤ e.toNat) :
    Written c ['\\', e] := by
  rw [← hCode, Char.ofNat_toNat] at hMeans
  exact .letter hMeans hLetter hShown

theorem written_escapeChar
    (c : Char) :
    Written c (escapeChar c) := by
  unfold escapeChar
  split
  · next hQuote =>
      rw [eq_of_beq hQuote]
      exact .letter rfl (by decide) (by decide)
  next hQuote =>
  split
  · next hSlash =>
      rw [eq_of_beq hSlash]
      exact .letter rfl (by decide) (by decide)
  next hSlash =>
  -- Five control characters have a letter of their own.
  iterate 5
    split
    · next hCode =>
        exact written_of_toNat_eq (eq_of_beq hCode) rfl
          (by decide) (by decide)
  split
  · next hControl => exact .code hControl
  · next hControl =>
      exact .itself (by simpa using hQuote)
        (by simpa using hSlash) (Nat.le_of_not_lt hControl)

/- Every character is read as it was written. -/
theorem readString_of_written
    {c : Char}
    {ds : List Char}
    (hWritten : Written c ds)
    (fuel : Nat)
    (cs seen : List Char) :
    readString (fuel + 1) (ds ++ cs) seen =
      readString fuel cs (c :: seen) := by
  cases hWritten with
  | letter hMeans hLetter =>
      simp only [List.cons_append, List.nil_append]
      rw [readString]
      · simp only [hMeans]
      · exact hLetter
  | code hControl =>
      have hRead := codePoint?_control hControl cs
      simp only [List.cons_append, List.nil_append]
      rw [readString]
      simp only [hRead]
  | itself hQuote hSlash hShown =>
      simp only [List.cons_append, List.nil_append]
      rw [readString]
      · simp [hSlash, Nat.not_lt.mpr hShown]
      · exact hQuote
      · intro rest hSame
        exact absurd hSame hSlash
      · intro e rest hSame
        exact absurd hSame hSlash

/- A string is read up to its closing quote. -/
theorem readString_quote
    {fuel : Nat}
    {s : List Char}
    (hFuel : s.length < fuel)
    (rest seen : List Char) :
    readString fuel (s.flatMap escapeChar ++ '"' :: rest)
        seen =
      some (String.ofList (seen.reverse ++ s), rest) := by
  induction s generalizing fuel seen with
  | nil =>
      cases fuel with
      | zero => cases hFuel
      | succ fuel =>
          rw [List.append_nil]
          rfl
  | cons c s ih =>
      cases fuel with
      | zero => cases hFuel
      | succ fuel =>
          rw [List.flatMap_cons, List.append_assoc,
            readString_of_written (written_escapeChar c),
            ih (Nat.lt_of_succ_lt_succ hFuel),
            List.reverse_cons, List.append_assoc,
            List.singleton_append]

theorem Written.length_pos
    {c : Char}
    {ds : List Char}
    (hWritten : Written c ds) :
    0 < ds.length := by
  cases hWritten <;> simp

/- Nothing that is written is a control character. -/
theorem Written.le_toNat
    {c : Char}
    {ds : List Char}
    (hWritten : Written c ds) :
    ∀ d ∈ ds, 0x20 ≤ d.toNat := by
  have hDigit :
      ∀ n, n < 16 → 0x20 ≤ (hexDigit n).toNat := by
    decide
  cases hWritten with
  | letter _ _ hShown => simp [hShown]
  | code hControl =>
      have hHigh := hDigit (c.toNat / 16) (by omega)
      have hLow := hDigit (c.toNat % 16) (by omega)
      simp [hHigh, hLow]
  | itself _ _ hShown => simp [hShown]

theorem length_le_length_flatMap_escapeChar
    (s : List Char) :
    s.length ≤ (s.flatMap escapeChar).length := by
  induction s with
  | nil => simp
  | cons c s ih =>
      have hSome := (written_escapeChar c).length_pos
      rw [List.flatMap_cons, List.length_append,
        List.length_cons]
      omega

/- The inside of quotes, with any bound the reader gives. -/
theorem readString_flatMap_escapeChar
    (s : String)
    (rest : List Char) :
    readString
        ((s.toList.flatMap escapeChar ++ '"' :: rest).length + 1)
        (s.toList.flatMap escapeChar ++ '"' :: rest) [] =
      some (s, rest) := by
  have hLength := length_le_length_flatMap_escapeChar s.toList
  rw [readString_quote]
  · simp
  · rw [List.length_append]
    omega

theorem le_toNat_of_mem_quote
    (s : String) :
    ∀ c ∈ quote s, 0x20 ≤ c.toNat := by
  intro c hMem
  unfold quote at hMem
  rw [List.mem_cons, List.mem_append, List.mem_singleton]
    at hMem
  rcases hMem with rfl | hInside | rfl
  · decide
  · rcases List.mem_flatMap.mp hInside with ⟨d, _, hChar⟩
    exact (written_escapeChar d).le_toNat c hChar
  · decide

------------------------------------------------------------
-- Numbers
------------------------------------------------------------

/-
  What may stand behind a value: nothing, or what separates or
  closes.
-/
def Ends
    (cs : List Char) : Prop :=
  ∀ c ∈ cs.head?, c = ',' ∨ c = ']' ∨ c = '\x7d'

theorem digitsValue_toDigits
    (n : Nat) :
    digitsValue (Nat.toDigits 10 n) = n := by
  have hStep :
      (fun (m : Nat) (c : Char) => m * 10 + (c.toNat - 48)) =
        fun m c => 10 * m + (c.toNat - '0'.toNat) := by
    funext m c
    rw [Nat.mul_comm]
    rfl
  unfold digitsValue
  rw [hStep, ← Nat.ofDigitChars_eq_foldl,
    Nat.ofDigitChars_ten_toDigits]

/- The digits of a number end where a value ends. -/
theorem digitsAt_toDigits_append
    (n : Nat)
    {rest : List Char}
    (hEnds : Ends rest) :
    digitsAt (Nat.toDigits 10 n ++ rest) =
      Nat.toDigits 10 n := by
  have hDigits :
      ∀ c ∈ Nat.toDigits 10 n, c.isDigit = true := by
    intro c hMem
    exact Nat.isDigit_of_mem_toDigits (by decide) (by decide)
      hMem
  have hRest : rest.takeWhile Char.isDigit = [] := by
    cases rest with
    | nil => rfl
    | cons c cs =>
        rcases hEnds c rfl with rfl | rfl | rfl <;> rfl
  unfold digitsAt
  rw [List.takeWhile_append_of_pos hDigits, hRest,
    List.append_nil]

/- A number other than zero does not start with a zero. -/
theorem head?_toDigits_ne
    {n : Nat}
    (hPos : 0 < n) :
    (Nat.toDigits 10 n).head? ≠ some '0' := by
  induction n using Nat.strongRecOn with
  | ind n ih =>
      by_cases hSmall : n < 10
      · have hDigit :
            ∀ m, m < 10 → 0 < m → m.digitChar ≠ '0' := by
          decide
        rw [Nat.toDigits_of_lt_base hSmall]
        simpa using hDigit n hSmall hPos
      · have hLess : n / 10 < n := by omega
        have hMore : 0 < n / 10 := by omega
        have hFirst := ih (n / 10) hLess hMore
        rw [Nat.toDigits_of_base_le (by decide) (by omega),
          List.head?_append]
        cases hDigits : Nat.toDigits 10 (n / 10) with
        | nil => exact absurd hDigits Nat.toDigits_ne_nil
        | cons c cs =>
            rw [hDigits] at hFirst
            exact hFirst

theorem toDigits_ne_zero_cons_cons
    (n : Nat)
    (c : Char)
    (cs : List Char) :
    Nat.toDigits 10 n ≠ '0' :: c :: cs := by
  intro hDigits
  rcases Nat.eq_zero_or_pos n with rfl | hPos
  · cases hDigits
  · apply head?_toDigits_ne hPos
    rw [hDigits]
    rfl

theorem readFraction?_of_ends
    {rest : List Char}
    (hEnds : Ends rest) :
    readFraction? rest = some (none, rest) := by
  cases rest with
  | nil => rfl
  | cons c cs =>
      rcases hEnds c rfl with rfl | rfl | rfl <;> rfl

theorem readExponent?_of_ends
    {rest : List Char}
    (hEnds : Ends rest) :
    readExponent? rest = some (none, rest) := by
  cases rest with
  | nil => rfl
  | cons c cs =>
      rcases hEnds c rfl with rfl | rfl | rfl <;> rfl

/- The digits of a number, with its sign read before. -/
theorem readMagnitude?_toDigits
    (negative : Bool)
    {n : Nat}
    {value : Int}
    (hValue : value = if negative then -(n : Int) else n)
    (hZero : negative = true → n ≠ 0)
    (hLow : -Int.pow 2 63 ≤ value)
    (hHigh : value < Int.pow 2 64)
    {rest : List Char}
    (hEnds : Ends rest) :
    readMagnitude? negative (Nat.toDigits 10 n ++ rest) =
      some (.whole value, rest) := by
  have hDigits := digitsAt_toDigits_append n hEnds
  have hBehind :
      (Nat.toDigits 10 n ++ rest).drop
          (Nat.toDigits 10 n).length = rest :=
    List.drop_left
  have hSign : (negative && n == 0) = false := by
    cases negative with
    | false => rfl
    | true => simpa using hZero rfl
  unfold readMagnitude?
  simp only [hDigits, hBehind]
  split
  · next hNone => exact absurd hNone Nat.toDigits_ne_nil
  · next hLeading =>
      exact absurd hLeading (toDigits_ne_zero_cons_cons n _ _)
  · simp only [readFraction?_of_ends hEnds,
      readExponent?_of_ends hEnds, Option.bind_eq_bind,
      Option.bind_some, Option.getD_none, List.append_nil,
      digitsValue_toDigits, ← hValue, hSign]
    simp only [decide_eq_true hLow, decide_eq_true hHigh]
    rfl

theorem exists_toDigits_eq_cons
    (n : Nat) :
    ∃ c cs, Nat.toDigits 10 n = c :: cs ∧ c.isDigit = true := by
  cases hDigits : Nat.toDigits 10 n with
  | nil => exact absurd hDigits Nat.toDigits_ne_nil
  | cons c cs =>
      refine ⟨c, cs, rfl, ?_⟩
      apply Nat.isDigit_of_mem_toDigits (b := 10) (n := n)
        (by decide) (by decide)
      rw [hDigits]
      exact List.mem_cons_self

/- A whole number of sixty-four bits, with or without sign. -/
theorem readNumber_writeInt
    {n : Int}
    (hLow : -Int.pow 2 63 ≤ n)
    (hHigh : n < Int.pow 2 64)
    {rest : List Char}
    (hEnds : Ends rest) :
    readNumber (writeInt n ++ rest) = some (.whole n, rest) := by
  unfold writeInt
  by_cases hNegative : n < 0
  · have hValue : n = -(n.natAbs : Int) := by omega
    rw [if_pos hNegative]
    exact readMagnitude?_toDigits true hValue
      (by omega) hLow hHigh hEnds
  · have hValue : n = (n.natAbs : Int) := by omega
    rw [if_neg hNegative, List.nil_append]
    unfold readNumber
    split
    · next hMinus =>
        rcases exists_toDigits_eq_cons n.natAbs with
          ⟨c, cs, hDigits, hDigit⟩
        rw [hDigits] at hMinus
        rw [(List.cons.inj hMinus).1] at hDigit
        cases hDigit
    · exact readMagnitude?_toDigits false hValue
        (by simp) hLow hHigh hEnds

theorem le_toNat_of_mem_writeInt
    (n : Int) :
    ∀ c ∈ writeInt n, 0x20 ≤ c.toNat := by
  intro c hMem
  unfold writeInt at hMem
  rcases List.mem_append.mp hMem with hSign | hDigit
  · split at hSign
    · rw [List.mem_singleton.mp hSign]
      decide
    · cases hSign
  · have hIsDigit :=
      Nat.isDigit_of_mem_toDigits (by decide) (by decide) hDigit
    simp only [Char.isDigit, Bool.and_eq_true, decide_eq_true_eq]
      at hIsDigit
    exact Nat.le_trans (by decide) hIsDigit.1

end Json

end ModuleLint
