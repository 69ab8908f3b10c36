import ModuleLint.Proofs.Json.Token

/-
  What is written on one line is read again.

  The reader stops behind a value and leaves what follows it.
  Its bound is met by the length of the text, and its depth by
  the nesting of the value.

  Main declarations:
    * `Json.Plain`
    * `Json.Reads`, `Json.reads`
    * `Json.read?_write`
    * `Json.Plain.le_toNat_of_mem_chars`
    * `Json.exists_chars_object`
-/

namespace ModuleLint

namespace Json

------------------------------------------------------------
-- Values That Can Be Read Again
------------------------------------------------------------

/-
  A value of at most the given depth whose numbers are whole
  and fit into sixty-four bits.
-/
inductive Plain : Nat → Json → Prop
| null
    {depth : Nat} :
    Plain depth .null
| bool
    {depth : Nat}
    (b : Bool) :
    Plain depth (.bool b)
| whole
    {depth : Nat}
    {n : Int}
    (hLow : -Int.pow 2 63 ≤ n)
    (hHigh : n < Int.pow 2 64) :
    Plain depth (.number (.whole n))
| string
    {depth : Nat}
    (s : String) :
    Plain depth (.string s)
| array
    {depth : Nat}
    {xs : List Json}
    (hItems : ∀ x ∈ xs, Plain depth x) :
    Plain (depth + 1) (.array xs)
| object
    {depth : Nat}
    {ms : List (String × Json)}
    (hMembers : ∀ m ∈ ms, Plain depth m.2) :
    Plain (depth + 1) (.object ms)

------------------------------------------------------------
-- Fronts of Values
------------------------------------------------------------

/- The text starts with a token, and not with a space. -/
theorem skipGaps_cons
    {c : Char}
    (hGap : isGap c = false)
    (cs : List Char) :
    skipGaps (c :: cs) = c :: cs := by
  simp [skipGaps, hGap]

theorem skipGaps_of_ends
    {rest : List Char}
    (hEnds : Ends rest) :
    skipGaps rest = rest := by
  cases rest with
  | nil => rfl
  | cons c cs =>
      apply skipGaps_cons
      rcases hEnds c rfl with rfl | rfl | rfl <;> rfl

/- A number starts with a digit or with its sign. -/
theorem exists_writeInt_eq_cons
    (n : Int) :
    ∃ c cs,
      writeInt n = c :: cs ∧ (c.isDigit = true ∨ c = '-') := by
  unfold writeInt
  split
  · exact ⟨'-', _, rfl, Or.inr rfl⟩
  · rcases exists_toDigits_eq_cons n.natAbs with
      ⟨c, cs, hDigits, hDigit⟩
    exact ⟨c, cs, hDigits, Or.inl hDigit⟩

/- Nothing else starts or separates like a number. -/
theorem not_mem_of_starts_number
    {c : Char}
    (hFirst : c.isDigit = true ∨ c = '-') :
    c ∉ [' ', '\t', '\n', '\r', 'n', 't', 'f', '"', '[', ']',
      '\x7b'] := by
  have hOthers :
      [' ', '\t', '\n', '\r', 'n', 't', 'f', '"', '[', ']',
          '\x7b'].all
        (fun d => !(d.isDigit || d == '-')) = true := by
    decide
  intro hMem
  have hOther := List.all_eq_true.mp hOthers c hMem
  rcases hFirst with hDigit | rfl
  · simp [hDigit] at hOther
  · cases hOther

/- No value starts with a space or closes an array. -/
theorem Plain.exists_chars_eq_cons
    {depth : Nat}
    {j : Json}
    (hPlain : Plain depth j) :
    ∃ c cs, chars j = c :: cs ∧ isGap c = false ∧ c ≠ ']' := by
  cases hPlain with
  | null => exact ⟨_, _, rfl, rfl, by decide⟩
  | bool b =>
      cases b with
      | false => exact ⟨_, _, rfl, rfl, by decide⟩
      | true => exact ⟨_, _, rfl, rfl, by decide⟩
  | @whole _ n =>
      rcases exists_writeInt_eq_cons n with
        ⟨c, cs, hChars, hFirst⟩
      have hOthers := not_mem_of_starts_number hFirst
      simp only [List.mem_cons, not_or] at hOthers
      refine ⟨c, cs, by rw [chars, writeNumeral, hChars], ?_, ?_⟩
      · simp [isGap, hOthers]
      · simp [hOthers]
  | string s => exact ⟨_, _, rfl, rfl, by decide⟩
  | @array _ xs =>
      cases xs with
      | nil => exact ⟨_, _, by rw [chars], rfl, by decide⟩
      | cons x xs =>
          exact ⟨_, _, by rw [chars], rfl, by decide⟩
  | @object _ ms =>
      cases ms with
      | nil => exact ⟨_, _, by rw [chars], rfl, by decide⟩
      | cons m ms =>
          exact ⟨_, _, by rw [chars], rfl, by decide⟩

theorem Plain.length_chars_pos
    {depth : Nat}
    {j : Json}
    (hPlain : Plain depth j) :
    0 < (chars j).length := by
  rcases hPlain.exists_chars_eq_cons with ⟨c, cs, hChars, _⟩
  rw [hChars]
  exact Nat.succ_pos _

/- An item ends where the next one or the array ends. -/
theorem ends_charsItems
    (xs : List Json)
    (rest : List Char) :
    Ends (charsItems xs ++ rest) := by
  cases xs with
  | nil => simp [Ends, charsItems]
  | cons x xs => simp [Ends, charsItems]

theorem ends_charsMembers
    (ms : List (String × Json))
    (rest : List Char) :
    Ends (charsMembers ms ++ rest) := by
  cases ms with
  | nil => simp [Ends, charsMembers]
  | cons m ms => simp [Ends, charsMembers]

------------------------------------------------------------
-- Reading What Was Written
------------------------------------------------------------

/-
  With a bound that the text does not exceed, a value is read
  up to its end, and so are the items of an array and the
  members of an object behind those that were read before.
-/
structure Reads
    (fuel : Nat) : Prop where
  value :
    ∀ {depth : Nat} {j : Json} {rest : List Char},
      Plain depth j →
      (chars j).length ≤ fuel →
      Ends rest →
      readValue fuel depth (chars j ++ rest) = some (j, rest)
  items :
    ∀ {depth : Nat} {x : Json} {xs : List Json},
      (∀ y ∈ x :: xs, Plain depth y) →
      (chars x ++ charsItems xs).length ≤ fuel →
      ∀ (rest : List Char) (seen : List Json),
        readItems fuel depth
            (chars x ++ (charsItems xs ++ rest)) seen =
          some (.array (seen.reverse ++ x :: xs), rest)
  members :
    ∀ {depth : Nat} {k : String} {v : Json}
      {ms : List (String × Json)},
      (∀ m ∈ (k, v) :: ms, Plain depth m.2) →
      (quote k ++ ':' :: (chars v ++ charsMembers ms)).length ≤
        fuel →
      ∀ (rest : List Char) (seen : List (String × Json)),
        readMembers fuel depth
            (quote k ++
              ':' :: (chars v ++ (charsMembers ms ++ rest)))
            seen =
          some (.object (seen.reverse ++ (k, v) :: ms), rest)

theorem readValue_of_starts_number
    {c : Char}
    (hFirst : c.isDigit = true ∨ c = '-')
    (fuel depth : Nat)
    {cs rest : List Char}
    {n : Numeral}
    (hRead : readNumber (c :: cs) = some (n, rest)) :
    readValue (fuel + 1) depth (c :: cs) =
      some (.number n, rest) := by
  have hOthers := not_mem_of_starts_number hFirst
  simp only [List.mem_cons, not_or] at hOthers
  have hGap : isGap c = false := by simp [isGap, hOthers]
  rw [readValue, skipGaps_cons hGap]
  split <;> simp_all

theorem readString_quote_append
    (s : String)
    (rest : List Char) :
    ∃ cs,
      quote s ++ rest = '"' :: cs ∧
        readString (cs.length + 1) cs [] = some (s, rest) := by
  refine ⟨s.toList.flatMap escapeChar ++ '"' :: rest, ?_, ?_⟩
  · simp [quote]
  · exact readString_flatMap_escapeChar s rest

/- A value is read with the bound of its parts and one more. -/
theorem Reads.value_succ
    {fuel : Nat}
    (hReads : Reads fuel)
    {depth : Nat}
    {j : Json}
    {rest : List Char}
    (hPlain : Plain depth j)
    (hLength : (chars j).length ≤ fuel + 1)
    (hEnds : Ends rest) :
    readValue (fuel + 1) depth (chars j ++ rest) =
      some (j, rest) := by
  cases hPlain with
  | null => rfl
  | bool b =>
      cases b with
      | false => rfl
      | true => rfl
  | @whole _ n hLow hHigh =>
      rcases exists_writeInt_eq_cons n with
        ⟨c, cs, hChars, hFirst⟩
      have hRead := readNumber_writeInt hLow hHigh hEnds
      rw [chars, writeNumeral]
      rw [hChars, List.cons_append] at hRead ⊢
      exact readValue_of_starts_number hFirst fuel depth hRead
  | string s =>
      rcases readString_quote_append s rest with
        ⟨cs, hQuote, hRead⟩
      rw [chars, hQuote, readValue, skipGaps_cons rfl]
      simp only [hRead]
  | @array depth xs hItems =>
      cases xs with
      | nil => rfl
      | cons x xs =>
          rcases (hItems x List.mem_cons_self).exists_chars_eq_cons
            with ⟨c, cs, hChars, hGap, hClose⟩
          rw [chars, List.length_cons] at hLength
          have hRead :=
            hReads.items hItems (Nat.le_of_succ_le_succ hLength)
              rest []
          rw [chars, List.cons_append, List.append_assoc,
            readValue, skipGaps_cons rfl]
          simp only []
          rw [hChars, List.cons_append] at hRead ⊢
          rw [skipGaps_cons hGap]
          split
          · next hSame =>
              exact absurd (List.cons.inj hSame).1 hClose
          · exact hRead
  | @object depth ms hMembers =>
      cases ms with
      | nil => rfl
      | cons m ms =>
          rw [chars, List.length_cons] at hLength
          have hRead :=
            hReads.members hMembers
              (Nat.le_of_succ_le_succ hLength) rest []
          rw [chars, List.cons_append, List.append_assoc,
            List.cons_append, List.append_assoc, readValue,
            skipGaps_cons rfl]
          exact hRead

theorem Reads.items_succ
    {fuel : Nat}
    (hReads : Reads fuel)
    {depth : Nat}
    {x : Json}
    {xs : List Json}
    (hPlain : ∀ y ∈ x :: xs, Plain depth y)
    (hLength :
      (chars x ++ charsItems xs).length ≤ fuel + 1)
    (rest : List Char)
    (seen : List Json) :
    readItems (fuel + 1) depth
        (chars x ++ (charsItems xs ++ rest)) seen =
      some (.array (seen.reverse ++ x :: xs), rest) := by
  rcases List.forall_mem_cons.mp hPlain with ⟨hFirst, hOthers⟩
  have hSome := hFirst.length_chars_pos
  have hEnds := ends_charsItems xs rest
  rw [List.length_append] at hLength
  cases xs with
  | nil =>
      rw [charsItems, List.length_singleton] at hLength
      rw [readItems, hReads.value hFirst (by omega) hEnds]
      simp only [skipGaps_of_ends hEnds]
      simp [charsItems]
  | cons y ys =>
      rw [charsItems, List.length_cons] at hLength
      have hNext :=
        hReads.items hOthers (by omega) rest (x :: seen)
      rw [readItems, hReads.value hFirst (by omega) hEnds]
      simp only [skipGaps_of_ends hEnds]
      simpa [charsItems] using hNext

theorem Reads.members_succ
    {fuel : Nat}
    (hReads : Reads fuel)
    {depth : Nat}
    {k : String}
    {v : Json}
    {ms : List (String × Json)}
    (hPlain : ∀ m ∈ (k, v) :: ms, Plain depth m.2)
    (hLength :
      (quote k ++ ':' :: (chars v ++ charsMembers ms)).length ≤
        fuel + 1)
    (rest : List Char)
    (seen : List (String × Json)) :
    readMembers (fuel + 1) depth
        (quote k ++
          ':' :: (chars v ++ (charsMembers ms ++ rest)))
        seen =
      some (.object (seen.reverse ++ (k, v) :: ms), rest) := by
  rcases List.forall_mem_cons.mp hPlain with ⟨hFirst, hOthers⟩
  rcases readString_quote_append k
      (':' :: (chars v ++ (charsMembers ms ++ rest))) with
    ⟨cs, hQuote, hName⟩
  have hSome := hFirst.length_chars_pos
  have hEnds := ends_charsMembers ms rest
  have hValue :
      (chars v).length ≤ fuel →
      readValue fuel depth
          (chars v ++ (charsMembers ms ++ rest)) =
        some (v, charsMembers ms ++ rest) := by
    intro hEnough
    exact hReads.value hFirst hEnough hEnds
  simp only [List.length_append, List.length_cons] at hLength
  rw [hQuote, readMembers, skipGaps_cons rfl]
  simp only [hName]
  rw [skipGaps_cons rfl]
  simp only [hValue (by omega), skipGaps_of_ends hEnds]
  cases ms with
  | nil => simp [charsMembers]
  | cons m ms =>
      have hNext :=
        hReads.members hOthers
          (by
            rw [charsMembers, List.length_cons] at hLength
            omega)
          rest ((k, v) :: seen)
      simpa [charsMembers] using hNext

/- The bound grows by one for each step of the reader. -/
theorem reads
    (fuel : Nat) :
    Reads fuel := by
  induction fuel with
  | zero =>
      refine ⟨?_, ?_, ?_⟩
      · intro depth j rest hPlain hLength _
        have hSome := hPlain.length_chars_pos
        omega
      · intro depth x xs hPlain hLength
        have hSome :=
          (hPlain x List.mem_cons_self).length_chars_pos
        rw [List.length_append] at hLength
        omega
      · intro depth k v ms _ hLength
        rw [List.length_append, List.length_cons] at hLength
        omega
  | succ fuel ih =>
      exact ⟨ih.value_succ, ih.items_succ, ih.members_succ⟩

/- What is written on one line is read again. -/
theorem read?_write
    {j : Json}
    (hPlain : Plain maxDepth j) :
    read? j.write = some j := by
  have hRead :=
    (reads (2 * (chars j).length + 2)).value hPlain (by omega)
      (show Ends [] by simp [Ends])
  rw [List.append_nil] at hRead
  simp [read?, write, hRead, skipGaps]

------------------------------------------------------------
-- Lines
------------------------------------------------------------

theorem le_toNat_of_mem_charsItems
    {xs : List Json}
    (hItems : ∀ x ∈ xs, ∀ c ∈ chars x, 0x20 ≤ c.toNat) :
    ∀ c ∈ charsItems xs, 0x20 ≤ c.toNat := by
  induction xs with
  | nil => simp [charsItems]
  | cons x xs ih =>
      rcases List.forall_mem_cons.mp hItems with
        ⟨hFirst, hOthers⟩
      rw [charsItems, List.forall_mem_cons,
        List.forall_mem_append]
      exact ⟨by decide, hFirst, ih hOthers⟩

theorem le_toNat_of_mem_charsMembers
    {ms : List (String × Json)}
    (hMembers : ∀ m ∈ ms, ∀ c ∈ chars m.2, 0x20 ≤ c.toNat) :
    ∀ c ∈ charsMembers ms, 0x20 ≤ c.toNat := by
  induction ms with
  | nil => simp [charsMembers]
  | cons m ms ih =>
      rcases List.forall_mem_cons.mp hMembers with
        ⟨hFirst, hOthers⟩
      rw [charsMembers, List.forall_mem_cons,
        List.forall_mem_append, List.forall_mem_cons,
        List.forall_mem_append]
      exact ⟨by decide, le_toNat_of_mem_quote m.1, by decide,
        hFirst, ih hOthers⟩

/- Nothing that is written is a control character. -/
theorem Plain.le_toNat_of_mem_chars
    {depth : Nat}
    {j : Json}
    (hPlain : Plain depth j) :
    ∀ c ∈ chars j, 0x20 ≤ c.toNat := by
  induction hPlain with
  | null => simp [chars]
  | bool b => cases b <;> simp [chars]
  | @whole _ n => exact le_toNat_of_mem_writeInt n
  | string s => exact le_toNat_of_mem_quote s
  | @array _ xs _ ih =>
      cases xs with
      | nil => simp [chars]
      | cons x xs =>
          have hItems := le_toNat_of_mem_charsItems ih
          rw [charsItems, List.forall_mem_cons] at hItems
          rw [chars, List.forall_mem_cons]
          exact ⟨by decide, hItems.2⟩
  | @object _ ms _ ih =>
      cases ms with
      | nil => simp [chars]
      | cons m ms =>
          have hMembers := le_toNat_of_mem_charsMembers ih
          rw [charsMembers, List.forall_mem_cons] at hMembers
          rw [chars, List.forall_mem_cons]
          exact ⟨by decide, hMembers.2⟩

theorem exists_charsMembers_eq_concat
    (ms : List (String × Json)) :
    ∃ cs, charsMembers ms = cs ++ ['\x7d'] := by
  induction ms with
  | nil => exact ⟨[], by rw [charsMembers, List.nil_append]⟩
  | cons m ms ih =>
      rcases ih with ⟨cs, hMembers⟩
      refine ⟨',' :: (quote m.1 ++ ':' :: (chars m.2 ++ cs)), ?_⟩
      simp [charsMembers, hMembers]

/- An object is written between braces. -/
theorem exists_chars_object
    (ms : List (String × Json)) :
    ∃ cs, chars (.object ms) = '\x7b' :: (cs ++ ['\x7d']) := by
  cases ms with
  | nil => exact ⟨[], by rw [chars, List.nil_append]⟩
  | cons m ms =>
      rcases exists_charsMembers_eq_concat ms with
        ⟨cs, hMembers⟩
      refine ⟨quote m.1 ++ ':' :: (chars m.2 ++ cs), ?_⟩
      simp [chars, hMembers]

end Json

end ModuleLint
