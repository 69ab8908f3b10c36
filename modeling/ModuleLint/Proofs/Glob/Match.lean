import ModuleLint.Glob.Match

/-
  What patterns match.

  What may be left behind tokens are ends of the text before
  them.  So nothing is lost by keeping one of each length, and
  tokens can be matched one after another.

  Main declarations:
    * `Glob.Token.suffix_of_mem_rests`, `Glob.mem_distinct_iff`
    * `Glob.Leaves`, `Glob.mem_rests_iff`
    * `Glob.leaves_append_iff`, `Glob.leaves_literals_iff`
    * `Glob.accepts_iff`
    * `Glob.accepts_within`, `Glob.accepts_ending`
    * `GlobSet.mem_of_ofPatterns`
-/

namespace ModuleLint

namespace Glob

------------------------------------------------------------
-- Single Tokens
------------------------------------------------------------

theorem mem_allRests_iff
    {s r : List UInt8} :
    r ∈ allRests s ↔ r <:+ s := by
  induction s with
  | nil => simp [allRests]
  | cons b bs ih => simp [allRests, ih, List.suffix_cons_iff]

/- Any bytes of one step may be passed over. -/
theorem mem_stepRests_iff
    {s r : List UInt8} :
    r ∈ stepRests s ↔ ∃ a, s = a ++ r ∧ slash ∉ a := by
  fun_induction stepRests s with
  | case1 =>
      rw [List.mem_singleton]
      constructor
      · rintro rfl
        exact ⟨[], rfl, List.not_mem_nil⟩
      · rintro ⟨a, hSplit, _⟩
        exact (List.append_eq_nil_iff.mp hSplit.symm).2
  | case2 b bs hSlash =>
      rw [List.mem_singleton]
      constructor
      · rintro rfl
        exact ⟨[], rfl, List.not_mem_nil⟩
      · rintro ⟨a, hSplit, hA⟩
        cases a with
        | nil => exact hSplit.symm
        | cons c a =>
            rw [← (List.cons.inj hSplit).1] at hA
            simp [eq_of_beq hSlash] at hA
  | case3 b bs hOther ih =>
      have hNe : slash ≠ b := fun hEq => hOther (by simp [hEq])
      rw [List.mem_cons, ih]
      constructor
      · rintro (rfl | ⟨a, rfl, hA⟩)
        · exact ⟨[], rfl, List.not_mem_nil⟩
        · exact ⟨b :: a, rfl, by simp [hNe, hA]⟩
      · rintro ⟨a, hSplit, hA⟩
        cases a with
        | nil => exact .inl hSplit.symm
        | cons c a =>
            exact .inr ⟨a, (List.cons.inj hSplit).2,
              fun hMem => hA (List.mem_cons_of_mem c hMem)⟩

/- A slash comes first or later. -/
theorem exists_cons_eq_append_iff
    {b : UInt8}
    {bs r : List UInt8} :
    (∃ a, b :: bs = a ++ slash :: r) ↔
      (b = slash ∧ bs = r) ∨ ∃ a, bs = a ++ slash :: r := by
  constructor
  · rintro ⟨a, hSplit⟩
    cases a with
    | nil => exact .inl (List.cons.inj hSplit)
    | cons c a => exact .inr ⟨a, (List.cons.inj hSplit).2⟩
  · rintro (⟨rfl, rfl⟩ | ⟨a, rfl⟩)
    · exact ⟨[], rfl⟩
    · exact ⟨b :: a, rfl⟩

/- Everything up to some slash may be passed over. -/
theorem mem_slashRests_iff
    {s r : List UInt8} :
    r ∈ slashRests s ↔ ∃ a, s = a ++ slash :: r := by
  fun_induction slashRests s with
  | case1 => simp
  | case2 b bs hSlash ih =>
      rw [exists_cons_eq_append_iff, List.mem_cons, ih]
      simp [eq_of_beq hSlash, eq_comm]
  | case3 b bs hOther ih =>
      have hNe : b ≠ slash := by simpa using hOther
      rw [exists_cons_eq_append_iff, ih]
      simp [hNe]

theorem mem_bytesRests_iff
    {e s r : List UInt8} :
    r ∈ bytesRests e s ↔ s = e ++ r := by
  fun_induction bytesRests e s with
  | case1 s => simp [eq_comm]
  | case2 => simp
  | case3 e es b bs hSame ih =>
      rw [ih, eq_of_beq hSame]
      simp
  | case4 e es b bs hOther =>
      have hNe : b ≠ e := fun hEq => hOther (by simp [hEq])
      simp [hNe]

/- Whole steps at the front may be passed over, or none. -/
theorem mem_leadingRests_iff
    {s r : List UInt8} :
    r ∈ leadingRests s ↔
      s = r ∨ ∃ a, s = a ++ slash :: r := by
  rw [leadingRests, List.mem_cons, mem_slashRests_iff, eq_comm]

theorem mem_trailingRests_iff
    {s r : List UInt8} :
    r ∈ trailingRests s ↔ ∃ a, s = slash :: (a ++ r) := by
  cases s with
  | nil => simp [trailingRests]
  | cons b bs =>
      by_cases hSlash : b = slash
      · simp [trailingRests, hSlash, mem_allRests_iff,
          List.IsSuffix, eq_comm]
      · simp [trailingRests, hSlash]

------------------------------------------------------------
-- Ends of Texts
------------------------------------------------------------

theorem suffix_of_mem_slashRests
    {s r : List UInt8}
    (hMem : r ∈ slashRests s) :
    r <:+ s := by
  rcases mem_slashRests_iff.mp hMem with ⟨a, rfl⟩
  exact (List.suffix_cons slash r).trans
    (List.suffix_append a _)

theorem suffix_of_mem_innerRests
    {s r : List UInt8}
    (hMem : r ∈ innerRests s) :
    r <:+ s := by
  unfold innerRests at hMem
  split at hMem
  · cases hMem
  · next b bs =>
      split at hMem
      · rcases List.mem_cons.mp hMem with rfl | hLater
        · exact List.suffix_cons b r
        · exact (suffix_of_mem_slashRests hLater).trans
            (List.suffix_cons b bs)
      · cases hMem

theorem suffix_of_mem_byteRests
    {p : UInt8 → Bool}
    {s r : List UInt8}
    (hMem : r ∈ byteRests p s) :
    r <:+ s := by
  unfold byteRests at hMem
  split at hMem
  · cases hMem
  · next b bs =>
      split at hMem
      · rw [List.mem_singleton.mp hMem]
        exact List.suffix_cons b bs
      · cases hMem

/- Only repetitions are left out. -/
theorem mem_of_mem_distinct
    {rs : List (List UInt8)}
    {r : List UInt8}
    (hMem : r ∈ distinct rs) :
    r ∈ rs := by
  induction rs with
  | nil => exact hMem
  | cons q rs ih =>
      change r ∈ (if _ then distinct rs else q :: distinct rs)
        at hMem
      split at hMem
      · exact List.mem_cons_of_mem q (ih hMem)
      · rcases List.mem_cons.mp hMem with rfl | hLater
        · exact List.mem_cons_self
        · exact List.mem_cons_of_mem q (ih hLater)

/-
  Of ends of one text, those of the same length are the same,
  so one of each length is enough.
-/
theorem mem_distinct_iff
    {whole : List UInt8}
    {rs : List (List UInt8)}
    (hEnds : ∀ r ∈ rs, r <:+ whole)
    {r : List UInt8} :
    r ∈ distinct rs ↔ r ∈ rs := by
  refine ⟨mem_of_mem_distinct, ?_⟩
  induction rs with
  | nil => exact id
  | cons q rs ih =>
      rcases List.forall_mem_cons.mp hEnds with
        ⟨hHead, hTail⟩
      intro hMem
      change r ∈ (if _ then distinct rs else q :: distinct rs)
      split
      · next hOld =>
          rcases List.mem_cons.mp hMem with rfl | hLater
          · rcases List.any_eq_true.mp hOld with
              ⟨p, hP, hLength⟩
            have hEnd := hTail p (mem_of_mem_distinct hP)
            have hSame : p = r :=
              (List.suffix_of_suffix_length_le hEnd hHead
                (Nat.le_of_eq (eq_of_beq hLength))).eq_of_length
                  (eq_of_beq hLength)
            exact hSame ▸ hP
          · exact ih hTail hLater
      · rcases List.mem_cons.mp hMem with rfl | hLater
        · exact List.mem_cons_self
        · exact List.mem_cons_of_mem q (ih hTail hLater)

mutual

/- What is left behind a token is an end of the text. -/
theorem Token.suffix_of_mem_rests :
    ∀ (t : Token) {s r : List UInt8},
      r ∈ t.rests s → r <:+ s
  | .literal c, s, r, hMem => by
      rw [Token.rests, mem_bytesRests_iff] at hMem
      exact hMem ▸ List.suffix_append _ r
  | .one, s, r, hMem => suffix_of_mem_byteRests hMem
  | .many, s, r, hMem => by
      rcases mem_stepRests_iff.mp hMem with ⟨a, rfl, _⟩
      exact List.suffix_append a r
  | .leadingSteps, s, r, hMem => by
      rcases List.mem_cons.mp hMem with rfl | hLater
      · exact List.suffix_rfl
      · exact suffix_of_mem_slashRests hLater
  | .trailingSteps, s, r, hMem => by
      rcases mem_trailingRests_iff.mp hMem with ⟨a, rfl⟩
      exact List.suffix_append (slash :: a) r
  | .innerSteps, s, r, hMem => suffix_of_mem_innerRests hMem
  | .oneOf negated ranges, s, r, hMem =>
      suffix_of_mem_byteRests hMem
  | .either branches, s, r, hMem => by
      rw [Token.rests] at hMem
      split at hMem
      · exact List.mem_singleton.mp hMem ▸ List.suffix_rfl
      · exact suffix_of_mem_branchRests branches hMem

theorem suffix_of_mem_rests :
    ∀ (ts : List Token) {ss : List (List UInt8)}
      {r : List UInt8},
      r ∈ rests ts ss → ∃ s ∈ ss, r <:+ s
  | [], ss, r, hMem => ⟨r, hMem, List.suffix_rfl⟩
  | t :: ts, ss, r, hMem => by
      rcases suffix_of_mem_rests ts hMem with ⟨q, hQ, hEnd⟩
      rcases List.mem_flatMap.mp (mem_of_mem_distinct hQ) with
        ⟨s, hS, hRest⟩
      exact ⟨s, hS, hEnd.trans (t.suffix_of_mem_rests hRest)⟩

theorem suffix_of_mem_branchRests :
    ∀ (bs : List (List Token)) {s r : List UInt8},
      r ∈ branchRests bs s → r <:+ s
  | [], s, r, hMem => by cases hMem
  | b :: bs, s, r, hMem => by
      rcases List.mem_append.mp hMem with hHead | hTail
      · split at hHead
        · cases hHead
        · rcases suffix_of_mem_rests b hHead with
            ⟨q, hQ, hEnd⟩
          exact List.mem_singleton.mp hQ ▸ hEnd
      · exact suffix_of_mem_branchRests bs hTail

end

------------------------------------------------------------
-- Tokens One after Another
------------------------------------------------------------

/- One text may be left of another behind tokens. -/
def Leaves : List Token → List UInt8 → List UInt8 → Prop
  | [], s, r => s = r
  | t :: ts, s, r => ∃ q ∈ t.rests s, Leaves ts q r

/- All ways to match several texts at once. -/
theorem mem_rests_iff
    {ts : List Token}
    {whole : List UInt8}
    {ss : List (List UInt8)}
    (hEnds : ∀ s ∈ ss, s <:+ whole)
    {r : List UInt8} :
    r ∈ rests ts ss ↔ ∃ s ∈ ss, Leaves ts s r := by
  induction ts generalizing ss with
  | nil => simp [rests, Leaves]
  | cons t ts ih =>
      have hNext :
          ∀ q ∈ ss.flatMap (fun s => t.rests s), q <:+ whole := by
        intro q hQ
        rcases List.mem_flatMap.mp hQ with ⟨s, hS, hRest⟩
        exact (t.suffix_of_mem_rests hRest).trans (hEnds s hS)
      rw [rests, ih
        (fun q hQ => hNext q (mem_of_mem_distinct hQ))]
      simp only [mem_distinct_iff hNext, List.mem_flatMap, Leaves]
      constructor
      · rintro ⟨q, ⟨s, hS, hQ⟩, hR⟩
        exact ⟨s, hS, q, hQ, hR⟩
      · rintro ⟨s, hS, q, hQ, hR⟩
        exact ⟨q, ⟨s, hS, hQ⟩, hR⟩

theorem leaves_append_iff
    {ts us : List Token}
    {s r : List UInt8} :
    Leaves (ts ++ us) s r ↔
      ∃ q, Leaves ts s q ∧ Leaves us q r := by
  induction ts generalizing s with
  | nil => simp [Leaves]
  | cons t ts ih =>
      simp only [List.cons_append, Leaves, ih]
      constructor
      · rintro ⟨p, hP, q, hQ, hR⟩
        exact ⟨q, ⟨p, hP, hQ⟩, hR⟩
      · rintro ⟨q, ⟨p, hP, hQ⟩, hR⟩
        exact ⟨p, hP, q, hQ, hR⟩

/- Characters stand for their bytes. -/
theorem leaves_literals_iff
    {cs : List Char}
    {s r : List UInt8} :
    Leaves (cs.map .literal) s r ↔
      s = cs.flatMap charBytes ++ r := by
  induction cs generalizing s with
  | nil => exact Iff.rfl
  | cons c cs ih =>
      simp only [List.map_cons, Leaves, Token.rests,
        mem_bytesRests_iff, ih, List.flatMap_cons]
      constructor
      · rintro ⟨q, rfl, rfl⟩
        exact (List.append_assoc ..).symm
      · rintro rfl
        exact ⟨_, List.append_assoc .., rfl⟩

/- A path matches if its tokens can leave nothing of it. -/
theorem accepts_iff
    {g : Glob}
    {path : String} :
    g.accepts path = true ↔
      g.tokens = [.leadingSteps] ∨
        Leaves g.tokens (textBytes path) [] := by
  have hRests :
      ∀ ts : List Token,
        (rests ts [textBytes path]).any List.isEmpty = true ↔
          Leaves ts (textBytes path) [] := by
    intro ts
    have hEnds : ∀ s ∈ [textBytes path], s <:+ textBytes path := by
      simp
    rw [List.any_eq_true]
    simp [List.isEmpty_iff, mem_rests_iff hEnds]
  unfold accepts acceptsBytes
  split
  · next hTokens => simp [hTokens]
  · next hOther =>
      rw [hRests]
      exact (or_iff_right hOther).symm

------------------------------------------------------------
-- Directories and Endings
------------------------------------------------------------

/- All that is below some directory of a name. -/
def within
    (name : String) : Glob :=
  ⟨.leadingSteps ::
    (name.toList.map .literal ++ [.trailingSteps])⟩

/- All whose last step has an ending. -/
def ending
    (text : String) : Glob :=
  ⟨.leadingSteps :: .many :: text.toList.map .literal⟩

theorem textBytes_append
    (s t : String) :
    textBytes (s ++ t) = textBytes s ++ textBytes t := by
  simp [textBytes]

theorem textBytes_slash :
    textBytes "/" = [slash] := rfl

/- What is behind a directory of the name matches. -/
theorem accepts_within
    {n path b : String}
    (hPath :
      path = n ++ "/" ++ b ∨
        ∃ a, path = a ++ "/" ++ n ++ "/" ++ b) :
    (within n).accepts path = true := by
  rw [accepts_iff]
  right
  have hBehind :
      Leaves (n.toList.map .literal ++ [.trailingSteps])
        (textBytes (n ++ "/" ++ b)) [] := by
    rw [leaves_append_iff]
    refine ⟨slash :: textBytes b, ?_, [], ?_, rfl⟩
    · rw [leaves_literals_iff, textBytes_append,
        textBytes_append, textBytes_slash, List.append_assoc]
      rfl
    · exact mem_trailingRests_iff.mpr
        ⟨textBytes b, by rw [List.append_nil]⟩
  refine ⟨textBytes (n ++ "/" ++ b), ?_, hBehind⟩
  apply mem_leadingRests_iff.mpr
  rcases hPath with rfl | ⟨a, rfl⟩
  · exact .inl rfl
  · right
    refine ⟨textBytes a, ?_⟩
    simp [textBytes_append, textBytes_slash]

/- The last step of bytes, with the steps before it. -/
theorem exists_last_step
    (bytes : List UInt8) :
    ∃ m,
      slash ∉ m ∧
        (bytes = m ∨ ∃ a, bytes = a ++ slash :: m) := by
  induction bytes with
  | nil => exact ⟨[], List.not_mem_nil, .inl rfl⟩
  | cons b bytes ih =>
      rcases ih with ⟨m, hM, rfl | ⟨a, rfl⟩⟩
      · by_cases hSlash : b = slash
        · exact ⟨bytes, hM, .inr ⟨[], by rw [hSlash]; rfl⟩⟩
        · refine ⟨b :: bytes, ?_, .inl rfl⟩
          simp [Ne.symm hSlash, hM]
      · exact ⟨m, hM, .inr ⟨b :: a, rfl⟩⟩

/- What has the ending matches, whatever comes before. -/
theorem accepts_ending
    {e path : String}
    (hEnd : e.toList <:+ path.toList) :
    (ending e).accepts path = true := by
  rw [accepts_iff]
  right
  rcases hEnd with ⟨front, hFront⟩
  have hBytes :
      textBytes path =
        front.flatMap charBytes ++ textBytes e := by
    simp [textBytes, ← hFront]
  rcases exists_last_step (front.flatMap charBytes) with
    ⟨m, hM, hSteps⟩
  refine ⟨m ++ textBytes e, ?_, textBytes e, ?_, ?_⟩
  · apply mem_leadingRests_iff.mpr
    rcases hSteps with hOne | ⟨a, hMore⟩
    · exact .inl (by rw [hBytes, hOne])
    · exact .inr ⟨a, by simp [hBytes, hMore]⟩
  · exact mem_stepRests_iff.mpr ⟨m, rfl, hM⟩
  · exact leaves_literals_iff.mpr (List.append_nil _).symm

end Glob

------------------------------------------------------------
-- Sets of Globs
------------------------------------------------------------

/- The globs of patterns are all in the set. -/
theorem GlobSet.mem_of_ofPatterns
    {ps : List String}
    {gs : GlobSet}
    (hSet : ofPatterns ps = .ok gs)
    {p : String}
    (hMem : p ∈ ps)
    {g : Glob}
    (hGlob : Glob.ofPattern p = .ok g) :
    g ∈ gs.globs := by
  induction ps generalizing gs with
  | nil => cases hMem
  | cons q ps ih =>
      unfold ofPatterns at hSet
      split at hSet
      · cases hSet
      · next f hFirst =>
          split at hSet
          · cases hSet
          · next rest hRest =>
              cases hSet
              rcases List.mem_cons.mp hMem with rfl | hLater
              · rw [hGlob] at hFirst
                cases hFirst
                exact List.mem_cons_self
              · exact List.mem_cons_of_mem f (ih hRest hLater)

end ModuleLint
