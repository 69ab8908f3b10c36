import ModuleLint.Editor.Server
import ModuleLint.Proofs.Text.Place

/-
  Positions of markers as editors read them.

  Unless another way is agreed on, an editor counts the units of
  UTF-16 in a line, and characters beyond the first 65536 take
  two of them.  A marker counts characters, so that its position
  is the one meant just when no such character is ahead of it in
  its line.  This is about offsets for which numbers of 32 bits
  suffice.

  Main declarations:
    * `Text.utf16Size`, `Text.utf16Length`
    * `TextPosition.Encodes`
    * `Marker.start_of_lineColumn`
    * `Marker.start_behind_pair`
-/

namespace ModuleLint

namespace Text

------------------------------------------------------------
-- Units
------------------------------------------------------------

/- A character takes a pair of units in UTF-16. -/
def isPaired
    (c : Char) : Bool :=
  0x10000 ≤ c.toNat

/- The number of units of a character in UTF-16. -/
def utf16Size
    (c : Char) : Nat :=
  if isPaired c then 2 else 1

/- The number of units of characters in UTF-16. -/
def utf16Length : List Char → Nat
  | [] => 0
  | c :: cs => utf16Size c + utf16Length cs

/- There is one unit more for each pair. -/
theorem utf16Length_eq
    (cs : List Char) :
    utf16Length cs = cs.length + cs.countP isPaired := by
  induction cs with
  | nil => rfl
  | cons c cs ih =>
      rw [utf16Length, ih, utf16Size, List.length_cons,
        List.countP_cons]
      split <;> omega

theorem utf16Length_eq_length_iff
    {cs : List Char} :
    cs.length = utf16Length cs ↔
      ∀ c ∈ cs, isPaired c = false := by
  rw [utf16Length_eq, Nat.left_eq_add, List.countP_eq_zero]
  simp

end Text

------------------------------------------------------------
-- Positions
------------------------------------------------------------

open Text

/-
  The position tells an editor the offset: it counts the newlines
  ahead and the units of UTF-16 since the last of them.
-/
def TextPosition.Encodes
    (p : TextPosition)
    (source : String)
    (offset : Nat) : Prop :=
  ∃ front line,
    IsFront source offset front ∧
      EndsIn front line ∧
      p = ⟨front.count '\n', utf16Length line⟩

theorem TextPosition.encodes_iff
    {p : TextPosition}
    {source : String}
    {offset : Nat}
    {front line : List Char}
    (hFront : IsFront source offset front)
    (hEnds : EndsIn front line) :
    p.Encodes source offset ↔
      p = ⟨front.count '\n', utf16Length line⟩ := by
  constructor
  · rintro ⟨front', line', hFront', hEnds', hPosition⟩
    rw [hFront.unique hFront'] at hEnds ⊢
    rw [hEnds.unique hEnds']
    exact hPosition
  · intro hPosition
    exact ⟨front, line, hFront, hEnds, hPosition⟩

namespace Marker

/-
  A marker starts at the number of newlines ahead and the number
  of characters since the last of them.  An editor needs one more
  for each pair among these characters, so that the marker is
  where it is meant to be just when there are none.
-/
theorem start_of_lineColumn
    {d : Diagnostic}
    {source : String}
    {offset : Nat}
    (hShort : offset + 1 < UInt32.size)
    (hValid : String.Pos.Raw.IsValid source ⟨offset⟩)
    (hLine : d.line = (lineColumn source offset).1.toNat)
    (hColumn : d.column = (lineColumn source offset).2.toNat) :
    ∃ front line,
      IsFront source offset front ∧
        EndsIn front line ∧
        (ofDiagnostic d).start =
          ⟨front.count '\n', line.length⟩ ∧
        utf16Length line =
          (ofDiagnostic d).start.character +
            line.countP isPaired ∧
        ((ofDiagnostic d).start.Encodes source offset ↔
          ∀ c ∈ line, isPaired c = false) := by
  rcases isValid_iff_exists_isFront.mp hValid with
    ⟨front, hFront⟩
  rcases exists_endsIn front with ⟨line, hEnds⟩
  have hCounts := hEnds.count_add_length_le
  rw [hFront.2] at hCounts
  have hNumbers :=
    toNat_lineColumn hFront hEnds ⟨by omega, by omega⟩
  rw [hNumbers.1] at hLine
  rw [hNumbers.2] at hColumn
  have hStart :
      (ofDiagnostic d).start =
        ⟨front.count '\n', line.length⟩ := by
    simp [ofDiagnostic, hLine, hColumn]
  refine ⟨front, line, hFront, hEnds, hStart, ?_, ?_⟩
  · rw [hStart, utf16Length_eq]
  · rw [TextPosition.encodes_iff hFront hEnds, hStart,
      TextPosition.mk.injEq, utf16Length_eq_length_iff]
    simp

/- A letter of two bytes takes one unit. -/
theorem start_behind_letter :
    let source := "'é'; eval(x)"
    let d : Diagnostic :=
      ⟨"a.ts", 1, 6, "", "", "x/eval", .security, .warning,
        some .file⟩
    6 + 1 < UInt32.size ∧
      String.Pos.Raw.IsValid source ⟨6⟩ ∧
      d.line = (lineColumn source 6).1.toNat ∧
      d.column = (lineColumn source 6).2.toNat ∧
      (ofDiagnostic d).start = ⟨0, 5⟩ ∧
      (ofDiagnostic d).start.Encodes source 6 := by
  intro source d
  let ahead := "'é'; ".toList
  have hFront : IsFront source 6 ahead :=
    ⟨by decide, by decide⟩
  have hEnds : EndsIn ahead ahead :=
    ⟨by decide, Or.inl rfl⟩
  have hValid : String.Pos.Raw.IsValid source ⟨6⟩ :=
    isValid_iff_exists_isFront.mpr ⟨ahead, hFront⟩
  have hShort : 6 + 1 < UInt32.size := by decide
  have hLine : d.line = (lineColumn source 6).1.toNat := by
    decide
  have hColumn : d.column = (lineColumn source 6).2.toNat := by
    decide
  have hSingle : ahead.any isPaired = false := by decide
  rcases start_of_lineColumn hShort hValid hLine hColumn with
    ⟨front, line, hFront', hEnds', _, _, hIff⟩
  refine ⟨hShort, hValid, hLine, hColumn, rfl, hIff.mpr ?_⟩
  rw [← hFront.unique hFront'] at hEnds'
  rw [← hEnds.unique hEnds']
  intro c hMem
  exact Bool.eq_false_iff.mpr
    (List.any_eq_false.mp hSingle c hMem)

/- Text in which a rule looks for a call behind a pair. -/
def pairedText : String :=
  "'😀'; eval(x)"

/- A rule that looks for the call. -/
def callRule : RuleDefinition :=
  { id := "x/eval"
    category := .security
    severity := .warning
    message := some "eval"
    matcher := .sourcePattern "eval" }

/- What the rule reports about the text. -/
def callFound : Diagnostic :=
  { filePath := "a.ts"
    line := 1
    column := 6
    message := "eval"
    help := ""
    rule := "x/eval"
    category := .security
    severity := .warning
    scope := some .file }

/-
  A rule reports the call at its line and column, but the marker
  starts one unit short of it.  What the server offers says
  nothing of another way of counting.
-/
theorem start_behind_pair :
    (∃ r,
        callRule.compile = .ok r ∧
          r.runFile {} (.ofSource "/r" "/r/a.ts" pairedText) =
            ⟨[callFound], []⟩) ∧
      (∃ sync info,
        Server.capabilities =
          .object
            [ ("capabilities",
                .object [("textDocumentSync", sync)]),
              ("serverInfo", info) ]) ∧
      String.Pos.Raw.IsValid pairedText ⟨8⟩ ∧
      callFound.line = (lineColumn pairedText 8).1.toNat ∧
      callFound.column = (lineColumn pairedText 8).2.toNat ∧
      (ofDiagnostic callFound).start = ⟨0, 5⟩ ∧
      TextPosition.Encodes ⟨0, 6⟩ pairedText 8 ∧
      ¬ (ofDiagnostic callFound).start.Encodes pairedText 8 := by
  let ahead := "'😀'; ".toList
  have hFront : IsFront pairedText 8 ahead :=
    ⟨by decide, by decide⟩
  have hEnds : EndsIn ahead ahead :=
    ⟨by decide, Or.inl rfl⟩
  refine ⟨?_, ⟨_, _, rfl⟩,
    isValid_iff_exists_isFront.mpr ⟨ahead, hFront⟩, by decide,
    by decide, rfl, ⟨ahead, ahead, hFront, hEnds, rfl⟩, ?_⟩
  · have hRun :
        callRule.compile.toOption.map (fun r =>
          r.runFile {} (.ofSource "/r" "/r/a.ts" pairedText)) =
            some ⟨[callFound], []⟩ := by
      decide +kernel
    rcases Option.map_eq_some_iff.mp hRun with
      ⟨r, hCompile, hFound⟩
    cases hResult : callRule.compile with
    | error _ =>
        rw [hResult] at hCompile
        cases hCompile
    | ok r' =>
        rw [hResult] at hCompile
        cases hCompile
        exact ⟨r, rfl, hFound⟩
  · rw [TextPosition.encodes_iff hFront hEnds]
    decide

end Marker

end ModuleLint
