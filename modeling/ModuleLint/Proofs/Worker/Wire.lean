import ModuleLint.Proofs.Json.RoundTrip
import ModuleLint.Proofs.Scan.Load
import ModuleLint.Proofs.Text.Split
import ModuleLint.Worker.Message

/-
  Messages arrive as they were sent.

  Every message is written on a line that holds no line break
  and no other control character.  Members that are left out
  are filled in again, and numbers keep their value as long as
  they fit into their type.

  Main declarations:
    * `Diagnostic.Fits`, `Response.Fits`
    * `Diagnostic.ofJson?_toJson`, `RuleFailure.ofJson?_toJson`
    * `Request.ofJson?_toJson`, `Response.ofJson?_toJson`
    * `Wire.text`, `Wire.messages`, `Wire.Framed`
    * `Wire.messages_text_and_unbroken`
-/

namespace ModuleLint

------------------------------------------------------------
-- Taking Records Apart
------------------------------------------------------------

namespace Json

theorem bind_of_eq_some
    {α β : Type}
    {x : Option α}
    {f : α → Option β}
    {a : α}
    {b : β}
    (hFirst : x = some a)
    (hThen : f a = some b) :
    x >>= f = some b := by
  rw [hFirst]
  exact hThen

/- An object with known names, each at most once. -/
theorem row?_object
    {names : List String}
    {ms : List (String × Json)}
    (hNames : names.Nodup)
    (hKnown : (ms.map (·.1)).Sublist names) :
    row? names (.object ms) = some ⟨ms, false⟩ := by
  have hAll :
      ms.filter (fun m => names.contains m.1) = ms := by
    rw [List.filter_eq_self]
    intro m hMem
    rw [List.contains_iff_mem]
    exact hKnown.subset (List.mem_map_of_mem hMem)
  unfold row?
  simp only [hAll]
  rw [if_pos (hKnown.nodup hNames)]

theorem Row.required_of_cell?
    {α : Type}
    {r : Row}
    {name : String}
    {f : Json → Option α}
    {j : Json}
    {a : α}
    (hCell : r.cell? name = some j)
    (hValue : f j = some a) :
    r.required name f = some a :=
  bind_of_eq_some hCell hValue

theorem Row.defaulted_of_cell?
    {α : Type}
    {r : Row}
    {name : String}
    {f : Json → Option α}
    {j : Json}
    {a value : α}
    (hCell : r.cell? name = some j)
    (hValue : f j = some a) :
    r.defaulted name f value = some a := by
  unfold defaulted
  rw [hCell]
  exact hValue

theorem Row.defaulted_of_no_cell
    {α : Type}
    {r : Row}
    {name : String}
    (f : Json → Option α)
    (value : α)
    (hCell : r.cell? name = none) :
    r.defaulted name f value = some value := by
  unfold defaulted
  rw [hCell]

theorem asNatBelow?_nat
    {bound n : Nat}
    (hBelow : n < bound) :
    asNatBelow? bound (.nat n) = some n := by
  simp [asNatBelow?, nat, Numeral.ofNat, Numeral.toNatBelow?,
    hBelow]

/- The items of an array are taken one by one. -/
theorem asList?_map
    {α : Type}
    {f : α → Json}
    {g : Json → Option α}
    {xs : List α}
    (hItems : ∀ x ∈ xs, g (f x) = some x) :
    asList? g (.array (xs.map f)) = some xs := by
  change (xs.map f).mapM g = some xs
  induction xs with
  | nil => rfl
  | cons x xs ih =>
      rcases List.forall_mem_cons.mp hItems with
        ⟨hFirst, hOthers⟩
      rw [List.map_cons, List.mapM_cons]
      exact bind_of_eq_some hFirst
        (bind_of_eq_some (ih hOthers) rfl)

------------------------------------------------------------
-- Values That Can Be Read Again
------------------------------------------------------------

theorem Plain.nat
    {depth n : Nat}
    (hBelow : n < Nat.pow 2 64) :
    Plain depth (.nat n) := by
  have hLow : -Int.pow 2 63 ≤ (n : Int) := by
    have hNegative : -Int.pow 2 63 ≤ 0 := by decide
    omega
  have hPower : Int.pow 2 64 = (Nat.pow 2 64 : Nat) := by decide
  apply Plain.whole hLow
  rw [hPower]
  exact Int.ofNat_lt.mpr hBelow

theorem Plain.array_map
    {α : Type}
    {depth : Nat}
    {f : α → Json}
    {xs : List α}
    (hItems : ∀ x ∈ xs, Plain depth (f x)) :
    Plain (depth + 1) (.array (xs.map f)) := by
  apply Plain.array
  rw [List.forall_mem_map]
  exact hItems

theorem Plain.of_mem_member?
    {α : Type}
    {depth : Nat}
    {f : α → Json}
    (hValue : ∀ a, Plain depth (f a))
    (name : String)
    (o : Option α) :
    ∀ m ∈ member? name f o, Plain depth m.2 := by
  cases o with
  | none => simp [member?]
  | some a => exact List.forall_mem_singleton.mpr (hValue a)

theorem Plain.tagged
    {depth : Nat}
    {ms : List (String × Json)}
    (kind : String)
    (hMembers : ∀ m ∈ ms, Plain depth m.2) :
    Plain (depth + 1) (tagged kind ms) := by
  apply Plain.object
  rw [List.forall_mem_cons]
  exact ⟨.string kind, hMembers⟩

end Json

------------------------------------------------------------
-- Diagnostics and Failures
------------------------------------------------------------

theorem Severity.ofName?_name
    (s : Severity) :
    ofName? s.name = some s := by
  cases s <;> rfl

theorem Category.ofName?_name
    (c : Category) :
    ofName? c.name = some c := by
  cases c <;> rfl

theorem Scope.ofName?_name
    (s : Scope) :
    ofName? s.name = some s := by
  cases s <;> rfl

namespace Diagnostic

open Json

/- The place of a diagnostic has numbers of thirty-two bits. -/
structure Fits
    (d : Diagnostic) : Prop where
  line : d.line < Nat.pow 2 32
  column : d.column < Nat.pow 2 32

theorem plain_toJson
    {d : Diagnostic}
    (hFits : d.Fits)
    (depth : Nat) :
    Plain (depth + 1) d.toJson := by
  have hWider : Nat.pow 2 32 ≤ Nat.pow 2 64 := by decide
  have hLine := Nat.lt_of_lt_of_le hFits.line hWider
  have hColumn := Nat.lt_of_lt_of_le hFits.column hWider
  apply Plain.object
  rw [List.forall_mem_append]
  constructor
  · simp only [List.forall_mem_cons]
    exact ⟨.string _, .nat hLine, .nat hColumn, .string _,
      .string _, .string _, .string _, .string _, by simp⟩
  · apply Plain.of_mem_member?
    intro s
    exact .string s.name

theorem ofJson?_toJson
    {d : Diagnostic}
    (hFits : d.Fits) :
    ofJson? d.toJson = some d := by
  -- One step for each member.  Evaluating all of them at once
  -- would count up to the bounds of the numbers.
  unfold ofJson?
  refine bind_of_eq_some (row?_object (by decide) ?_) ?_
  · cases d.scope <;> exact List.isSublist_iff_sublist.mp rfl
  refine bind_of_eq_some (Row.required_of_cell? rfl rfl) ?_
  refine bind_of_eq_some
    (Row.required_of_cell? rfl (asNatBelow?_nat hFits.line)) ?_
  refine bind_of_eq_some
    (Row.required_of_cell? rfl (asNatBelow?_nat hFits.column)) ?_
  refine bind_of_eq_some (Row.required_of_cell? rfl rfl) ?_
  refine bind_of_eq_some (Row.required_of_cell? rfl rfl) ?_
  refine bind_of_eq_some (Row.required_of_cell? rfl rfl) ?_
  refine bind_of_eq_some
    (Row.required_of_cell? rfl d.category.ofName?_name) ?_
  refine bind_of_eq_some
    (Row.required_of_cell? rfl d.severity.ofName?_name) ?_
  refine bind_of_eq_some (a := d.scope) ?_ rfl
  cases d.scope with
  | none => exact Row.defaulted_of_no_cell _ _ rfl
  | some s =>
      apply Row.defaulted_of_cell? rfl
      exact congrArg (Option.map some) s.ofName?_name

end Diagnostic

namespace RuleFailure

open Json

theorem plain_toJson
    (f : RuleFailure)
    (depth : Nat) :
    Plain (depth + 1) f.toJson := by
  apply Plain.object
  rw [List.forall_mem_append, List.forall_mem_append]
  simp only [List.forall_mem_singleton]
  refine ⟨⟨.string _, ?_⟩, .string _⟩
  apply Plain.of_mem_member?
  exact .string

theorem ofJson?_toJson
    (f : RuleFailure) :
    ofJson? f.toJson = some f := by
  rcases f with ⟨ruleId, filePath, error⟩
  unfold ofJson?
  cases filePath with
  | none => rfl
  | some path => rfl

end RuleFailure

------------------------------------------------------------
-- Messages
------------------------------------------------------------

namespace Json

theorem untag?_tagged
    (kind : String)
    {ms : List (String × Json)}
    (hOthers : ∀ m ∈ ms, m.1 ≠ "kind") :
    untag? (tagged kind ms) = some (kind, .object ms) := by
  have hNone : ms.filter (fun m => m.1 == "kind") = [] := by
    simpa using hOthers
  have hAll : ms.filter (fun m => m.1 != "kind") = ms := by
    simpa using hOthers
  simp [tagged, untag?, hNone, hAll]

end Json

namespace Request

open Json

theorem plain_toJson
    (r : Request)
    (depth : Nat) :
    Plain (depth + 1) r.toJson := by
  cases r with
  | fullScan => exact .tagged _ (by simp)
  | fileChanged path =>
      exact .tagged _
        (List.forall_mem_singleton.mpr (.string path))
  | shutdown => exact .tagged _ (by simp)

theorem ofJson?_toJson
    (r : Request) :
    ofJson? r.toJson = some r := by
  cases r <;> rfl

end Request

theorem ScanKind.ofName?_name
    (k : ScanKind) :
    ofName? k.name = some k := by
  cases k <;> rfl

namespace Response

open Json

/- Every number of a response fits into its type. -/
def Fits : Response → Prop
  | result diagnostics elapsed _ _ =>
      (∀ d ∈ diagnostics, d.Fits) ∧ elapsed < Nat.pow 2 64
  | _ => True

theorem plain_toJson
    {r : Response}
    (hFits : r.Fits)
    (depth : Nat) :
    Plain (depth + 3) r.toJson := by
  cases r with
  | ready => exact .tagged _ (by simp)
  | error message =>
      exact .tagged _
        (List.forall_mem_singleton.mpr (.string message))
  | missing path =>
      exact .tagged _
        (List.forall_mem_singleton.mpr (.string path))
  | result diagnostics elapsed kind failures =>
      have hDiagnostics :
          Plain (depth + 2)
            (.array (diagnostics.map Diagnostic.toJson)) :=
        .array_map
          (fun d hMem =>
            Diagnostic.plain_toJson (hFits.1 d hMem) depth)
      have hFailures :
          Plain (depth + 2)
            (.array (failures.map RuleFailure.toJson)) :=
        .array_map (fun f _ => f.plain_toJson depth)
      apply Plain.tagged
      rw [List.forall_mem_append]
      constructor
      · simp only [List.forall_mem_cons]
        exact ⟨hDiagnostics, .nat hFits.2, .string _, by simp⟩
      · split
        · simp
        · exact List.forall_mem_singleton.mpr hFailures

theorem ofJson?_toJson
    {r : Response}
    (hFits : r.Fits) :
    ofJson? r.toJson = some r := by
  cases r with
  | ready => rfl
  | error message => rfl
  | missing path => rfl
  | result diagnostics elapsed kind failures =>
      have hDiagnostics :
          asList? Diagnostic.ofJson?
              (.array (diagnostics.map Diagnostic.toJson)) =
            some diagnostics :=
        asList?_map
          (fun d hMem =>
            Diagnostic.ofJson?_toJson (hFits.1 d hMem))
      have hFailures :
          asList? RuleFailure.ofJson?
              (.array (failures.map RuleFailure.toJson)) =
            some failures :=
        asList?_map (fun f _ => f.ofJson?_toJson)
      refine bind_of_eq_some (untag?_tagged "result" ?_) ?_
      · cases failures <;> simp
      refine bind_of_eq_some (row?_object (by decide) ?_) ?_
      · cases failures <;>
          exact List.isSublist_iff_sublist.mp rfl
      refine bind_of_eq_some
        (Row.required_of_cell? rfl hDiagnostics) ?_
      refine bind_of_eq_some
        (Row.required_of_cell? rfl (asNatBelow?_nat hFits.2)) ?_
      refine bind_of_eq_some
        (Row.required_of_cell? rfl kind.ofName?_name) ?_
      refine bind_of_eq_some (a := failures) ?_ rfl
      cases failures with
      | nil => exact Row.defaulted_of_no_cell _ _ rfl
      | cons f fs => exact Row.defaulted_of_cell? rfl hFailures

end Response

------------------------------------------------------------
-- Lines
------------------------------------------------------------

/- A text that starts and ends with a sign is left as it is. -/
theorem Text.trim_ofList
    {c d : Char}
    (hFirst : isBlank c = false)
    (hLast : isBlank d = false)
    (cs : List Char) :
    trim (String.ofList (c :: (cs ++ [d]))) =
      String.ofList (c :: (cs ++ [d])) := by
  simp [trim, trimBoth, trimStartBy, trimEndBy, hFirst, hLast]

theorem Json.trim_write_object
    (ms : List (String × Json)) :
    Text.trim (Json.object ms).write =
      (Json.object ms).write := by
  rcases exists_chars_object ms with ⟨cs, hChars⟩
  rw [write, hChars]
  exact Text.trim_ofList rfl rfl cs

namespace Wire

/- The text of messages, each on its line. -/
def text
    {α : Type}
    (line : α → String)
    (ms : List α) : String :=
  String.join (ms.map (fun m => line m ++ "\n"))

/- The messages of a text, without its blank lines. -/
def messages
    {α : Type}
    (ofLine : String → Except BadMessage α)
    (s : String) : Except BadMessage (List α) :=
  ((Text.splitAt '\n' s).filter
    (fun l => !(Text.trim l).isEmpty)).mapM ofLine

/-
  A message that is read from its line, where the line is not
  blank and holds no control character.
-/
structure Framed
    {α : Type}
    (line : α → String)
    (ofLine : String → Except BadMessage α)
    (m : α) : Prop where
  read : ofLine (line m) = .ok m
  filled : (Text.trim (line m)).isEmpty = false
  shown : ∀ c ∈ (line m).toList, 0x20 ≤ c.toNat

section

variable {α : Type}
variable {line : α → String}
variable {ofLine : String → Except BadMessage α}

/-
  A message that is written as an object, and that is taken from
  what is read of its trimmed line.
-/
theorem Framed.of_json
    {m : α}
    {j : Json}
    {ofJson? : Json → Option α}
    (hLine : line m = j.write)
    (hObject : ∃ ms, j = .object ms)
    (hPlain : Json.Plain Json.maxDepth j)
    (hTaken : ofJson? j = some m)
    (hOfLine :
      ∀ s, (Json.read? (Text.trim s)).bind ofJson? = some m →
        ofLine s = .ok m) :
    Framed line ofLine m := by
  rcases hObject with ⟨ms, rfl⟩
  rcases Json.exists_chars_object ms with ⟨cs, hChars⟩
  have hTrim : Text.trim (line m) = line m := by
    rw [hLine, Json.trim_write_object]
  refine ⟨?_, ?_, ?_⟩
  · apply hOfLine
    rw [hTrim, hLine, Json.read?_write hPlain,
      Option.bind_some, hTaken]
  · rw [hTrim, hLine, Json.write, hChars]
    simp
  · rw [hLine, Json.write, String.toList_ofList]
    exact hPlain.le_toNat_of_mem_chars

/- Neither kind of line break is written within a line. -/
theorem Framed.unbroken
    {m : α}
    (hFramed : Framed line ofLine m) :
    '\n' ∉ (line m).toList ∧ '\r' ∉ (line m).toList := by
  constructor
  · intro hMem
    exact absurd (hFramed.shown '\n' hMem) (by decide)
  · intro hMem
    exact absurd (hFramed.shown '\r' hMem) (by decide)

/- The lines of a text, and what stands behind the last one. -/
theorem splitAt_text
    {ms : List α}
    (hFramed : ∀ m ∈ ms, Framed line ofLine m) :
    Text.splitAt '\n' (text line ms) = ms.map line ++ [""] := by
  induction ms with
  | nil => rfl
  | cons m ms ih =>
      rcases List.forall_mem_cons.mp hFramed with
        ⟨hFirst, hOthers⟩
      have hChars :
          (text line (m :: ms)).toList =
            (line m).toList ++ '\n' :: (text line ms).toList := by
        simp [text, String.join_cons]
      rw [Text.splitAt, hChars, Text.pieces_append_sep,
        Text.pieces_of_not_mem hFirst.unbroken.1,
        List.map_append, ← Text.splitAt, ih hOthers]
      simp

/- The messages of a text are those it was written from. -/
theorem messages_text
    {ms : List α}
    (hFramed : ∀ m ∈ ms, Framed line ofLine m) :
    messages ofLine (text line ms) = .ok ms := by
  have hFilled :
      (ms.map line).filter (fun l => !(Text.trim l).isEmpty) =
        ms.map line := by
    rw [List.filter_eq_self, List.forall_mem_map]
    intro m hMem
    rw [(hFramed m hMem).filled]
    rfl
  have hBlank :
      [""].filter (fun l => !(Text.trim l).isEmpty) = [] := rfl
  unfold messages
  rw [splitAt_text hFramed, List.filter_append, hFilled, hBlank,
    List.append_nil, mapM_eq_ok_iff, List.map_map]
  exact List.map_congr_left
    (fun m hMem => (hFramed m hMem).read)

end

end Wire

theorem Request.framed
    (r : Request) :
    Wire.Framed line ofLine r := by
  refine .of_json rfl ?_ (r.plain_toJson 126) r.ofJson?_toJson ?_
  · cases r <;> exact ⟨_, rfl⟩
  · intro s hRead
    unfold ofLine
    simp only [hRead]

theorem Response.framed
    {r : Response}
    (hFits : r.Fits) :
    Wire.Framed line ofLine r := by
  refine .of_json rfl ?_ (plain_toJson hFits 124)
    (ofJson?_toJson hFits) ?_
  · cases r <;> exact ⟨_, rfl⟩
  · intro s hRead
    unfold ofLine
    simp only [hRead]

/-
  Requests and responses that are written one a line are read
  as the same requests and responses, and no line holds a line
  break.
-/
theorem Wire.messages_text_and_unbroken
    (requests : List Request)
    {responses : List Response}
    (hFits : ∀ r ∈ responses, r.Fits) :
    (messages Request.ofLine (text Request.line requests) =
        .ok requests ∧
      messages Response.ofLine (text Response.line responses) =
        .ok responses) ∧
      (∀ r ∈ requests,
        '\n' ∉ r.line.toList ∧ '\r' ∉ r.line.toList) ∧
      ∀ r ∈ responses,
        '\n' ∉ r.line.toList ∧ '\r' ∉ r.line.toList := by
  have hRequests :
      ∀ r ∈ requests, Framed Request.line Request.ofLine r :=
    fun r _ => r.framed
  have hResponses :
      ∀ r ∈ responses,
        Framed Response.line Response.ofLine r :=
    fun r hMem => Response.framed (hFits r hMem)
  exact
    ⟨⟨messages_text hRequests, messages_text hResponses⟩,
      fun r hMem => (hRequests r hMem).unbroken,
      fun r hMem => (hResponses r hMem).unbroken⟩

/- Responses that strain every part of the format. -/
def Wire.strained : List Response :=
  [ .ready,
    .result
      [ { filePath := "src/\"a\\b\".ts"
          line := 4294967295
          column := 0
          message := "two\nlines\r\n\ttab \x00 \x1b \x7f"
          help := "héllo 世界 😀 \u2028"
          rule := ""
          category := .architecture
          severity := .info
          scope := none },
        { filePath := ""
          line := 0
          column := 4294967295
          message := "\x7b\"kind\":\"ready\"\x7d"
          help := "\\n \\u0041 \x08 \x0c"
          rule := "no-eval"
          category := .security
          severity := .error
          scope := some .project } ]
      18446744073709551615 .incremental
      [⟨"no-eval", none, "\n"⟩, ⟨"no-eval", some "\\", "\""⟩],
    .result [] 0 .full [],
    .error "Invalid worker message: \n\n",
    .missing "\n" ]

theorem Wire.messages_text_strained :
    (∀ r ∈ strained, r.Fits) ∧
      messages Request.ofLine
          (text Request.line
            [.fullScan, .fileChanged "a\n\"b\"\\", .shutdown]) =
        .ok
          [.fullScan, .fileChanged "a\n\"b\"\\", .shutdown] ∧
      messages Response.ofLine (text Response.line strained) =
        .ok strained := by
  have hFits : ∀ r ∈ strained, r.Fits := by
    simp only [strained, List.forall_mem_cons, Response.Fits]
    refine ⟨trivial, ⟨⟨?_, ?_, by simp⟩, by decide⟩,
      ⟨by simp, by decide⟩, trivial, trivial, by simp⟩
    · exact ⟨by decide, by decide⟩
    · exact ⟨by decide, by decide⟩
  have hRead :=
    messages_text_and_unbroken
      [.fullScan, .fileChanged "a\n\"b\"\\", .shutdown] hFits
  exact ⟨hFits, hRead.1⟩

end ModuleLint
