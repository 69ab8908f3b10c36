import Mathlib.Data.List.Sort

/-
  Lists with keys, above all those that are strictly in the
  order of a text key.

  Such a list is a map from keys to members: it has at most
  one member of each key, and it is determined by which
  members it has.

  Main declarations:
    * `Keyed.find?_eq_some_iff`, `Keyed.find?_eq_none_of_lt`
    * `Keyed.eq_of_mem_iff`
    * `Keyed.filter_eq_singleton`
    * `filter_flatMap_of_agree`
-/

namespace ModuleLint

namespace Keyed

variable {α : Type}
variable {key : α → String}

/- Two members of the same key are the same member. -/
theorem eq_of_key_eq
    {xs : List α}
    (hOrdered : xs.Pairwise (fun a b => key a < key b))
    {a b : α}
    (hA : a ∈ xs)
    (hB : b ∈ xs)
    (hKey : key a = key b) :
    a = b := by
  induction hOrdered with
  | nil => cases hA
  | cons hBefore _ ih =>
      rcases List.mem_cons.mp hA with rfl | hLaterA
      · rcases List.mem_cons.mp hB with rfl | hLaterB
        · rfl
        · exact absurd hKey
            (String.ne_of_lt (hBefore b hLaterB))
      · rcases List.mem_cons.mp hB with rfl | hLaterB
        · exact absurd hKey.symm
            (String.ne_of_lt (hBefore a hLaterA))
        · exact ih hLaterA hLaterB

/- A member is found by its key. -/
theorem find?_eq_some_iff
    {xs : List α}
    (hOrdered : xs.Pairwise (fun a b => key a < key b))
    {k : String}
    {a : α} :
    xs.find? (fun b => key b == k) = some a ↔
      a ∈ xs ∧ key a = k := by
  constructor
  · intro hFound
    exact ⟨List.mem_of_find?_eq_some hFound,
      eq_of_beq (List.find?_some hFound :)⟩
  · rintro ⟨hMem, hKey⟩
    cases hFound : xs.find? (fun b => key b == k) with
    | none =>
        have hNone := List.find?_eq_none.mp hFound a hMem
        exact absurd (beq_iff_eq.mpr hKey) hNone
    | some b =>
        have hB : key b = k :=
          eq_of_beq (List.find?_some hFound :)
        have hSame := eq_of_key_eq hOrdered
          (List.mem_of_find?_eq_some hFound) hMem
          (hB.trans hKey.symm)
        rw [hSame]

/- Nothing is found below all keys. -/
theorem find?_eq_none_of_lt
    {xs : List α}
    {k : String}
    (hBelow : ∀ a ∈ xs, k < key a) :
    xs.find? (fun b => key b == k) = none := by
  apply List.find?_eq_none.mpr
  intro a hMem hKey
  exact String.ne_of_lt (hBelow a hMem) (eq_of_beq hKey).symm

/- The members determine the list. -/
theorem eq_of_mem_iff
    {xs ys : List α}
    (hXs : xs.Pairwise (fun a b => key a < key b))
    (hYs : ys.Pairwise (fun a b => key a < key b))
    (hMem : ∀ a, a ∈ xs ↔ a ∈ ys) :
    xs = ys := by
  have : Std.Antisymm (fun a b => key a < key b) :=
    ⟨fun _ _ hAB hBA => absurd hBA (String.lt_asymm hAB)⟩
  have : Std.Irrefl (fun a b => key a < key b) :=
    ⟨fun a => String.lt_irrefl (key a)⟩
  exact hXs.eq_of_mem_iff hYs hMem

/- Where no key is there twice, each picks one member. -/
theorem filter_eq_singleton
    {κ : Type}
    [BEq κ]
    [LawfulBEq κ]
    {key : α → κ}
    {xs : List α}
    (hKeys : xs.Pairwise (fun a b => key a ≠ key b))
    {a : α}
    (hMem : a ∈ xs) :
    xs.filter (fun b => key b == key a) = [a] := by
  induction hKeys with
  | nil => cases hMem
  | @cons b xs hOthers _ ih =>
      rcases List.mem_cons.mp hMem with rfl | hLater
      · have hNone :
            xs.filter (fun b => key b == key a) = [] := by
          apply List.filter_eq_nil_iff.mpr
          intro b hB
          simpa using Ne.symm (hOthers b hB)
        rw [List.filter_cons_of_pos (by simp), hNone]
      · rw [List.filter_cons_of_neg
          (by simpa using hOthers a hLater), ih hLater]

end Keyed

------------------------------------------------------------
-- Parts of Lists
------------------------------------------------------------

/- What is kept of each part is all of it or nothing. -/
theorem filter_flatMap_of_agree
    {α β : Type}
    {f : α → List β}
    {keep : α → Bool}
    {keepPart : β → Bool}
    {xs : List α}
    (hAgree : ∀ x ∈ xs, ∀ y ∈ f x, keepPart y = keep x) :
    (xs.flatMap f).filter keepPart =
      (xs.filter keep).flatMap f := by
  induction xs with
  | nil => rfl
  | cons x xs ih =>
      rcases List.forall_mem_cons.mp hAgree with
        ⟨hHead, hTail⟩
      rw [List.flatMap_cons, List.filter_append, ih hTail]
      cases hKeep : keep x with
      | true =>
          have hAll : (f x).filter keepPart = f x := by
            apply List.filter_eq_self.mpr
            intro y hY
            rw [hHead y hY, hKeep]
          rw [hAll, List.filter_cons_of_pos hKeep,
            List.flatMap_cons]
      | false =>
          have hNone : (f x).filter keepPart = [] := by
            apply List.filter_eq_nil_iff.mpr
            intro y hY
            rw [hHead y hY, hKeep]
            exact Bool.false_ne_true
          rw [hNone, List.nil_append,
            List.filter_cons_of_neg (by simp [hKeep])]

end ModuleLint
