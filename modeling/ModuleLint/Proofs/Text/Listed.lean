import Mathlib.Data.List.Forall2
import Mathlib.Data.List.Induction

/-
  Lists that give things in order.

  A list is a full account of what stands at places if it has
  one member for each place at which something stands, in the
  order of the places.  A list may also be made of two others,
  each of which keeps its order.

  Main declarations:
    * `Listed`
    * `listed_of_concat`, `Listed.flatMap`
    * `Interleaves`, `interleaves_filter`
-/

namespace ModuleLint

section

variable {α β ι κ : Type}

------------------------------------------------------------
-- Places
------------------------------------------------------------

/-
  The list has what stands at each place, place after place.
  What stands where is given by a relation.
-/
def Listed
    (before : ι → ι → Prop)
    (standsAt : ι → α → Prop)
    (xs : List α) : Prop :=
  ∃ places : List ι,
    places.Pairwise before ∧
      (∀ i, i ∈ places ↔ ∃ x, standsAt i x) ∧
      List.Forall₂ standsAt places xs

/- The same things stand at the same places. -/
theorem Listed.congr
    {before : ι → ι → Prop}
    {at₁ at₂ : ι → α → Prop}
    {xs : List α}
    (hListed : Listed before at₁ xs)
    (hSame : ∀ i x, at₁ i x ↔ at₂ i x) :
    Listed before at₂ xs := by
  have hEq : at₁ = at₂ := by
    funext i x
    exact propext (hSame i x)
  exact hEq ▸ hListed

/- One more place behind all others, where something may stand. -/
theorem Listed.concat
    {at₁ at₂ : Nat → α → Prop}
    {xs : List α}
    {last : Option α}
    (hListed : Listed (· < ·) at₁ xs)
    (n : Nat)
    (hBelow : ∀ i x, at₁ i x → i < n)
    (hLast : ∀ i x,
      at₂ i x ↔ at₁ i x ∨ (i = n ∧ last = some x)) :
    Listed (· < ·) at₂ (xs ++ last.toList) := by
  rcases hListed with ⟨places, hOrder, hMem, hAll⟩
  have hOld : List.Forall₂ at₂ places xs :=
    hAll.imp (fun i x hAt => (hLast i x).mpr (.inl hAt))
  cases last with
  | none =>
      refine ⟨places, hOrder, ?_, ?_⟩
      · intro i
        simp [hMem, hLast]
      · simpa using hOld
  | some y =>
      refine ⟨places ++ [n], ?_, ?_, ?_⟩
      · refine List.pairwise_append.mpr
          ⟨hOrder, List.pairwise_singleton _ n, ?_⟩
        intro i hI j hJ
        rcases (hMem i).mp hI with ⟨x, hAt⟩
        rw [List.mem_singleton.mp hJ]
        exact hBelow i x hAt
      · intro i
        simp [hMem, hLast, exists_or]
      · refine List.rel_append hOld (.cons ?_ .nil)
        exact (hLast n y).mpr (.inr ⟨rfl, rfl⟩)

theorem getElem?_concat_eq_some_iff
    {xs : List α}
    {x y : α}
    {i : Nat} :
    (xs ++ [x])[i]? = some y ↔
      xs[i]? = some y ∨ (i = xs.length ∧ x = y) := by
  rcases Nat.lt_trichotomy i xs.length with hLt | rfl | hGt
  · simp [List.getElem?_append_left hLt, Nat.ne_of_lt hLt]
  · simp
  · have hNone : (xs ++ [x])[i]? = none := by
      simpa using Nat.succ_le_of_lt hGt
    have hOld : xs[i]? = none := by
      simpa using Nat.le_of_lt hGt
    simp [hNone, hOld, Nat.ne_of_gt hGt]

/-
  A list that grows at its end, along with another one, by
  what the new member gives in view of those before it.
-/
theorem listed_of_concat
    (f : List α → List β)
    (give : List α → α → Option β)
    (hNil : f [] = [])
    (hConcat : ∀ xs x,
      f (xs ++ [x]) = f xs ++ (give xs x).toList)
    (xs : List α) :
    Listed (· < ·)
      (fun (i : Nat) y =>
        ∃ x, xs[i]? = some x ∧ give (xs.take i) x = some y)
      (f xs) := by
  induction xs using List.reverseRecOn with
  | nil =>
      rw [hNil]
      exact ⟨[], .nil, by simp, .nil⟩
  | append_singleton xs x ih =>
      have hBelow :
          ∀ {i z}, xs[i]? = some z → i < xs.length :=
        fun hAt => (List.getElem?_eq_some_iff.mp hAt).1
      rw [hConcat]
      refine ih.concat xs.length
        (fun i y ⟨z, hAt, _⟩ => hBelow hAt) ?_
      intro i y
      simp only [getElem?_concat_eq_some_iff]
      constructor
      · rintro ⟨z, hAt | ⟨rfl, rfl⟩, hGive⟩
        · rw [List.take_append_of_le_length
            (Nat.le_of_lt (hBelow hAt))] at hGive
          exact .inl ⟨z, hAt, hGive⟩
        · rw [List.take_left] at hGive
          exact .inr ⟨rfl, hGive⟩
      · rintro (⟨z, hAt, hGive⟩ | ⟨rfl, hGive⟩)
        · refine ⟨z, .inl hAt, ?_⟩
          rw [List.take_append_of_le_length
            (Nat.le_of_lt (hBelow hAt))]
          exact hGive
        · refine ⟨x, .inr ⟨rfl, rfl⟩, ?_⟩
          rw [List.take_left]
          exact hGive

/- The members with a property, and what is made of them. -/
theorem listed_map_filter
    (keep : α → Bool)
    (f : α → β)
    (xs : List α) :
    Listed (· < ·)
      (fun (i : Nat) y =>
        ∃ x, xs[i]? = some x ∧ keep x = true ∧ f x = y)
      ((xs.filter keep).map f) := by
  have hListed := listed_of_concat
    (fun xs => (xs.filter keep).map f)
    (fun _ x => if keep x then some (f x) else none)
    rfl
    (fun xs x => by cases hKeep : keep x <;> simp [hKeep])
    xs
  refine hListed.congr ?_
  intro i y
  simp

/-
  Lists of parts, where the parts are in order themselves.
  A place is that of a part and one within the part.
-/
theorem Listed.flatMap
    {lt : κ → κ → Prop}
    {before : ι → ι → Prop}
    {key : α → κ}
    {standsAt : α → ι → β → Prop}
    {f : α → List β}
    {xs : List α}
    (hOrdered : xs.Pairwise (fun a b => lt (key a) (key b)))
    (hListed : ∀ a, Listed before (standsAt a) (f a)) :
    Listed (Prod.Lex lt before)
      (fun p y => ∃ a ∈ xs, key a = p.1 ∧ standsAt a p.2 y)
      (xs.flatMap f) := by
  induction hOrdered with
  | nil => exact ⟨[], .nil, by simp, .nil⟩
  | @cons a xs hAfter _ ih =>
      rcases hListed a with ⟨inner, hOrder, hMem, hAll⟩
      rcases ih with ⟨outer, hOrder', hMem', hAll'⟩
      -- The places in the first part come before all others,
      -- because the key of that part does.
      refine ⟨inner.map (fun i => (key a, i)) ++ outer,
        ?_, ?_, ?_⟩
      · refine List.pairwise_append.mpr
          ⟨List.pairwise_map.mpr ?_, hOrder', ?_⟩
        · exact hOrder.imp (fun hLt => .right _ hLt)
        · intro p hP q hQ
          rcases List.mem_map.mp hP with ⟨i, _, rfl⟩
          rcases (hMem' q).mp hQ with ⟨_, b, hB, hKey, _⟩
          have hLt := hAfter b hB
          rw [hKey] at hLt
          exact .left _ _ hLt
      · intro p
        rw [List.mem_append, hMem', List.mem_map]
        constructor
        · rintro (⟨i, hI, rfl⟩ | ⟨y, b, hB, hAt⟩)
          · rcases (hMem i).mp hI with ⟨y, hAt⟩
            exact ⟨y, a, List.mem_cons_self, rfl, hAt⟩
          · exact ⟨y, b, List.mem_cons_of_mem a hB, hAt⟩
        · rintro ⟨y, b, hB, hKey, hAt⟩
          rcases List.mem_cons.mp hB with rfl | hLater
          · exact .inl
              ⟨p.2, (hMem p.2).mpr ⟨y, hAt⟩, by rw [hKey]⟩
          · exact .inr ⟨y, b, hLater, hKey, hAt⟩
      · rw [List.flatMap_cons]
        refine List.rel_append ?_ ?_
        · refine List.forall₂_map_left_iff.mpr (hAll.imp ?_)
          intro i y hAt
          exact ⟨a, List.mem_cons_self, rfl, hAt⟩
        · refine hAll'.imp ?_
          rintro p y ⟨b, hB, hAt⟩
          exact ⟨b, List.mem_cons_of_mem a hB, hAt⟩

------------------------------------------------------------
-- Two Lists in One
------------------------------------------------------------

/- The third list is made of the other two, each in its order. -/
inductive Interleaves :
    List α → List α → List α → Prop where
  | nil : Interleaves [] [] []
  | left
      {x : α}
      {xs ys zs : List α} :
      Interleaves xs ys zs →
        Interleaves (x :: xs) ys (x :: zs)
  | right
      {y : α}
      {xs ys zs : List α} :
      Interleaves xs ys zs →
        Interleaves xs (y :: ys) (y :: zs)

/- A list is made of what has a property and what has not. -/
theorem interleaves_filter
    (p : α → Bool)
    (xs : List α) :
    Interleaves (xs.filter p) (xs.filter (fun x => !p x)) xs := by
  induction xs with
  | nil => exact .nil
  | cons x xs ih =>
      cases hP : p x with
      | true => simpa [hP] using ih.left
      | false => simpa [hP] using ih.right

end

end ModuleLint
