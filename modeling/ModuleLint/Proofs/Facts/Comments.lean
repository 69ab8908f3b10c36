import Mathlib.Data.List.Forall2
import Mathlib.Data.Option.Basic
import ModuleLint.Facts.ClassFact

/-
  Trees with more comments in them.

  A comment is a named leaf that fills no field.  More comments
  among the children of a tree leave its other children as they
  were, each in its field, and those that are not comments come
  in the same order.

  Main declarations:
    * `Tree.IsComment`, `Script.Sprinkled`, `Script.Strewn`
    * `Sprinkled.filter`, `Sprinkled.find?`
    * `Strewn.rel_child?`, `Strewn.rel_firstNamed?`
    * `Tree.substance`, `Strewn.rel_substance`
-/

namespace ModuleLint

namespace Script

------------------------------------------------------------
-- More Comments
------------------------------------------------------------

/- The labels differ in their places and their soundness. -/
structure Label.SameWords
    (l l' : Label) : Prop where
  kind : l'.kind = l.kind
  named : l'.named = l.named
  field : l'.field = l.field
  text : l'.text = l.text

/- The tree is a comment. -/
def Tree.IsComment
    (t : Tree) : Prop :=
  t.kind = "comment" ∧ t.label.named = true ∧
    t.label.field = none ∧ t.children = []

/-
  The second list of children is the first one with comments
  put in where they fit, and its other members are related to
  those of the first.  Where a comment fits depends on what the
  parent is and on the members of the first list before it, the
  nearest one first.
-/
inductive Sprinkled
    (R : Tree → Tree → Prop)
    (fits : Label → List Tree → Tree → Prop) :
    List Tree → Label → List Tree → List Tree → Prop where
  | done
      {host : Label}
      {before : List Tree} :
      Sprinkled R fits before host [] []
  | kept
      {host : Label}
      {before cs cs' : List Tree}
      {c c' : Tree} :
      R c c' →
        Sprinkled R fits (c :: before) host cs cs' →
          Sprinkled R fits before host (c :: cs) (c' :: cs')
  | comment
      {host : Label}
      {before cs cs' : List Tree}
      {c : Tree} :
      c.IsComment →
        fits host before c →
          Sprinkled R fits before host cs cs' →
            Sprinkled R fits before host cs (c :: cs')

/- The second tree is the first one with comments put in. -/
inductive Strewn
    (fits : Label → List Tree → Tree → Prop) :
    Tree → Tree → Prop where
  | node
      {l l' : Label}
      {cs cs' : List Tree} :
      l.SameWords l' →
        Sprinkled (Strewn fits) fits [] l cs cs' →
          Strewn fits (.node l cs) (.node l' cs')

------------------------------------------------------------
-- Children
------------------------------------------------------------

section

variable {fits : Label → List Tree → Tree → Prop}
variable {t t' : Tree}

namespace Strewn

theorem words
    (hStrewn : Strewn fits t t') :
    t.label.SameWords t'.label := by
  cases hStrewn with
  | node hWords _ => exact hWords

theorem kind_eq
    (hStrewn : Strewn fits t t') :
    t'.kind = t.kind :=
  hStrewn.words.kind

theorem text_eq
    (hStrewn : Strewn fits t t') :
    t'.text = t.text :=
  hStrewn.words.text

theorem sprinkled
    (hStrewn : Strewn fits t t') :
    Sprinkled (Strewn fits) fits [] t.label t.children
      t'.children := by
  cases hStrewn with
  | node _ hSprinkled => exact hSprinkled

end Strewn

/- A test that no comment passes sees the same children. -/
theorem Sprinkled.filter
    {before cs cs' : List Tree}
    {host : Label}
    (hSprinkled :
      Sprinkled (Strewn fits) fits before host cs cs')
    (p : Tree → Bool)
    (hComment : ∀ c, c.IsComment → p c = false)
    (hSame : ∀ c c', Strewn fits c c' → p c' = p c) :
    List.Forall₂ (Strewn fits) (cs.filter p)
      (cs'.filter p) := by
  generalize hR : Strewn fits = R at hSprinkled
  induction hSprinkled with
  | done => exact .nil
  | @kept _ _ _ _ c c' hKept _ ih =>
      subst hR
      have hEq := hSame c c' hKept
      cases hP : p c with
      | true =>
          rw [List.filter_cons_of_pos hP,
            List.filter_cons_of_pos (hEq.trans hP)]
          exact .cons hKept ih
      | false =>
          rw [hP] at hEq
          rw [List.filter_cons_of_neg (by simp [hP]),
            List.filter_cons_of_neg (by simp [hEq])]
          exact ih
  | comment hNew _ _ ih =>
      rw [List.filter_cons_of_neg (by simp [hComment _ hNew])]
      exact ih

/- The first members of related lists are related. -/
theorem rel_head?
    {α β : Type}
    {R : α → β → Prop}
    {xs : List α}
    {ys : List β}
    (hAll : List.Forall₂ R xs ys) :
    Option.Rel R xs.head? ys.head? := by
  cases hAll with
  | nil => exact .none
  | cons hFirst _ => exact .some hFirst

theorem isSome_eq_of_rel
    {α β : Type}
    {R : α → β → Prop}
    {x : Option α}
    {y : Option β}
    (hRel : Option.Rel R x y) :
    y.isSome = x.isSome := by
  cases hRel <;> rfl

theorem map_eq_of_rel
    {α β γ : Type}
    {R : α → β → Prop}
    {x : Option α}
    {y : Option β}
    {f : α → γ}
    {g : β → γ}
    (hRel : Option.Rel R x y)
    (hSame : ∀ a b, R a b → g b = f a) :
    y.map g = x.map f := by
  cases hRel with
  | none => rfl
  | some hRelated => exact congrArg some (hSame _ _ hRelated)

theorem bind_eq_of_rel
    {α β γ : Type}
    {R : α → β → Prop}
    {x : Option α}
    {y : Option β}
    {f : α → Option γ}
    {g : β → Option γ}
    (hRel : Option.Rel R x y)
    (hSame : ∀ a b, x = some a → R a b → g b = f a) :
    y.bind g = x.bind f := by
  cases hRel with
  | none => rfl
  | some hRelated => exact hSame _ _ rfl hRelated

theorem rel_bind
    {α β γ δ : Type}
    {R : α → β → Prop}
    {S : γ → δ → Prop}
    {x : Option α}
    {y : Option β}
    {f : α → Option γ}
    {g : β → Option δ}
    (hRel : Option.Rel R x y)
    (hSame : ∀ a b, R a b → Option.Rel S (f a) (g b)) :
    Option.Rel S (x.bind f) (y.bind g) := by
  cases hRel with
  | none => exact .none
  | some hRelated => exact hSame _ _ hRelated

theorem Sprinkled.find?
    {before cs cs' : List Tree}
    {host : Label}
    (hSprinkled :
      Sprinkled (Strewn fits) fits before host cs cs')
    (p : Tree → Bool)
    (hComment : ∀ c, c.IsComment → p c = false)
    (hSame : ∀ c c', Strewn fits c c' → p c' = p c) :
    Option.Rel (Strewn fits) (cs.find? p) (cs'.find? p) := by
  rw [← List.head?_filter, ← List.head?_filter]
  exact rel_head? (hSprinkled.filter p hComment hSame)

namespace Strewn

/- A field is filled by the same child. -/
theorem rel_child?
    (hStrewn : Strewn fits t t')
    (field : String) :
    Option.Rel (Strewn fits) (t.child? field)
      (t'.child? field) := by
  refine hStrewn.sprinkled.find? _ ?_ ?_
  · intro c hComment
    simp [hComment.2.2.1]
  · intro c c' hKept
    simp [hKept.words.field]

/- The children of a kind other than that of comments. -/
theorem rel_filter_kind
    (hStrewn : Strewn fits t t')
    (kind : String)
    (hKind : kind ≠ "comment") :
    List.Forall₂ (Strewn fits)
      (t.children.filter (fun c => c.kind == kind))
      (t'.children.filter (fun c => c.kind == kind)) := by
  refine hStrewn.sprinkled.filter _ ?_ ?_
  · intro c hComment
    rw [hComment.1]
    exact beq_false_of_ne hKind.symm
  · intro c c' hKept
    rw [hKept.kind_eq]

theorem rel_childDecorators
    (hStrewn : Strewn fits t t') :
    List.Forall₂ (Strewn fits) (childDecorators t)
      (childDecorators t') :=
  hStrewn.rel_filter_kind _ (by decide)

theorem any_kind_eq
    (hStrewn : Strewn fits t t')
    (kind : String)
    (hKind : kind ≠ "comment") :
    t'.children.any (fun c => c.kind == kind) =
      t.children.any (fun c => c.kind == kind) := by
  have hHeads := rel_head? (hStrewn.rel_filter_kind kind hKind)
  rw [List.head?_filter, List.head?_filter] at hHeads
  rw [← List.isSome_find?, ← List.isSome_find?]
  exact isSome_eq_of_rel hHeads

theorem rel_firstNamed?
    (hStrewn : Strewn fits t t')
    {kind : String}
    (hKind : kind ≠ "comment") :
    Option.Rel (Strewn fits) (t.firstNamed? kind)
      (t'.firstNamed? kind) := by
  unfold Tree.firstNamed? Tree.named
  rw [List.find?_filter, List.find?_filter]
  refine hStrewn.sprinkled.find? _ ?_ ?_
  · intro c hComment
    simp [hComment.1, hKind.symm]
  · intro c c' hKept
    rw [hKept.words.named, hKept.kind_eq]

end Strewn

------------------------------------------------------------
-- Substance
------------------------------------------------------------

/- The named children that are no comments. -/
def Tree.substance
    (t : Tree) : List Tree :=
  t.named.filter (fun c => c.kind != "comment")

theorem Strewn.rel_substance
    (hStrewn : Strewn fits t t') :
    List.Forall₂ (Strewn fits) t.substance t'.substance := by
  unfold Tree.substance Tree.named
  rw [List.filter_filter, List.filter_filter]
  refine hStrewn.sprinkled.filter _ ?_ ?_
  · intro c hComment
    simp [hComment.1]
  · intro c c' hKept
    rw [hKept.words.named, hKept.kind_eq]

/- Steps that pass comments over go through the substance. -/
theorem foldl_named
    {β : Type}
    {f : β → Tree → β}
    (hComment : ∀ b c, c.kind = "comment" → f b c = b)
    (t : Tree)
    (b : β) :
    t.named.foldl f b = t.substance.foldl f b := by
  unfold Tree.substance
  rw [List.foldl_filter]
  congr 1
  funext b c
  by_cases hKind : c.kind = "comment"
  · simp [hKind, hComment b c hKind]
  · simp [hKind]

theorem filterMap_named
    {β : Type}
    {f : Tree → Option β}
    (hComment : ∀ c, c.kind = "comment" → f c = none)
    (t : Tree) :
    t.named.filterMap f = t.substance.filterMap f := by
  unfold Tree.substance
  rw [List.filterMap_filter]
  congr 1
  funext c
  by_cases hKind : c.kind = "comment"
  · simp [hKind, hComment c hKind]
  · simp [hKind]

/- Related members that count alike come to the same. -/
theorem foldl_eq_of_forall₂
    {α β : Type}
    {R : α → α → Prop}
    {f : β → α → β}
    {xs ys : List α}
    (hAll : List.Forall₂ R xs ys)
    (hSame : ∀ b x y, R x y → f b y = f b x)
    (b : β) :
    ys.foldl f b = xs.foldl f b := by
  refine (List.rel_foldl ?_ rfl hAll).symm
  intro b b' hEq x y hRelated
  rw [hEq]
  exact (hSame b' x y hRelated).symm

/- Related members that give alike give the same. -/
theorem filterMap_eq_of_forall₂
    {α β : Type}
    {R : α → α → Prop}
    {f : α → Option β}
    {xs ys : List α}
    (hAll : List.Forall₂ R xs ys)
    (hSame : ∀ x y, R x y → f y = f x) :
    ys.filterMap f = xs.filterMap f := by
  induction hAll with
  | nil => rfl
  | cons hFirst _ ih =>
      rw [List.filterMap_cons, List.filterMap_cons,
        hSame _ _ hFirst, ih]

/- Comments that come to nothing leave the sum as it was. -/
theorem Sprinkled.flatMap_eq
    {β : Type}
    {before cs cs' : List Tree}
    {host : Label}
    {f g : Tree → List β}
    (hSprinkled :
      Sprinkled (Strewn fits) fits before host cs cs')
    (hComment : ∀ c, c.IsComment → g c = [])
    (hSame : ∀ c ∈ cs, ∀ c', Strewn fits c c' → g c' = f c) :
    cs'.flatMap g = cs.flatMap f := by
  generalize hR : Strewn fits = R at hSprinkled
  induction hSprinkled with
  | done => rfl
  | @kept _ _ _ _ c c' hKept _ ih =>
      subst hR
      rw [List.flatMap_cons, List.flatMap_cons,
        hSame c List.mem_cons_self c' hKept,
        ih (fun d hMem => hSame d (List.mem_cons_of_mem _ hMem))]
  | comment hNew _ _ ih =>
      rw [List.flatMap_cons, hComment _ hNew, List.nil_append]
      exact ih hSame

theorem Sprinkled.refl
    {R : Tree → Tree → Prop}
    {host : Label}
    (before cs : List Tree)
    (hSelf : ∀ c ∈ cs, R c c) :
    Sprinkled R fits before host cs cs := by
  induction cs generalizing before with
  | nil => exact .done
  | cons c cs ih =>
      obtain ⟨hFirst, hRest⟩ := List.forall_mem_cons.mp hSelf
      exact .kept hFirst (ih (c :: before) hRest)

/- Without comments the tree stays the same. -/
theorem Strewn.refl
    (t : Tree) :
    Strewn fits t t := by
  induction hSize : t.size using Nat.strongRecOn
    generalizing t with
  | ind size ih =>
      cases t with
      | node l cs =>
          refine .node ⟨rfl, rfl, rfl, rfl⟩ (.refl [] cs ?_)
          intro c hMem
          have hLt : c.size < Tree.size (.node l cs) :=
            Tree.size_lt_of_mem_children hMem
          exact ih c.size (hSize ▸ hLt) c rfl

end

end Script

end ModuleLint
