import ModuleLint.Proofs.Facts.Comments
import ModuleLint.Proofs.Facts.Recount

/-
  What comments do to the facts of classes.

  A comment in a class is passed over, unless it stands where
  the collector takes whatever it finds: right behind a
  decorator in a body, in an implements clause, or first in
  parentheses.  Such comments apart, the parts of a class come
  to the same with more comments in them.

  Main declarations:
    * `ClassFact.placeless`, `Script.Harmless`
    * `Script.Strewn.decoratorFact?_eq`
    * `Script.Strewn.heritage_eq`
    * `Script.Sprinkled.rel_methods`
    * `Script.Strewn.reference_same`
    * `Script.Strewn.placeless_classFact?_eq`
-/

namespace ModuleLint

------------------------------------------------------------
-- Facts Without Places
------------------------------------------------------------

/- A decorator wherever it stands. -/
def DecoratorFact.placeless
    (d : DecoratorFact) : DecoratorFact :=
  { d with
    line := 0
    column := 0 }

/- A method wherever it stands. -/
def MethodFact.placeless
    (m : MethodFact) : MethodFact :=
  { m with
    line := 0
    column := 0
    decorators := m.decorators.map DecoratorFact.placeless }

/- A class wherever it stands. -/
def ClassFact.placeless
    (c : ClassFact) : ClassFact :=
  { c with
    line := 0
    column := 0
    endLine := 0
    decorators := c.decorators.map DecoratorFact.placeless
    methods := c.methods.map MethodFact.placeless }

namespace Script

/-
  In a body the comment does not stand right behind a
  decorator.  It does not pass for the name of an interface,
  and it is not the first thing in parentheses.
-/
structure Harmless
    (host : Label)
    (before : List Tree)
    (c : Tree) : Prop where
  apart : host.field = some "body" →
    ∀ p ∈ before.head?, p.kind ≠ "decorator"
  nameless : host.kind = "implements_clause" →
    baseName c.text = ""
  later : host.kind = "parenthesized_expression" →
    ∃ p ∈ before, p.label.named = true

section

variable {fits : Label → List Tree → Tree → Prop}
variable {t t' : Tree}

------------------------------------------------------------
-- Decorators
------------------------------------------------------------

/- A decorator is the same one with comments in it. -/
theorem Strewn.decoratorFact?_eq
    (hStrewn : Strewn fits t t') :
    (decoratorFact? t').map DecoratorFact.placeless =
      (decoratorFact? t).map DecoratorFact.placeless := by
  have hInner := rel_head? hStrewn.rel_substance
  unfold Tree.substance at hInner
  rw [List.head?_filter, List.head?_filter] at hInner
  unfold decoratorFact?
  simp only [Option.bind_eq_bind, Option.map_bind]
  refine bind_eq_of_rel hInner ?_
  intro inner inner' _ hSame
  simp only [Function.comp_apply, hSame.kind_eq]
  split_ifs
  · simp only [Option.map_bind]
    refine bind_eq_of_rel (hSame.rel_child? "function") ?_
    intro callee callee' _ hCallee
    simp only [Function.comp_apply, hCallee.text_eq]
    split_ifs <;> rfl
  · simp only [Option.bind_some, hSame.text_eq]
    split_ifs <;> rfl

/- Related decorators are the same ones, wherever they stand. -/
theorem map_placeless_decorators
    {ts ts' : List Tree}
    (hAll : List.Forall₂ (Strewn fits) ts ts') :
    (ts'.filterMap decoratorFact?).map DecoratorFact.placeless =
      (ts.filterMap decoratorFact?).map
        DecoratorFact.placeless := by
  rw [List.map_filterMap, List.map_filterMap]
  exact filterMap_eq_of_forall₂ hAll
    (fun _ _ hSame => hSame.decoratorFact?_eq)

------------------------------------------------------------
-- Members
------------------------------------------------------------

theorem Strewn.rel_parameters
    (hStrewn : Strewn fits t t') :
    List.Forall₂ (Strewn fits) (parameters t)
      (parameters t') := by
  have hList := hStrewn.rel_child? "parameters"
  unfold parameters
  generalize t.child? "parameters" = ps at hList ⊢
  generalize t'.child? "parameters" = ps' at hList ⊢
  cases hList with
  | none => exact .nil
  | some hList => exact hList.rel_substance

/- A parameter is the same one with comments in it. -/
theorem Strewn.paramFact?_eq
    (hStrewn : Strewn fits t t') :
    paramFact? t' = paramFact? t := by
  have hPattern := hStrewn.rel_child? "pattern"
  have hType :
      (t'.child? "type").map
          (fun c =>
            Text.trim (Text.trimStartBy (· == ':') c.text)) =
        (t.child? "type").map
          (fun c =>
            Text.trim (Text.trimStartBy (· == ':') c.text)) :=
    map_eq_of_rel (hStrewn.rel_child? "type")
      (fun _ _ hSame => by rw [hSame.text_eq])
  have hDecorators :
      ((childDecorators t').filterMap
          decoratorFact?).map (·.name) =
        ((childDecorators t).filterMap
          decoratorFact?).map (·.name) := by
    have hNames := congrArg (List.map (·.name))
      (map_placeless_decorators hStrewn.rel_childDecorators)
    simpa [DecoratorFact.placeless, Function.comp_def]
      using hNames
  unfold paramFact?
  rw [hStrewn.kind_eq, hStrewn.text_eq, hType, hDecorators]
  generalize t.child? "pattern" = pattern at hPattern ⊢
  generalize t'.child? "pattern" = pattern' at hPattern ⊢
  cases hPattern with
  | none => rfl
  | some hPattern =>
      simp only [hPattern.kind_eq, hPattern.text_eq]

theorem Strewn.constructorParams_eq
    (hStrewn : Strewn fits t t') :
    constructorParams t' = constructorParams t :=
  filterMap_eq_of_forall₂ hStrewn.rel_parameters
    (fun _ _ hSame => hSame.paramFact?_eq)

------------------------------------------------------------
-- Heritage
------------------------------------------------------------

/- Comments that fit an implements clause have no names. -/
theorem Sprinkled.interfaces_eq
    {before cs cs' : List Tree}
    {host : Label}
    (hSprinkled :
      Sprinkled (Strewn Harmless) Harmless before host cs cs')
    (hHost : host.kind = "implements_clause") :
    ((cs'.filter (fun c => c.label.named)).map
        (fun c => baseName c.text)).filter (fun n => !n.isEmpty) =
      ((cs.filter (fun c => c.label.named)).map
        (fun c => baseName c.text)).filter
          (fun n => !n.isEmpty) := by
  generalize hR : Strewn Harmless = R at hSprinkled
  induction hSprinkled with
  | done => rfl
  | kept hKept _ ih =>
      subst hR
      simp only [List.filter_cons, hKept.words.named]
      split_ifs
      · simp only [List.map_cons, List.filter_cons,
          hKept.text_eq, ih hHost]
      · exact ih hHost
  | comment hNew hFits _ ih =>
      have hEmpty := hFits.nameless hHost
      simp [hNew.2.1, hEmpty, ih hHost]

/- A clause adds the same with comments in it. -/
theorem Strewn.add_heritage_eq
    (hStrewn : Strewn Harmless t t')
    (h : Heritage) :
    h.add t' = h.add t := by
  have hValue :
      (t'.child? "value").map (fun v => baseName v.text) =
        (t.child? "value").map (fun v => baseName v.text) :=
    map_eq_of_rel (hStrewn.rel_child? "value")
      (fun _ _ hSame => by rw [hSame.text_eq])
  unfold Heritage.add
  rw [hStrewn.kind_eq, hStrewn.text_eq, hValue]
  split
  · rfl
  · next hKind =>
      have hNames := hStrewn.sprinkled.interfaces_eq hKind
      unfold Tree.named
      rw [hNames]
  · rfl
  · rfl

/- A class has the same heritage with comments in it. -/
theorem Strewn.heritage_eq
    (hStrewn : Strewn Harmless t t') :
    heritage t' = heritage t := by
  have hComment :
      ∀ (h : Heritage) (c : Tree),
        c.kind = "comment" → h.add c = h := by
    intro h c hKind
    simp [Heritage.add, hKind]
  have hClauses := hStrewn.rel_filter_kind
    "class_heritage" (by decide)
  unfold heritage
  rw [List.foldl_flatMap, List.foldl_flatMap]
  refine foldl_eq_of_forall₂ hClauses ?_ _
  intro h clauses clauses' hSame
  rw [foldl_named hComment, foldl_named hComment]
  exact foldl_eq_of_forall₂ hSame.rel_substance
    (fun h _ _ hClause => hClause.add_heritage_eq h) h

------------------------------------------------------------
-- Methods
------------------------------------------------------------

/- The same member with as many decorators. -/
structure Member.Alike
    (m m' : Member) : Prop where
  tree : Strewn Harmless m.tree m'.tree
  decorators :
    List.Forall₂ (Strewn Harmless) m.decorators m'.decorators

/- The decorators in a row, the nearest one first. -/
def decoratorsBefore
    (before : List Tree) : List Tree :=
  before.takeWhile (fun t => t.kind == "decorator")

/- No comment comes between decorators and their method. -/
theorem Sprinkled.rel_methods
    {before before' cs cs' : List Tree}
    {host : Label}
    (hSprinkled :
      Sprinkled (Strewn Harmless) Harmless before host cs cs')
    (hHost : host.field = some "body")
    (hBefore :
      List.Forall₂ (Strewn Harmless) (decoratorsBefore before)
        (decoratorsBefore before')) :
    List.Forall₂ Member.Alike
      ((members before cs).filter Member.isMethod)
      ((members before' cs').filter Member.isMethod) := by
  generalize hR : Strewn Harmless = R at hSprinkled
  induction hSprinkled generalizing before' with
  | done => exact .nil
  | @kept _ before cs cs' c c' hKept _ ih =>
      subst hR
      have hRest :
          List.Forall₂ (Strewn Harmless)
            (decoratorsBefore (c :: before))
            (decoratorsBefore (c' :: before')) := by
        unfold decoratorsBefore
        rw [List.takeWhile_cons, List.takeWhile_cons,
          hKept.kind_eq]
        split
        · exact .cons hKept hBefore
        · exact .nil
      have hMethod :
          Member.isMethod ⟨c', before'⟩ =
            Member.isMethod ⟨c, before⟩ := by
        unfold Member.isMethod
        rw [hKept.kind_eq]
      have hAlike : Member.Alike ⟨c, before⟩ ⟨c', before'⟩ :=
        ⟨hKept, List.rel_append (List.rel_reverse hBefore)
          hKept.rel_childDecorators⟩
      rw [members, members, List.filter_cons, List.filter_cons,
        hMethod]
      split
      · exact .cons hAlike (ih hHost hRest)
      · exact ih hHost hRest
  | @comment _ before cs cs' c hNew hFits _ ih =>
      have hMethod :
          Member.isMethod ⟨c, before'⟩ = false := by
        simp [Member.isMethod, hNew.1]
      -- The comment ends the row of decorators, but there is
      -- none before it.
      have hRow : decoratorsBefore before = [] := by
        unfold decoratorsBefore
        cases before with
        | nil => rfl
        | cons p _ =>
            have hApart := hFits.apart hHost p rfl
            exact List.takeWhile_cons_of_neg
              (by simpa using hApart)
      have hRow' : decoratorsBefore (c :: before') = [] :=
        List.takeWhile_cons_of_neg (by simp [hNew.1])
      rw [members, List.filter_cons_of_neg (by simp [hMethod])]
      refine ih hHost ?_
      rw [hRow, hRow']
      exact .nil

/- Alike members are the same method, wherever they stand. -/
theorem Member.Alike.methodFact_eq
    {m m' : Member}
    {name name' : Tree}
    (hAlike : m.Alike m')
    (hName : name'.text = name.text) :
    (methodFact m' name').placeless =
      (methodFact m name).placeless := by
  have hTree := hAlike.tree
  have hCount := hTree.rel_parameters.length_eq
  unfold methodFact MethodFact.placeless
  simp only [hName, map_placeless_decorators hAlike.decorators,
    hTree.any_kind_eq "async" (by decide),
    hTree.any_kind_eq "static" (by decide), hCount]

/- Methods and parameters wherever they stand. -/
def Body.placeless
    (b : Body) : Body :=
  { b with methods := b.methods.map MethodFact.placeless }

/- Alike members add the same. -/
theorem Member.Alike.add_body_eq
    {m m' : Member}
    {b b' : Body}
    (hAlike : m.Alike m')
    (hBody : b'.placeless = b.placeless) :
    (b'.add m').placeless = (b.add m).placeless := by
  have hTree := hAlike.tree
  have hName := hTree.rel_child? "name"
  have hMethod : m'.isMethod = m.isMethod := by
    unfold Member.isMethod
    rw [hTree.kind_eq]
  unfold Body.add
  rw [hMethod]
  split
  · generalize m.tree.child? "name" = name at hName ⊢
    generalize m'.tree.child? "name" = name' at hName ⊢
    cases hName with
    | none => exact hBody
    | some hName =>
        have hFact := hAlike.methodFact_eq hName.text_eq
        obtain ⟨hMethods, hParams⟩ := Body.mk.inj hBody
        simp only [hName.text_eq]
        split
        · simp only [Body.placeless, hMethods,
            hTree.constructorParams_eq]
        · simp only [Body.placeless, List.map_append, hMethods,
            hParams, List.map_cons, List.map_nil, hFact]
  · exact hBody

/- Only methods add anything. -/
theorem foldl_filter_isMethod
    (ms : List Member)
    (b : Body) :
    (ms.filter Member.isMethod).foldl Body.add b =
      ms.foldl Body.add b := by
  rw [List.foldl_filter]
  congr 1
  funext b m
  unfold Body.add
  split <;> rfl

/- A class holds the same with comments in it. -/
theorem Strewn.placeless_body_eq
    (hStrewn : Strewn Harmless t t') :
    (body t').placeless = (body t).placeless := by
  have hBody := hStrewn.rel_child? "body"
  unfold body
  generalize hChild : t.child? "body" = b at hBody ⊢
  generalize t'.child? "body" = b' at hBody ⊢
  cases hBody with
  | none => rfl
  | @some b b' hBody =>
      have hField : b.label.field = some "body" := by
        simpa using List.find?_some hChild
      have hNone :
          List.Forall₂ (Strewn Harmless) (decoratorsBefore [])
            (decoratorsBefore []) := .nil
      have hMethods := hBody.sprinkled.rel_methods hField hNone
      have hFold := List.rel_foldl
        (P := fun b b' : Body => b'.placeless = b.placeless)
        (fun _ _ hSame _ _ hAlike => hAlike.add_body_eq hSame)
        (Eq.refl (Body.placeless {})) hMethods
      rw [foldl_filter_isMethod, foldl_filter_isMethod] at hFold
      exact hFold

------------------------------------------------------------
-- References
------------------------------------------------------------

/- A reference, by the kind of the entry. -/
theorem reference_eq
    (t : Tree) :
    reference t =
      match t.kind with
      | "identifier" => some t.text
      | "parenthesized_expression" =>
          t.named.head?.bind reference
      | "call_expression" =>
          (t.child? "function").bind (fun function =>
            if function.kind == "identifier" then
              if function.text == "forwardRef" then
                (forwarded? t).bind reference
              else
                none
            else if function.kind == "member_expression" then
              (function.child? "object").bind (fun object =>
                if object.kind == "identifier" then
                  some object.text
                else
                  none)
            else
              none)
      | "object" => providerToken t
      | _ => none := by
  rw [reference]
  generalize t.kind = kind
  split
  · rfl
  · simp only
    split
    · next inner hInner => rw [hInner, Option.bind_some]
    · next hInner => rw [hInner, Option.bind_none]
  · cases t.child? "function" with
    | none => rfl
    | some function =>
        simp only [Option.bind_some]
        refine if_congr Iff.rfl (if_congr Iff.rfl ?_ rfl)
          (if_congr Iff.rfl ?_ rfl)
        · cases forwarded? t <;> rfl
        · cases function.child? "object" <;> rfl
  · rfl
  · simp only [*]

theorem reference_comment
    (c : Tree)
    (hKind : c.kind = "comment") :
    reference c = none := by
  rw [reference_eq, hKind]
  rfl

/- What is forwarded is the same with comments in it. -/
theorem Strewn.rel_forwarded?
    (hStrewn : Strewn fits t t') :
    Option.Rel (Strewn fits) (forwarded? t) (forwarded? t') :=
  rel_bind (hStrewn.rel_child? "arguments")
    (fun _ _ hArguments =>
      rel_bind (hArguments.rel_firstNamed? (by decide))
        (fun _ _ hArrow => hArrow.rel_child? "body"))

/- A pair says the same with comments in it. -/
theorem Strewn.add_provided_eq
    (hStrewn : Strewn fits t t')
    (p : Provided) :
    p.add t' = p.add t := by
  have hKey := hStrewn.rel_child? "key"
  have hValue := hStrewn.rel_child? "value"
  unfold Provided.add
  rw [hStrewn.kind_eq]
  generalize t.child? "key" = k at hKey ⊢
  generalize t'.child? "key" = k' at hKey ⊢
  generalize t.child? "value" = v at hValue ⊢
  generalize t'.child? "value" = v' at hValue ⊢
  cases hKey with
  | none => rfl
  | some hKey =>
      cases hValue with
      | none => rfl
      | some hValue =>
          simp only [hKey.text_eq, hValue.kind_eq,
            hValue.text_eq]

/- An object provides the same with comments in it. -/
theorem Strewn.providerToken_eq
    (hStrewn : Strewn fits t t') :
    providerToken t' = providerToken t := by
  have hComment :
      ∀ (p : Provided) (c : Tree),
        c.kind = "comment" → p.add c = p := by
    intro p c hKind
    simp [Provided.add, hKind]
  unfold providerToken
  rw [foldl_named hComment, foldl_named hComment,
    foldl_eq_of_forall₂ hStrewn.rel_substance
      (fun p _ _ hPair => hPair.add_provided_eq p)]

/- No comment comes first in parentheses. -/
theorem Sprinkled.rel_first
    {before cs cs' : List Tree}
    {host : Label}
    (hSprinkled :
      Sprinkled (Strewn Harmless) Harmless before host cs cs')
    (hHost : host.kind = "parenthesized_expression")
    (hBefore : ∀ p ∈ before, p.label.named ≠ true) :
    Option.Rel (Strewn Harmless)
      (cs.filter (fun c => c.label.named)).head?
      (cs'.filter (fun c => c.label.named)).head? := by
  generalize hR : Strewn Harmless = R at hSprinkled
  induction hSprinkled with
  | done => exact .none
  | @kept _ _ _ _ c _ hKept _ ih =>
      subst hR
      rw [List.filter_cons, List.filter_cons, hKept.words.named]
      split
      · exact .some hKept
      · next hNamed =>
          exact ih hHost
            (List.forall_mem_cons.mpr ⟨hNamed, hBefore⟩)
  | comment _ hFits _ _ =>
      obtain ⟨p, hMem, hNamed⟩ := hFits.later hHost
      exact absurd hNamed (hBefore p hMem)

/- An entry refers to the same class with comments in it. -/
theorem Strewn.reference_same
    (hStrewn : Strewn Harmless t t') :
    reference t' = reference t := by
  -- The entry may be deep in parentheses and calls.
  induction hSize : t.size using Nat.strongRecOn
    generalizing t t' with
  | ind size ih =>
      rw [reference_eq t, reference_eq t', hStrewn.kind_eq]
      split
      · rw [hStrewn.text_eq]
      · next hKind =>
          refine bind_eq_of_rel
            (hStrewn.sprinkled.rel_first hKind (by simp)) ?_
          intro inner inner' hInner hSame
          have hLt := Tree.size_lt_of_mem_children
            (Tree.mem_of_head?_named hInner)
          exact ih _ (hSize ▸ hLt) hSame rfl
      · refine bind_eq_of_rel (hStrewn.rel_child? "function") ?_
        intro function function' _ hFunction
        have hForward :
            (forwarded? t').bind reference =
              (forwarded? t).bind reference := by
          refine bind_eq_of_rel hStrewn.rel_forwarded? ?_
          intro inner inner' hInner hSame
          have hLt := size_lt_of_forwarded? hInner
          exact ih _ (hSize ▸ hLt) hSame rfl
        have hObject :
            ((function'.child? "object").bind fun object =>
                if object.kind == "identifier" then
                  some object.text
                else
                  none) =
              (function.child? "object").bind fun object =>
                if object.kind == "identifier" then
                  some object.text
                else
                  none :=
          bind_eq_of_rel (hFunction.rel_child? "object")
            (fun _ _ _ hSame => by
              rw [hSame.kind_eq, hSame.text_eq])
        rw [hFunction.kind_eq, hFunction.text_eq, hForward,
          hObject]
      · exact hStrewn.providerToken_eq
      · rfl

------------------------------------------------------------
-- Module Metadata
------------------------------------------------------------

theorem Strewn.references_eq
    (hStrewn : Strewn Harmless t t') :
    references t' = references t := by
  unfold references
  rw [hStrewn.kind_eq, filterMap_named reference_comment,
    filterMap_named reference_comment,
    filterMap_eq_of_forall₂ hStrewn.rel_substance
      (fun _ _ hEntry => hEntry.reference_same)]

/- A pair adds the same with comments in it. -/
theorem Strewn.add_metadata_eq
    (hStrewn : Strewn Harmless t t')
    (m : ModuleMetadata) :
    ModuleMetadata.add m t' = ModuleMetadata.add m t := by
  have hKey := hStrewn.rel_child? "key"
  have hValue := hStrewn.rel_child? "value"
  unfold ModuleMetadata.add
  rw [hStrewn.kind_eq]
  generalize t.child? "key" = k at hKey ⊢
  generalize t'.child? "key" = k' at hKey ⊢
  generalize t.child? "value" = v at hValue ⊢
  generalize t'.child? "value" = v' at hValue ⊢
  cases hKey with
  | none => rfl
  | some hKey =>
      cases hValue with
      | none => rfl
      | some hValue =>
          simp only [hKey.text_eq, hValue.references_eq]

/- A decorator carries the same lists with comments in it. -/
theorem Strewn.moduleMetadata_eq
    (hStrewn : Strewn Harmless t t') :
    moduleMetadata t' = moduleMetadata t := by
  have hComment :
      ∀ (m : ModuleMetadata) (c : Tree),
        c.kind = "comment" → ModuleMetadata.add m c = m := by
    intro m c hKind
    simp [ModuleMetadata.add, hKind]
  have hObject :
      Option.Rel (Strewn Harmless) (argumentObject? t)
        (argumentObject? t') :=
    rel_bind (hStrewn.rel_firstNamed? (by decide))
      (fun _ _ hCall =>
        rel_bind (hCall.rel_child? "arguments")
          (fun _ _ hArguments =>
            hArguments.rel_firstNamed? (by decide)))
  unfold moduleMetadata
  generalize argumentObject? t = object at hObject ⊢
  generalize argumentObject? t' = object' at hObject ⊢
  cases hObject with
  | none => rfl
  | some hObject =>
      simp only
      rw [foldl_named hComment, foldl_named hComment]
      exact foldl_eq_of_forall₂ hObject.rel_substance
        (fun m _ _ hPair => hPair.add_metadata_eq m) {}

------------------------------------------------------------
-- Classes
------------------------------------------------------------

/- Kinds do not depend on where decorators stand. -/
theorem kindsOf_placeless
    (name : String)
    (decorators : List DecoratorFact)
    (interfaces : List String) :
    kindsOf name (decorators.map DecoratorFact.placeless)
        interfaces =
      kindsOf name decorators interfaces := by
  unfold kindsOf
  rw [List.filterMap_map]
  rfl

/- The trees of the decorators of a class. -/
def classDecorators
    (parent : Option Tree)
    (t : Tree) : List Tree :=
  ((parent.filter (fun p => p.kind == "export_statement")).map
      childDecorators).getD [] ++
    childDecorators t

/- The same tree exports the class, if any. -/
theorem rel_exporter
    {parent parent' : Option Tree}
    (hParent : Option.Rel (Strewn fits) parent parent') :
    Option.Rel (Strewn fits)
      (parent.filter (fun p => p.kind == "export_statement"))
      (parent'.filter
        (fun p => p.kind == "export_statement")) := by
  cases hParent with
  | none => exact .none
  | some hParent =>
      rw [Option.filter_some, Option.filter_some, hParent.kind_eq]
      split
      · exact .some hParent
      · exact .none

theorem Strewn.rel_classDecorators
    {parent parent' : Option Tree}
    (hStrewn : Strewn fits t t')
    (hParent : Option.Rel (Strewn fits) parent parent') :
    List.Forall₂ (Strewn fits) (classDecorators parent t)
      (classDecorators parent' t') := by
  have hExporter := rel_exporter hParent
  refine List.rel_append ?_ hStrewn.rel_childDecorators
  generalize parent.filter _ = e at hExporter ⊢
  generalize parent'.filter _ = e' at hExporter ⊢
  cases hExporter with
  | none => exact .nil
  | some hExporter => exact hExporter.rel_childDecorators

/- The module metadata are read off the same decorator. -/
theorem metadata_eq_of_rel
    {ds ds' : List Tree}
    (hAll : List.Forall₂ (Strewn Harmless) ds ds') :
    (ds'.find? (fun d =>
        (decoratorFact? d).any
          (fun f => f.name == "Module"))).map moduleMetadata =
      (ds.find? (fun d =>
        (decoratorFact? d).any
          (fun f => f.name == "Module"))).map
            moduleMetadata := by
  have hName :
      ∀ (d : Tree),
        (decoratorFact? d).any (fun f => f.name == "Module") =
          ((decoratorFact? d).map
            DecoratorFact.placeless).any
              (fun f => f.name == "Module") := by
    intro d
    cases decoratorFact? d <;> rfl
  rw [← List.head?_filter, ← List.head?_filter]
  refine map_eq_of_rel (rel_head? (List.rel_filter ?_ hAll))
    (fun _ _ hSame => hSame.moduleMetadata_eq)
  intro d d' hSame
  have hEq := hSame.decoratorFact?_eq
  simp only [hName d, hName d', hEq]

/- A class is the same one with comments in it. -/
theorem Strewn.placeless_classFact?_eq
    {parent parent' : Option Tree}
    (hStrewn : Strewn Harmless t t')
    (hParent : Option.Rel (Strewn Harmless) parent parent') :
    (classFact? parent' t').map ClassFact.placeless =
      (classFact? parent t).map ClassFact.placeless := by
  have hTrees := hStrewn.rel_classDecorators hParent
  have hDecorators := map_placeless_decorators hTrees
  have hMetadata := metadata_eq_of_rel hTrees
  have hExported := isSome_eq_of_rel (rel_exporter hParent)
  have hKinds :
      ∀ name interfaces,
        kindsOf name
            ((classDecorators parent' t').filterMap
              decoratorFact?) interfaces =
          kindsOf name
            ((classDecorators parent t).filterMap
              decoratorFact?) interfaces := by
    intro name interfaces
    rw [← kindsOf_placeless, hDecorators, kindsOf_placeless]
  obtain ⟨hMethods, hParams⟩ :=
    Body.mk.inj hStrewn.placeless_body_eq
  unfold classFact?
  simp only [Option.bind_eq_bind, Option.map_bind]
  refine bind_eq_of_rel (hStrewn.rel_child? "name") ?_
  intro name name' _ hName
  simp only [Function.comp_apply, hName.text_eq]
  split
  · rfl
  · unfold classDecorators at hDecorators hMetadata hKinds
    simp only [Option.map_some, ClassFact.placeless, hDecorators,
      hMetadata, hExported, hStrewn.heritage_eq, hKinds, hMethods,
      hParams]

end

end Script

end ModuleLint
