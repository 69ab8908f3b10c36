import ModuleLint.Proofs.Facts.Classify

/-
  The classes of a file with comments in it.

  The collector passes most comments over.  It takes three for
  something else: one that comes between a decorator and its
  method, one that comes first in parentheses, and one behind
  `implements` that reads like a name.  Any other comments
  leave all classes as they are.

  Main declarations:
    * `Script.Visit.classes`, `Script.classes_of_single`
    * `Script.classes_of_strewn`
-/

namespace ModuleLint

namespace Script

section

variable {fits : Label → List Tree → Tree → Prop}
variable {t t' : Tree}

------------------------------------------------------------
-- Files
------------------------------------------------------------

/- The class that a finding is. -/
def Finding.class? : Finding → Option ClassFact
  | .classDecl f => some f
  | _ => none

/- What is neither a class nor a method shows no class. -/
theorem class?_of_record
    {scope : Scope}
    {f : Finding}
    (hRecord : record scope t = some f) :
    f.class? = none := by
  unfold record at hRecord
  split at hRecord
  all_goals
    first
    | obtain ⟨_, _, rfl⟩ := Option.map_eq_some_iff.mp hRecord
      rfl
    | cases hRecord

namespace Visit

/- The classes that a visit comes to, wherever they stand. -/
def classes
    (v : Visit) : List ClassFact :=
  (v.recount.filterMap Finding.class?).map ClassFact.placeless

/- A visit shows its class and leaves the rest to the next. -/
theorem classes_eq
    (v : Visit) :
    v.classes =
      (v.classFact?.map ClassFact.placeless).toList ++
        v.next.flatMap classes := by
  have hOwn :
      v.finding?.toList.filterMap Finding.class? =
        v.classFact?.toList := by
    unfold finding? classFact?
    split
    · cases Script.classFact? v.parent v.tree <;> rfl
    · split
      · rfl
      · cases hRecord : record v.scope v.tree with
        | none => rfl
        | some f => simp [class?_of_record hRecord]
  have hNext :
      v.next.flatMap classes =
        ((v.next.flatMap recount).filterMap
          Finding.class?).map ClassFact.placeless := by
    rw [List.filterMap_flatMap, List.map_flatMap]
    rfl
  rw [hNext, classes, recount_eq, List.filterMap_append,
    List.map_append, hOwn, Option.toList_map]

/- The same visit with comments in its tree. -/
structure Alike
    (v v' : Visit) : Prop where
  tree : Strewn Harmless v.tree v'.tree
  parent : Option.Rel (Strewn Harmless) v.parent v'.parent

theorem Alike.placeless_classFact?_eq
    {v v' : Visit}
    (hAlike : v.Alike v') :
    v'.classFact?.map ClassFact.placeless =
      v.classFact?.map ClassFact.placeless := by
  have hClass : v'.isClass = v.isClass := by
    unfold isClass
    rw [hAlike.tree.kind_eq]
  unfold classFact?
  rw [hClass]
  split
  · exact hAlike.tree.placeless_classFact?_eq hAlike.parent
  · rfl

/- The next visits are below trees that are alike. -/
theorem Alike.exists_next_eq
    {v v' : Visit}
    (hAlike : v.Alike v') :
    (v.next = [] ∧ v'.next = []) ∨
      ∃ container container' scope scope',
        Strewn Harmless container container' ∧
          container.size ≤ v.tree.size ∧
          v.next = below container scope ∧
          v'.next = below container' scope' := by
  have hSome := congrArg Option.isSome
    hAlike.placeless_classFact?_eq
  rw [Option.isSome_map, Option.isSome_map] at hSome
  have hBody := hAlike.tree.rel_child? "body"
  unfold next
  cases hFact : v.classFact? with
  | none =>
      rw [hFact, Option.isSome_none, Option.isSome_eq_false_iff,
        Option.isNone_iff_eq_none] at hSome
      rw [hSome, hAlike.tree.kind_eq]
      right
      simp only
      split
      all_goals
        exact ⟨_, _, _, _, hAlike.tree, Nat.le_refl _, rfl, rfl⟩
  | some fact =>
      rw [hFact, Option.isSome_some,
        Option.isSome_iff_exists] at hSome
      obtain ⟨fact', hFact'⟩ := hSome
      rw [hFact']
      generalize hB : v.tree.child? "body" = b at hBody
      generalize v'.tree.child? "body" = b' at hBody
      cases hBody with
      | none => exact .inl ⟨rfl, rfl⟩
      | some hBody =>
          have hLt := Tree.size_lt_of_mem_children
            (Tree.mem_of_child? hB)
          exact .inr
            ⟨_, _, _, _, hBody, Nat.le_of_lt hLt, rfl, rfl⟩

end Visit

/- A comment is no class and has none in it. -/
theorem Tree.IsComment.classes_eq
    {c : Tree}
    (hComment : c.IsComment)
    (parent : Option Tree)
    (scope : Scope) :
    Visit.classes ⟨c, parent, scope⟩ = [] := by
  obtain ⟨hKind, -, -, hChildren⟩ := hComment
  rw [Visit.classes_eq]
  simp [Visit.classFact?, Visit.isClass, Visit.next, Visit.below,
    hKind, hChildren]

/- Alike visits come to the same classes. -/
theorem Visit.Alike.classes_same
    {v v' : Visit}
    (hAlike : v.Alike v') :
    v'.classes = v.classes := by
  induction hSize : v.tree.size using Nat.strongRecOn
    generalizing v v' with
  | ind size ih =>
      rw [v.classes_eq, v'.classes_eq,
        hAlike.placeless_classFact?_eq]
      congr 1
      rcases hAlike.exists_next_eq with
        ⟨hNext, hNext'⟩ | ⟨container, container', scope, scope',
          hSame, hLe, hNext, hNext'⟩
      · rw [hNext, hNext']
      · rw [hNext, hNext', below, below, List.flatMap_map,
          List.flatMap_map]
        refine hSame.sprinkled.flatMap_eq ?_ ?_
        · intro c hComment
          exact hComment.classes_eq _ _
        · intro c hMem c' hChild
          have hLt := Tree.size_lt_of_mem_children hMem
          exact ih c.size (hSize ▸ Nat.lt_of_lt_of_le hLt hLe)
            ⟨hChild, .some hSame⟩ rfl

/- The classes of a file, wherever they stand. -/
theorem classes_ofTree
    (t : Tree) :
    (FileFacts.ofTree t).classes.map ClassFact.placeless =
      Visit.classes ⟨t, none, {}⟩ := by
  unfold FileFacts.ofTree FileFacts.ofFindings
  rw [findings_eq_recount]
  unfold Visit.classes Visit.recount
  congr 2

------------------------------------------------------------
-- One Class
------------------------------------------------------------

/- Where there is no class none is found. -/
theorem Visit.classes_eq_nil
    {v : Visit}
    (hNone : ∀ n ∈ v.tree.preorder, ¬ n.IsClass) :
    v.classes = [] := by
  induction hSize : v.tree.size using Nat.strongRecOn
    generalizing v with
  | ind size ih =>
      have hRoot : ¬ v.tree.IsClass :=
        hNone v.tree v.tree.self_mem_preorder
      have hInside : v.tree.inside = v.tree.children := by
        unfold Tree.inside Tree.className?
        rw [if_neg hRoot]
      have hOwn : v.classFact? = none := by
        rw [classFact?, v.isClass_eq]
        simp [hRoot]
      obtain ⟨container, hNext⟩ := v.exists_next_eq
      rw [v.classes_eq, hOwn, hNext, hInside, List.flatMap_map,
        List.flatMap_eq_nil_iff.mpr]
      · rfl
      · intro c hMem
        have hLt := Tree.size_lt_of_mem_children hMem
        refine ih c.size (hSize ▸ hLt) ?_ rfl
        intro n hBelow
        exact hNone n (Tree.mem_preorder_of_child hMem hBelow)

/- A class with no other class in it is the only one. -/
theorem classes_of_single
    (t : Tree)
    {fact : ClassFact}
    (hClass : t.IsClass)
    (hFact : classFact? none t = some fact)
    (hNone : ∀ c ∈ t.inside, ∀ n ∈ c.preorder, ¬ n.IsClass) :
    (FileFacts.ofTree t).classes.map ClassFact.placeless =
      [fact.placeless] := by
  rw [classes_ofTree, Visit.classes_eq]
  obtain ⟨container, hNext⟩ :=
    Visit.exists_next_eq ⟨t, none, {}⟩
  have hOwn : Visit.classFact? ⟨t, none, {}⟩ = some fact := by
    rw [Visit.classFact?, Visit.isClass_eq]
    simp [hClass, hFact]
  rw [hNext, hOwn, List.flatMap_map,
    List.flatMap_eq_nil_iff.mpr
      (fun c hMem => Visit.classes_eq_nil (hNone c hMem))]
  rfl

------------------------------------------------------------
-- A Module
------------------------------------------------------------

namespace Sample

/- What a named tree at the start of a text says of itself. -/
def label
    (kind text : String)
    (field : Option String) : Label :=
  ⟨kind, true, field, .sound, false, text, .origin, .origin⟩

/- A named tree. -/
def tree
    (kind text : String)
    (field : Option String)
    (children : List Tree) : Tree :=
  .node (label kind text field) children

/- A comment. -/
def note
    (text : String) : Tree :=
  tree "comment" text none []

/- An entry of a list. -/
def entry : Tree :=
  tree "identifier" "BModule" none []

/- The name of an interface. -/
def iface : Tree :=
  tree "type_identifier" "Base" none []

/- The decorator of a route. -/
def route : Tree :=
  tree "decorator" "" none [tree "identifier" "Get" none []]

/- A method. -/
def method : Tree :=
  tree "method_definition" "" none
    [tree "property_identifier" "list" (some "name") []]

/- An entry in parentheses. -/
def parens
    (inParens : List Tree) : Tree :=
  tree "parenthesized_expression" "" none inParens

theorem reference_parens
    (inParens : List Tree) :
    reference (parens inParens) =
      (parens inParens).named.head?.bind reference := by
  rw [reference_eq]
  rfl

/- A module's decorator with one entry in parentheses. -/
def moduleDecorator
    (inParens : List Tree) : Tree :=
  let imports :=
    tree "pair" "" none
      [ tree "property_identifier" "imports" (some "key") [],
        tree "array" "" (some "value") [parens inParens] ]
  let arguments :=
    tree "arguments" "" (some "arguments")
      [tree "object" "" none [imports]]
  tree "decorator" "" none
    [ tree "call_expression" "" none
        [ tree "identifier" "Module" (some "function") [],
          arguments ] ]

/-
  A module's class, given what is in the parentheses, behind
  `implements` and in the body.
-/
def moduleClass
    (inParens inClause inBody : List Tree) : Tree :=
  tree "class_declaration" "" none
    [ moduleDecorator inParens,
      tree "type_identifier" "A" (some "name") [],
      tree "class_heritage" "" none
        [tree "implements_clause" "" none inClause],
      tree "class_body" "" (some "body") inBody ]

/- Comments in these three places are comments in the class. -/
theorem strewn_moduleClass
    {inParens inParens' inClause inClause' inBody inBody' :
      List Tree}
    (hParens :
      Sprinkled (Strewn fits) fits []
        (label "parenthesized_expression" "" none) inParens
          inParens')
    (hClause :
      Sprinkled (Strewn fits) fits []
        (label "implements_clause" "" none) inClause inClause')
    (hBody :
      Sprinkled (Strewn fits) fits []
        (label "class_body" "" (some "body")) inBody inBody') :
    Strewn fits (moduleClass inParens inClause inBody)
      (moduleClass inParens' inClause' inBody') := by
  have hWords :
      ∀ {l : Label}, l.SameWords l := ⟨rfl, rfl, rfl, rfl⟩
  have hOnly :
      ∀ {l : Label} {c c' : Tree},
        Strewn fits c c' →
          Strewn fits (.node l [c]) (.node l [c']) :=
    fun hSame => .node hWords (.kept hSame .done)
  have hSecond :
      ∀ {l : Label} {c c' d : Tree},
        Strewn fits c c' →
          Strewn fits (.node l [d, c]) (.node l [d, c']) :=
    fun hSame =>
      .node hWords (.kept (.refl _) (.kept hSame .done))
  have hDecorator :
      Strewn fits (moduleDecorator inParens)
        (moduleDecorator inParens') :=
    hOnly (hSecond (hOnly (hOnly (hSecond (hOnly
      (.node hWords hParens))))))
  exact .node hWords
    (.kept hDecorator
      (.kept (.refl _)
        (.kept (hOnly (.node hWords hClause))
          (.kept (.node hWords hBody) .done))))

/- What the class is, wherever it stands. -/
def moduleFact
    (kinds : List DeclKind)
    (interfaces : List String)
    (routes : List DecoratorFact)
    (imports : List String) : ClassFact :=
  { name := "A"
    line := 0
    column := 0
    endLine := 0
    exported := false
    kinds
    decorators := [⟨"Module", 0, 0, true⟩]
    base := none
    interfaces
    methods := [⟨"list", 0, 0, routes, false, false, 0⟩]
    params := []
    metadata := some { imports } }

/- The kinds of trees whose members the collector goes through. -/
def hosts : List String :=
  [ "class_body", "decorator", "class_heritage",
    "implements_clause", "formal_parameters", "array", "object",
    "parenthesized_expression" ]

end Sample

------------------------------------------------------------
-- Comments
------------------------------------------------------------

/-
  Comments do not change the classes of a file, unless one
  stands right behind a decorator, passes for the name of an
  interface or comes first in parentheses.
-/
theorem classes_of_strewn
    (hStrewn : Strewn Harmless t t') :
    (FileFacts.ofTree t').classes.map ClassFact.placeless =
      (FileFacts.ofTree t).classes.map ClassFact.placeless := by
  rw [classes_ofTree, classes_ofTree]
  exact Visit.Alike.classes_same ⟨hStrewn, .none⟩

open Sample

/- Comments in the same three places, but where they belong. -/
theorem classes_of_strewn_moduleClass :
    let plain :=
      moduleClass [entry] [iface] [route, method]
    let commented :=
      moduleClass [entry, note "/* B */"]
        [note "// done.", iface] [note "/* all */", route, method]
    Strewn Harmless plain commented ∧
      (FileFacts.ofTree commented).classes.map
          ClassFact.placeless =
        (FileFacts.ofTree plain).classes.map
          ClassFact.placeless := by
  intro plain commented
  have hStrewn : Strewn Harmless plain commented := by
    refine strewn_moduleClass ?_ ?_ ?_
    · refine .kept (.refl _)
        (.comment ⟨rfl, rfl, rfl, rfl⟩ ?_ .done)
      exact ⟨by decide, by decide, fun _ => ⟨entry, by simp, rfl⟩⟩
    · refine .comment ⟨rfl, rfl, rfl, rfl⟩ ?_
        (.kept (.refl _) .done)
      exact ⟨by decide, by decide, by decide⟩
    · refine .comment ⟨rfl, rfl, rfl, rfl⟩ ?_
        (.kept (.refl _) (.kept (.refl _) .done))
      exact ⟨by simp, by decide, by decide⟩
  exact ⟨hStrewn, classes_of_strewn hStrewn⟩

/-
  A comment may hide the decorators of a method, pass for an
  interface and thereby for a kind, and hide an entry.
-/
theorem classes_of_comment_misread :
    let plain :=
      moduleClass [entry] [iface] [route, method]
    let commented :=
      moduleClass [note "/* B */", entry]
        [iface, note "// see nest.CanActivate"]
        [route, note "/* all */", method]
    Strewn (fun host _ _ => host.kind ∈ hosts) plain commented ∧
      (FileFacts.ofTree plain).classes.map
          ClassFact.placeless =
        [ moduleFact [.module] ["Base"] [⟨"Get", 0, 0, false⟩]
            ["BModule"] ] ∧
      (FileFacts.ofTree commented).classes.map
          ClassFact.placeless =
        [ moduleFact [.module, .guard] ["Base", "CanActivate"]
            [] [] ] := by
  intro plain commented
  have hStrewn :
      Strewn (fun host _ _ => host.kind ∈ hosts) plain
        commented := by
    refine strewn_moduleClass ?_ ?_ ?_
    · exact .comment ⟨rfl, rfl, rfl, rfl⟩ (by decide)
        (.kept (.refl _) .done)
    · exact .kept (.refl _)
        (.comment ⟨rfl, rfl, rfl, rfl⟩ (by decide) .done)
    · exact .kept (.refl _)
        (.comment ⟨rfl, rfl, rfl, rfl⟩ (by decide)
          (.kept (.refl _) .done))
  have hEntry : reference entry = some "BModule" := by
    rw [reference_eq]
    rfl
  have hNote : reference (note "/* B */") = none :=
    reference_comment _ rfl
  have hPlain :
      [parens [entry]].filterMap reference = ["BModule"] :=
    List.filterMap_cons_some ((reference_parens _).trans hEntry)
  have hCommented :
      [parens [note "/* B */", entry]].filterMap reference = [] :=
    List.filterMap_cons_none ((reference_parens _).trans hNote)
  have hInside :
      ∀ c ∈ [route, note "/* all */", method],
        ∀ n ∈ c.preorder, ¬ n.IsClass := by
    simp [route, note, method, tree, Tree.preorder,
      Tree.IsClass, Tree.kind, Tree.label, label]
  have hInside' :
      ∀ c ∈ [route, method], ∀ n ∈ c.preorder, ¬ n.IsClass := by
    intro c hMem
    refine hInside c ?_
    rcases List.mem_pair.mp hMem with rfl | rfl <;> simp
  have hClasses :=
    classes_of_single plain (by decide) rfl hInside'
  have hClasses' :=
    classes_of_single commented (by decide) rfl hInside
  refine ⟨hStrewn, ?_, ?_⟩
  · rw [hClasses]
    change
      [ moduleFact [.module] ["Base"] [⟨"Get", 0, 0, false⟩]
          ([parens [entry]].filterMap reference) ] = _
    rw [hPlain]
  · rw [hClasses']
    change
      [ moduleFact [.module, .guard] ["Base", "CanActivate"] []
          ([parens [note "/* B */", entry]].filterMap
            reference) ] = _
    rw [hCommented]

end

end Script

end ModuleLint
