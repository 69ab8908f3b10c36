import ModuleLint.Facts.Walk

/-
  The walk over a tree, told by recursion.

  The walk keeps its own stack.  It finds the same things in
  the same order as a recursion that goes through a tree from
  left to right, parents first.  A call is found with the
  innermost class around it and the innermost method around it
  in that class.

  Main declarations:
    * `Script.recount`, `Script.findings_eq_recount`
    * `Script.Enclosed`, `Script.Scope.around`
    * `Script.Below`, `Script.PlainBodies`
    * `Script.facts_of_recount`
-/

namespace ModuleLint

namespace Script

------------------------------------------------------------
-- Recursion
------------------------------------------------------------

/- The tree is a class. -/
def Tree.IsClass
    (t : Tree) : Prop :=
  t.kind = "class_declaration" ∨
    t.kind = "abstract_class_declaration" ∨
    t.kind = "class"

instance
    (t : Tree) :
    Decidable t.IsClass :=
  inferInstanceAs (Decidable (_ ∨ _ ∨ _))

/- A class is neither a method nor a call. -/
theorem Tree.IsClass.kind_ne
    {t : Tree}
    (hClass : t.IsClass) :
    t.kind ≠ "method_definition" ∧
      t.kind ≠ "call_expression" := by
  rcases hClass with h | h | h <;> simp [h]

/-
  What a tree shows, and then what is below it, from left to
  right.  Of a class with a name only the body counts, and the
  class is the scope there.  A method is the scope of all that
  is below it, in the class around it.
-/
def recount
    (parent : Option Tree)
    (scope : Scope)
    (t : Tree) : List Finding :=
  if t.IsClass then
    match classFact? parent t with
    | some fact =>
        let inner : Scope := ⟨some fact.name, none⟩
        .classDecl fact ::
          match _hBody : t.child? "body" with
          | some b =>
              b.children.attach.flatMap
                (fun ⟨c, _⟩ => recount (some b) inner c)
          | none => []
    | none =>
        t.children.attach.flatMap
          (fun ⟨c, _⟩ => recount (some t) scope c)
  else if t.kind = "method_definition" then
    let inner : Scope :=
      ⟨scope.className, (t.child? "name").map Tree.text⟩
    t.children.attach.flatMap
      (fun ⟨c, _⟩ => recount (some t) inner c)
  else
    (record scope t).toList ++
      t.children.attach.flatMap
        (fun ⟨c, _⟩ => recount (some t) scope c)
termination_by t.size
decreasing_by
  · exact Nat.lt_trans (Tree.size_lt_of_mem_children ‹_›)
      (Tree.size_lt_of_mem_children (Tree.mem_of_child? _hBody))
  all_goals exact Tree.size_lt_of_mem_children ‹_›

/- What a visit comes to. -/
def Visit.recount
    (v : Visit) : List Finding :=
  Script.recount v.parent v.scope v.tree

theorem Visit.isClass_eq
    (v : Visit) :
    v.isClass = decide v.tree.IsClass := by
  rw [Bool.eq_iff_iff, decide_eq_true_iff]
  simp [isClass, Tree.IsClass, or_assoc]

/- A visit shows its tree and leaves the rest to the next. -/
theorem Visit.recount_eq
    (v : Visit) :
    v.recount =
      v.finding?.toList ++ v.next.flatMap Visit.recount := by
  have hBelow :
      ∀ (container : Tree) (scope : Scope),
        (below container scope).flatMap Visit.recount =
          container.children.flatMap
            (Script.recount (some container) scope) := by
    intro container scope
    rw [below, List.flatMap_map]
    rfl
  rw [Visit.recount, Script.recount]
  unfold finding? next classFact?
  rw [v.isClass_eq]
  by_cases hClass : v.tree.IsClass
  · simp only [hClass, decide_true, if_true]
    cases hFact : Script.classFact? v.parent v.tree with
    | none => simp [hClass.kind_ne.1, hBelow]
    | some fact =>
        cases hBody : v.tree.child? "body" with
        | none => simp
        | some b => simp [hBelow]
  · simp only [hClass, decide_false, if_false]
    by_cases hMethod : v.tree.kind = "method_definition"
    · simp [hMethod, hBelow]
    · simp [hMethod, hBelow]

/- What a stack comes to, from its top. -/
theorem walk_eq_recount
    (stack : List Visit)
    (found : List Finding) :
    walk stack found =
      (stack.flatMap Visit.recount).reverse ++ found := by
  fun_induction walk stack found with
  | case1 found => rfl
  | case2 found v rest ih =>
      rw [ih, pushAll_eq_append, List.flatMap_append,
        List.flatMap_cons, v.recount_eq]
      have hOne :
          v.finding?.toList.reverse = v.finding?.toList := by
        cases v.finding? <;> rfl
      simp [hOne]

theorem findings_eq_recount
    (t : Tree) :
    findings t = recount none {} t := by
  rw [findings, walk_eq_recount]
  simp [Visit.recount]

------------------------------------------------------------
-- Scopes
------------------------------------------------------------

namespace Tree

/- The name of a class that has one. -/
def className?
    (t : Tree) : Option String :=
  if t.IsClass then
    ((t.child? "name").map text).filter (fun n => !n.isEmpty)
  else
    none

/-
  The trees right inside a tree.  Of a class with a name they
  are those of its body.
-/
def inside
    (t : Tree) : List Tree :=
  match t.className? with
  | some _ => ((t.child? "body").map children).getD []
  | none => t.children

/- The scope of what is inside a tree, by that of the tree. -/
def scopeInside
    (t : Tree)
    (scope : Scope) : Scope :=
  match t.className? with
  | some name => ⟨some name, none⟩
  | none =>
      if t.kind = "method_definition" then
        ⟨scope.className, (t.child? "name").map text⟩
      else
        scope

theorem size_lt_of_mem_inside
    {t c : Tree}
    (hMem : c ∈ t.inside) :
    c.size < t.size := by
  unfold inside at hMem
  split at hMem
  · cases hBody : t.child? "body" with
    | none => simp [hBody] at hMem
    | some b =>
        rw [hBody] at hMem
        exact Nat.lt_trans (size_lt_of_mem_children hMem)
          (size_lt_of_mem_children (mem_of_child? hBody))
  · exact size_lt_of_mem_children hMem

end Tree

/- A class has a fact just if it has a name. -/
theorem map_name_classFact?
    (parent : Option Tree)
    (t : Tree) :
    (classFact? parent t).map (·.name) =
      ((t.child? "name").map Tree.text).filter
        (fun n => !n.isEmpty) := by
  unfold classFact?
  cases t.child? "name" with
  | none => rfl
  | some name =>
      cases hEmpty : name.text.isEmpty with
      | true =>
          simp only [Option.bind_eq_bind, Option.bind_some,
            hEmpty, if_true, Option.map_some, Option.map_none,
            Option.filter]
          rfl
      | false =>
          simp only [Option.bind_eq_bind, Option.bind_some,
            hEmpty, Bool.false_eq_true, if_false,
            Option.map_some, Option.filter]
          rfl

namespace Visit

/- The next visits are to the trees right inside. -/
theorem exists_next_eq
    (v : Visit) :
    ∃ container,
      v.next =
        v.tree.inside.map
          (fun c =>
            ⟨c, some container, v.tree.scopeInside v.scope⟩) := by
  have hNames := map_name_classFact? v.parent v.tree
  unfold next Tree.inside Tree.scopeInside Tree.className?
  rw [classFact?, v.isClass_eq]
  by_cases hClass : v.tree.IsClass
  · simp only [hClass, decide_true, if_true, ← hNames]
    cases Script.classFact? v.parent v.tree with
    | none =>
        refine ⟨v.tree, ?_⟩
        simp [hClass.kind_ne.1, below]
    | some fact =>
        cases v.tree.child? "body" with
        | none => exact ⟨v.tree, rfl⟩
        | some b => exact ⟨b, rfl⟩
  · refine ⟨v.tree, ?_⟩
    by_cases hMethod : v.tree.kind = "method_definition"
    · simp [hClass, hMethod, below]
    · simp [hClass, hMethod, below]

/- Calls are found where there are calls. -/
theorem finding?_eq_call_iff
    (v : Visit)
    (f : CallFact) :
    v.finding? = some (.call f) ↔
      v.tree.kind = "call_expression" ∧
        callFact? v.scope v.tree = some f := by
  unfold finding?
  rw [v.isClass_eq]
  by_cases hClass : v.tree.IsClass
  · simp [hClass, hClass.kind_ne.2]
  · by_cases hMethod : v.tree.kind = "method_definition"
    · simp [hClass, hMethod]
    · simp only [hClass, decide_false, hMethod, beq_iff_eq,
        if_false, Bool.false_eq_true]
      unfold record
      split <;> simp_all

end Visit

/-
  The scope among enclosing trees, the innermost one first:
  the first class with a name, and of the methods before that
  class the first one.
-/
def Scope.around
    (trees : List Tree) : Scope :=
  let inClass :=
    trees.takeWhile (fun t => t.className?.isNone)
  let method? :=
    inClass.find? (fun t => t.kind == "method_definition")
  { className := trees.findSome? Tree.className?
    methodName :=
      method?.bind (fun m => (m.child? "name").map Tree.text) }

theorem Scope.around_cons
    (t : Tree)
    (trees : List Tree) :
    around (t :: trees) = t.scopeInside (around trees) := by
  unfold around Tree.scopeInside
  cases hName : t.className? with
  | some name => simp [hName]
  | none =>
      by_cases hMethod : t.kind = "method_definition"
      · simp [hName, hMethod]
      · simp [hName, hMethod]

------------------------------------------------------------
-- Calls
------------------------------------------------------------

/-
  A tree within another one, and the trees around it up to
  that one, the innermost first.
-/
inductive Enclosed : Tree → List Tree → Tree → Prop where
  | self
      (t : Tree) :
      Enclosed t [] t
  | inside
      {t part c : Tree}
      {trees : List Tree} :
      part ∈ t.inside →
        Enclosed part trees c →
          Enclosed t (trees ++ [t]) c

/- A call is the tree itself or in a tree right inside. -/
theorem exists_call_mem_recount_iff
    (f : CallFact)
    (parent : Option Tree)
    (scope : Scope)
    (t : Tree) :
    ∃ container,
      (.call f ∈ recount parent scope t ↔
        (t.kind = "call_expression" ∧
            callFact? scope t = some f) ∨
          ∃ part ∈ t.inside,
            .call f ∈
              recount (some container) (t.scopeInside scope)
                part) := by
  let v : Visit := ⟨t, parent, scope⟩
  rcases v.exists_next_eq with ⟨container, hNext⟩
  have hRecount := v.recount_eq
  rw [hNext, List.flatMap_map] at hRecount
  refine ⟨container, ?_⟩
  change .call f ∈ v.recount ↔ _
  rw [hRecount, List.mem_append, Option.mem_toList,
    v.finding?_eq_call_iff, List.mem_flatMap]
  rfl

/- A call is found with the scope around it. -/
theorem call_mem_recount_iff
    (f : CallFact)
    (parent : Option Tree)
    (outer : List Tree)
    (t : Tree) :
    .call f ∈ recount parent (.around outer) t ↔
      ∃ trees c,
        Enclosed t trees c ∧
          c.kind = "call_expression" ∧
          callFact? (.around (trees ++ outer)) c = some f := by
  -- The trees around `t` vary, as they grow on the way down.
  induction hSize : t.size using Nat.strongRecOn
    generalizing t parent outer with
  | ind size ih =>
      rcases exists_call_mem_recount_iff f parent
        (.around outer) t with ⟨container, hStep⟩
      have hPart :
          ∀ part ∈ t.inside,
            (.call f ∈
                recount (some container)
                  (.around (t :: outer)) part ↔
              ∃ trees c,
                Enclosed part trees c ∧
                  c.kind = "call_expression" ∧
                  callFact? (.around (trees ++ t :: outer)) c =
                    some f) := by
        intro part hInside
        have hLt := Tree.size_lt_of_mem_inside hInside
        exact ih part.size (hSize ▸ hLt) _ _ part rfl
      rw [hStep, ← Scope.around_cons]
      constructor
      · rintro (⟨hKind, hFact⟩ | ⟨part, hInside, hCall⟩)
        · exact ⟨[], t, .self t, hKind, hFact⟩
        · rcases (hPart part hInside).mp hCall with
            ⟨trees, c, hEnclosed, hKind, hFact⟩
          refine ⟨trees ++ [t], c, .inside hInside hEnclosed,
            hKind, ?_⟩
          rw [List.append_assoc]
          exact hFact
      · rintro ⟨_, c, hEnclosed, hKind, hFact⟩
        cases hEnclosed with
        | self => exact .inl ⟨hKind, hFact⟩
        | @inside _ part _ trees hInside hEnclosed =>
            rw [List.append_assoc] at hFact
            exact .inr ⟨part, hInside, (hPart part hInside).mpr
              ⟨trees, c, hEnclosed, hKind, hFact⟩⟩

/- The calls of a tree. -/
theorem mem_calls_ofTree_iff
    {t : Tree}
    {f : CallFact} :
    f ∈ (FileFacts.ofTree t).calls ↔
      ∃ trees c,
        Enclosed t trees c ∧
          c.kind = "call_expression" ∧
          callFact? (.around trees) c = some f := by
  have hCalls :
      f ∈ (FileFacts.ofTree t).calls ↔
        .call f ∈ findings t := by
    unfold FileFacts.ofTree FileFacts.ofFindings
    rw [List.mem_filterMap]
    constructor
    · rintro ⟨found, hMem, hCall⟩
      split at hCall
      · cases hCall
        exact hMem
      · cases hCall
    · intro hMem
      exact ⟨_, hMem, rfl⟩
  have hRecount := call_mem_recount_iff f none [] t
  simp only [List.append_nil] at hRecount
  rw [hCalls, findings_eq_recount]
  exact hRecount

------------------------------------------------------------
-- Syntactic Ancestors
------------------------------------------------------------

/- A tree below another one, and all trees on the way there. -/
inductive Below : Tree → List Tree → Tree → Prop where
  | self
      (t : Tree) :
      Below t [] t
  | child
      {t part c : Tree}
      {trees : List Tree} :
      part ∈ t.children →
        Below part trees c →
          Below t (trees ++ [t]) c

/-
  The body of a class with a name is neither such a class
  itself nor a method.
-/
def PlainBodies
    (t : Tree) : Prop :=
  ∀ n ∈ t.preorder,
    n.className?.isSome = true →
      ∀ b ∈ n.child? "body",
        b.className? = none ∧ b.kind ≠ "method_definition"

theorem plainBodies_iff
    {t : Tree} :
    PlainBodies t ↔
      (t.className?.isSome = true →
          ∀ b ∈ t.child? "body",
            b.className? = none ∧
              b.kind ≠ "method_definition") ∧
        ∀ c ∈ t.children, PlainBodies c := by
  cases t with
  | node l cs =>
      unfold PlainBodies
      rw [Tree.preorder, List.forall_mem_cons]
      refine and_congr_right' ?_
      simp only [Tree.children, List.mem_flatten, List.mem_map]
      constructor
      · intro hAll c hC n hN
        exact hAll n ⟨_, ⟨c, hC, rfl⟩, hN⟩
      · rintro hAll n ⟨_, ⟨c, hC, rfl⟩, hN⟩
        exact hAll c hC n hN

/- The scope depends on trees further out by their scope. -/
theorem Scope.around_append
    (trees : List Tree)
    {outer outer' : List Tree}
    (hSame : around outer = around outer') :
    around (trees ++ outer) = around (trees ++ outer') := by
  induction trees with
  | nil => exact hSame
  | cons t trees ih =>
      rw [List.cons_append, List.cons_append, around_cons,
        around_cons, ih]

/- The bodies on the way do not matter for the scope. -/
theorem Enclosed.exists_below
    {t c : Tree}
    {trees : List Tree}
    (hEnclosed : Enclosed t trees c)
    (hPlain : PlainBodies t) :
    ∃ ancestors,
      Below t ancestors c ∧
        ∀ outer,
          Scope.around (ancestors ++ outer) =
            .around (trees ++ outer) := by
  induction hEnclosed with
  | self t => exact ⟨[], .self t, fun _ => rfl⟩
  | @inside t part c trees hInside _ ih =>
      rcases plainBodies_iff.mp hPlain with ⟨hBodies, hParts⟩
      unfold Tree.inside at hInside
      split at hInside
      · next name hName =>
          cases hBody : t.child? "body" with
          | none => simp [hBody] at hInside
          | some b =>
              rw [hBody] at hInside
              have hB := Tree.mem_of_child? hBody
              have hInner :=
                (plainBodies_iff.mp (hParts b hB)).2 part hInside
              rcases hBodies (by rw [hName]; rfl) b hBody with
                ⟨hUnnamed, hKind⟩
              rcases ih hInner with
                ⟨ancestors, hBelow, hScope⟩
              refine ⟨(ancestors ++ [b]) ++ [t],
                .child hB (.child hInside hBelow), ?_⟩
              intro outer
              have hSkip :
                  Scope.around (b :: t :: outer) =
                    .around (t :: outer) := by
                rw [Scope.around_cons, Tree.scopeInside,
                  hUnnamed]
                exact if_neg hKind
              have hRest := Scope.around_append trees hSkip
              simp only [List.append_assoc, List.cons_append,
                List.nil_append]
              rw [hScope, hRest]
      · rcases ih (hParts part hInside) with
          ⟨ancestors, hBelow, hScope⟩
        refine ⟨ancestors ++ [t], .child hInside hBelow, ?_⟩
        intro outer
        rw [List.append_assoc, List.append_assoc, hScope]

/-
  The walk finds what the recursion finds, in the same order.
  A call is found with the innermost class and the innermost
  method in that class that it is inside of, and where the
  bodies of classes are nothing but bodies, these are the
  innermost ones of all trees around the call.
-/
theorem facts_of_recount
    (t : Tree) :
    FileFacts.ofTree t =
        .ofFindings (recount none {} t) t.damaged ∧
      (∀ f,
        f ∈ (FileFacts.ofTree t).calls ↔
          ∃ trees c,
            Enclosed t trees c ∧
              c.kind = "call_expression" ∧
              callFact? (.around trees) c = some f) ∧
      (PlainBodies t →
        ∀ f ∈ (FileFacts.ofTree t).calls,
          ∃ ancestors c,
            Below t ancestors c ∧
              c.kind = "call_expression" ∧
              callFact? (.around ancestors) c = some f) := by
  refine ⟨?_, fun _ => mem_calls_ofTree_iff, ?_⟩
  · rw [FileFacts.ofTree, findings_eq_recount]
  · intro hPlain f hMem
    rcases mem_calls_ofTree_iff.mp hMem with
      ⟨trees, c, hEnclosed, hKind, hFact⟩
    rcases hEnclosed.exists_below hPlain with
      ⟨ancestors, hBelow, hScope⟩
    have hAround : Scope.around ancestors = .around trees := by
      simpa using hScope []
    rw [← hAround] at hFact
    exact ⟨ancestors, c, hBelow, hKind, hFact⟩

/- A call in a method of a class. -/
theorem facts_of_recount_method :
    let tree (kind text : String) (field : Option String)
        (children : List Tree) : Tree :=
      .node ⟨kind, true, field, .sound, false, text, .origin,
        .origin⟩ children
    let call :=
      tree "call_expression" "f()" none
        [tree "identifier" "f" (some "function") []]
    let method :=
      tree "method_definition" "" none
        [tree "property_identifier" "m" (some "name") [], call]
    let declared :=
      tree "class_declaration" "" none
        [tree "type_identifier" "A" (some "name") [],
          tree "class_body" "" (some "body") [method]]
    let f : CallFact := ⟨"f", 1, 1, some "A", some "m"⟩
    f ∈ (FileFacts.ofTree declared).calls ∧
      ∃ ancestors c,
        Below declared ancestors c ∧
          c.kind = "call_expression" ∧
          callFact? (.around ancestors) c = some f := by
  intro tree call method declared f
  have hEnclosed : Enclosed declared [method, declared] call :=
    .inside List.mem_cons_self
      (.inside (.tail _ List.mem_cons_self) (.self call))
  have hMem : f ∈ (FileFacts.ofTree declared).calls :=
    ((facts_of_recount declared).2.1 f).mpr
      ⟨_, call, hEnclosed, rfl, by decide +kernel⟩
  have hPlain : PlainBodies declared := by
    simp [PlainBodies, declared, method, call, tree,
      Tree.preorder, Tree.className?, Tree.IsClass, Tree.kind,
      Tree.child?, Tree.children, Tree.label]
  exact ⟨hMem, (facts_of_recount declared).2.2 hPlain f hMem⟩

end Script

end ModuleLint
