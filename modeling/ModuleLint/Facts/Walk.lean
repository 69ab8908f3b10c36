import ModuleLint.Facts.ClassFact

/-
  The walk that collects the facts of a tree.

  The trees still to be visited are kept on a stack, so that
  the nesting of a text is bounded by memory alone.

  Key definitions include:
    * `Scope`, `Finding`, `Visit`
    * `Visit.findings`, `Visit.next`
    * `Script.pushAll`, `Script.walk`
    * `FileFacts.ofFindings`, `FileFacts.ofTree`
-/

namespace ModuleLint

namespace Script

------------------------------------------------------------
-- Findings
------------------------------------------------------------

/- The class and the method around a tree. -/
structure Scope where
  className : Option String := none
  methodName : Option String := none
deriving DecidableEq, Repr, Inhabited

/- Something worth recording. -/
inductive Finding where
  | classDecl (fact : ClassFact)
  | call (fact : CallFact)
  | literal (fact : LiteralAssignment)
  | importDecl (fact : ImportFact)
deriving DecidableEq, Repr, Inhabited

/- A call, unless it calls the base class. -/
def callFact?
    (scope : Scope)
    (t : Tree) : Option CallFact := do
  let function ← t.child? "function"
  if function.text.isEmpty || function.kind == "super" then
    none
  else
    some
      { callee := function.text
        line := t.line
        column := t.column
        className := scope.className
        methodName := scope.methodName }

/- A quoted text under a name. -/
def literal?
    (name value : Option Tree) : Option LiteralAssignment := do
  let name ← name
  let value ← value
  let key := unquote name.text
  if value.kind != "string" || key.isEmpty then
    none
  else
    some
      { name := key
        value := unquote value.text
        line := value.line
        column := value.column }

/- The names in one part of an import. -/
def importedNames
    (part : Tree) : List String :=
  match part.kind with
  | "identifier" => [part.text]
  | "namespace_import" =>
      (part.named.filter
        (fun n => n.kind == "identifier")).map Tree.text
  | "named_imports" =>
      (part.named.filter
        (fun n => n.kind == "import_specifier")).filterMap
          (fun s => (s.child? "name").map Tree.text)
  | _ => []

/- An import that says where it comes from. -/
def importFact?
    (t : Tree) : Option ImportFact := do
  let source ← t.child? "source"
  let clauses :=
    t.children.filter (fun c => c.kind == "import_clause")
  some
    { source := unquote source.text
      names :=
        (clauses.flatMap Tree.children).flatMap importedNames
      line := t.line }

/- What is assigned to. -/
def assignedName
    (t : Tree) : Option Tree :=
  (t.child? "left").map
    (fun left =>
      if left.kind == "member_expression" then
        (left.child? "property").getD left
      else
        left)

/- What a tree that is neither a class nor a method shows. -/
def record
    (scope : Scope)
    (t : Tree) : Option Finding :=
  match t.kind with
  | "call_expression" => (callFact? scope t).map .call
  | "import_statement" => (importFact? t).map .importDecl
  | "variable_declarator" =>
      (literal? (t.child? "name") (t.child? "value")).map
        .literal
  | "public_field_definition" =>
      (literal?
        ((t.child? "name").or (t.child? "property"))
        (t.child? "value")).map .literal
  | "field_definition" =>
      (literal?
        ((t.child? "name").or (t.child? "property"))
        (t.child? "value")).map .literal
  | "pair" =>
      (literal? (t.child? "key") (t.child? "value")).map
        .literal
  | "assignment_expression" =>
      (literal? (assignedName t) (t.child? "right")).map
        .literal
  | _ => none

------------------------------------------------------------
-- Visits
------------------------------------------------------------

/- A tree to be visited, the tree around it and its scope. -/
structure Visit where
  tree : Tree
  parent : Option Tree
  scope : Scope
deriving Inhabited

namespace Visit

/- The tree is a class. -/
def isClass
    (v : Visit) : Bool :=
  v.tree.kind == "class_declaration" ||
    v.tree.kind == "abstract_class_declaration" ||
    v.tree.kind == "class"

/- The class at this tree, if it has a name. -/
def classFact?
    (v : Visit) : Option ClassFact :=
  if v.isClass then
    Script.classFact? v.parent v.tree
  else
    none

/- What the tree itself shows. -/
def finding?
    (v : Visit) : Option Finding :=
  if v.isClass then
    v.classFact?.map .classDecl
  else if v.tree.kind == "method_definition" then
    none
  else
    record v.scope v.tree

/- Visits to the children of a tree. -/
def below
    (container : Tree)
    (scope : Scope) : List Visit :=
  container.children.map
    (fun c => ⟨c, some container, scope⟩)

/-
  The visits that follow.  Of a named class only the body is
  visited, under the class's own scope.
-/
def next
    (v : Visit) : List Visit :=
  match v.classFact? with
  | some fact =>
      match v.tree.child? "body" with
      | some b => below b { className := some fact.name }
      | none => []
  | none =>
      if v.tree.kind == "method_definition" then
        below v.tree
          { v.scope with
            methodName := (v.tree.child? "name").map Tree.text }
      else
        below v.tree v.scope

end Visit

------------------------------------------------------------
-- The Walk
------------------------------------------------------------

/- The nodes still to be visited. -/
def pending
    (stack : List Visit) : Nat :=
  total (stack.map (fun v => v.tree.size))

/- The children of a tree have fewer nodes than the tree. -/
theorem pending_below_lt
    (t : Tree)
    (scope : Scope) :
    pending (Visit.below t scope) < t.size := by
  cases t with
  | node l cs =>
      have hMap :
          pending (Visit.below (.node l cs) scope) =
            total (cs.map Tree.size) := by
        simp [pending, Visit.below, Tree.children,
          Function.comp_def]
      rw [hMap, Tree.size]
      omega

/- What follows a visit has fewer nodes than the visit. -/
theorem pending_next_lt
    (v : Visit) :
    pending v.next < v.tree.size := by
  unfold Visit.next
  split
  · split
    · rename_i b hBody
      have h₁ := pending_below_lt b
      have h₂ := Tree.size_lt_of_mem_children
        (Tree.mem_of_child? hBody)
      exact Nat.lt_trans (h₁ _) h₂
    · cases v.tree with
      | node l cs =>
          rw [Tree.size]
          exact Nat.lt_of_lt_of_le Nat.zero_lt_one
            (Nat.le_add_right _ _)
  · split
    · exact pending_below_lt v.tree _
    · exact pending_below_lt v.tree _

/-
  Visits on top of a stack.  They are pushed one by one, and
  then the part that was pushed is turned round, so that the
  first one comes first.
-/
def pushAll
    (vs stack : List Visit) : List Visit :=
  let pushed := vs.foldl (fun s v => v :: s) stack
  (pushed.take vs.length).reverse ++ pushed.drop vs.length

@[simp] theorem pushAll_eq_append
    (vs stack : List Visit) :
    pushAll vs stack = vs ++ stack := by
  have hLength : vs.length = vs.reverse.length :=
    List.length_reverse.symm
  rw [pushAll, List.foldl_flip_cons_eq_append', hLength,
    List.take_left, List.drop_left, List.reverse_reverse]

/- Visit the stack from the top, collecting the latest first. -/
def walk
    (stack : List Visit)
    (found : List Finding) : List Finding :=
  match stack with
  | [] => found
  | v :: rest =>
      walk (pushAll v.next rest) (v.finding?.toList ++ found)
termination_by pending stack
decreasing_by
  have h := pending_next_lt v
  simp only [pushAll_eq_append, pending, List.map_append,
    total_append, List.map_cons, total_cons] at *
  omega

/- The findings of a tree in document order. -/
def findings
    (t : Tree) : List Finding :=
  (walk [⟨t, none, {}⟩] []).reverse

end Script

namespace FileFacts

open Script

/- The facts among findings, each kind in the order found. -/
def ofFindings
    (found : List Finding)
    (damaged : Bool) : FileFacts :=
  { classes :=
      found.filterMap
        (fun | .classDecl f => some f | _ => none)
    calls :=
      found.filterMap (fun | .call f => some f | _ => none)
    literals :=
      found.filterMap
        (fun | .literal f => some f | _ => none)
    imports :=
      found.filterMap
        (fun | .importDecl f => some f | _ => none)
    damaged }

/- The facts of a tree. -/
def ofTree
    (t : Tree) : FileFacts :=
  ofFindings (findings t) t.damaged

end FileFacts

end ModuleLint
