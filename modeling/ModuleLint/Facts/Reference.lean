import ModuleLint.Facts.Basic
import ModuleLint.Script.Tree
import ModuleLint.Text.Blank

/-
  References in a module's lists.

  An entry of a list names a class directly, through
  parentheses, through a forward reference, through a static
  method of the class, or through an object that says what it
  provides.

  Key definitions include:
    * `Script.unquote`
    * `Script.providerToken`
    * `Script.reference`
-/

namespace ModuleLint

namespace Script

/- The text without the quotes around it. -/
def unquote
    (s : String) : String :=
  Text.trimBoth
    (fun c => c == '"' || c == '\'' || c.toNat == 96) s

------------------------------------------------------------
-- Children Are Smaller
------------------------------------------------------------

namespace Tree

theorem mem_of_child?
    {t c : Tree}
    {f : String}
    (h : t.child? f = some c) :
    c ∈ t.children :=
  List.mem_of_find?_eq_some h

theorem mem_of_named
    {t c : Tree}
    (h : c ∈ t.named) :
    c ∈ t.children :=
  (List.mem_filter.mp h).1

theorem mem_of_firstNamed?
    {t c : Tree}
    {k : String}
    (h : t.firstNamed? k = some c) :
    c ∈ t.children :=
  mem_of_named (List.mem_of_find?_eq_some h)

theorem mem_of_head?_named
    {t c : Tree}
    (h : t.named.head? = some c) :
    c ∈ t.children :=
  mem_of_named (List.mem_of_mem_head? h)

end Tree

------------------------------------------------------------
-- Provider Objects
------------------------------------------------------------

/- The token and the class that an object has named so far. -/
structure Provided where
  token : Option String := none
  useClass : Option String := none
deriving DecidableEq, Repr, Inhabited

/- What one pair adds to the token and the class. -/
def Provided.add
    (p : Provided)
    (pair : Tree) : Provided :=
  if pair.kind != "pair" then
    p
  else
    match pair.child? "key", pair.child? "value" with
    | some key, some value =>
        match unquote key.text, value.kind with
        | "provide", "identifier" =>
            { p with token := some value.text }
        | "provide", "string" =>
            { p with token := some (unquote value.text) }
        | "useClass", "identifier" =>
            { p with useClass := some value.text }
        | _, _ => p
    | _, _ => p

/-
  The token an object provides, or the class it provides when
  it names no token.
-/
def providerToken
    (object : Tree) : Option String :=
  let p := object.named.foldl Provided.add {}
  p.token.or p.useClass

------------------------------------------------------------
-- References
------------------------------------------------------------

/- The inside of a forward reference. -/
def forwarded?
    (call : Tree) : Option Tree := do
  let arguments ← call.child? "arguments"
  let arrow ← arguments.firstNamed? "arrow_function"
  arrow.child? "body"

/- The inside of a forward reference is smaller than the call. -/
theorem size_lt_of_forwarded?
    {call inner : Tree}
    (h : forwarded? call = some inner) :
    inner.size < call.size := by
  unfold forwarded? at h
  simp only [Option.bind_eq_bind, Option.bind_eq_some_iff] at h
  obtain ⟨args, hArgs, arrow, hArrow, hBody⟩ := h
  have h₁ := Tree.size_lt_of_mem_children
    (Tree.mem_of_child? hArgs)
  have h₂ := Tree.size_lt_of_mem_children
    (Tree.mem_of_firstNamed? hArrow)
  have h₃ := Tree.size_lt_of_mem_children
    (Tree.mem_of_child? hBody)
  omega

/- The class that an entry of a module's list refers to. -/
def reference
    (element : Tree) : Option String :=
  match element.kind with
  | "identifier" => some element.text
  | "parenthesized_expression" =>
      match h : element.named.head? with
      | some inner =>
          have : inner.size < element.size :=
            Tree.size_lt_of_mem_children
              (Tree.mem_of_head?_named h)
          reference inner
      | none => none
  | "call_expression" =>
      match element.child? "function" with
      | none => none
      | some function =>
          if function.kind == "identifier" then
            if function.text == "forwardRef" then
              match h : forwarded? element with
              | some inner =>
                  have := size_lt_of_forwarded? h
                  reference inner
              | none => none
            else
              none
          else if function.kind == "member_expression" then
            match function.child? "object" with
            | some object =>
                if object.kind == "identifier" then
                  some object.text
                else
                  none
            | none => none
          else
            none
  | "object" => providerToken element
  | _ => none
termination_by element.size

end Script

end ModuleLint
