import Mathlib.Logic.Relation
import ModuleLint.Proofs.Facts.Classes

/-
  Entries of a module's lists with wrappers around them.

  An entry may stand in parentheses, or a forward reference may
  lead to it, to any depth and in any mixture.  Each look at an
  entry either settles what it refers to or takes one wrapper
  off, so there are no more looks than the entry has nodes, and
  wrappers never change the answer.

  Main declarations:
    * `Script.Look`, `Script.look`, `Script.looks`
    * `Script.looks_eq_settled`
    * `Script.Wraps`, `Script.look_eq_inside_iff`
    * `Script.Names`, `Script.reference_of_names`
    * `Script.reference_through_wrappers`
-/

namespace ModuleLint

namespace Script

------------------------------------------------------------
-- One Look at a Time
------------------------------------------------------------

/- What a look at an entry comes to. -/
inductive Look where
  | inside (inner : Tree)
  | settled (answer : Option String)

/- There is something inside, or else there is no answer. -/
def Look.ofInner? : Option Tree → Look
  | some inner => .inside inner
  | none => .settled none

/- The class whose method is called, if it is named directly. -/
def receiver?
    (method : Tree) : Option String :=
  (method.child? "object").bind (fun object =>
    if object.kind == "identifier" then
      some object.text
    else
      none)

/- One look at an entry. -/
def look
    (element : Tree) : Look :=
  match element.kind with
  | "identifier" => .settled (some element.text)
  | "parenthesized_expression" =>
      .ofInner? element.named.head?
  | "call_expression" =>
      match element.child? "function" with
      | none => .settled none
      | some function =>
          if function.kind == "identifier" then
            if function.text == "forwardRef" then
              .ofInner? (forwarded? element)
            else
              .settled none
          else if function.kind == "member_expression" then
            .settled (receiver? function)
          else
            .settled none
  | "object" => .settled (providerToken element)
  | _ => .settled none

/-
  So many looks at an entry, each at what the one before has
  found inside.
-/
def looks : Nat → Tree → Look
  | 0, element => .inside element
  | n + 1, element =>
      match look element with
      | .inside inner => looks n inner
      | .settled answer => .settled answer

/- A reference is what a look settles, or what is inside. -/
theorem reference_eq_look
    (element : Tree) :
    reference element =
      match look element with
      | .inside inner => reference inner
      | .settled answer => answer := by
  have hInner :
      ∀ inner? : Option Tree,
        inner?.bind reference =
          match Look.ofInner? inner? with
          | .inside inner => reference inner
          | .settled answer => answer := by
    intro inner?
    cases inner? <;> rfl
  rw [reference_eq]
  unfold look
  generalize element.kind = kind
  split
  · rfl
  · exact hInner _
  · cases element.child? "function" with
    | none => rfl
    | some function =>
        simp only [Option.bind_some]
        split
        · split
          · exact hInner _
          · rfl
        · split
          · rfl
          · rfl
  · rfl
  · simp only [*]

------------------------------------------------------------
-- Wrappers
------------------------------------------------------------

/-
  The second tree is the first one in parentheses, or a forward
  reference to it.
-/
inductive Wraps : Tree → Tree → Prop where
  | parentheses
      {inner outer : Tree} :
      outer.kind = "parenthesized_expression" →
        outer.named.head? = some inner →
          Wraps inner outer
  | forwardRef
      {inner outer function arguments arrow : Tree} :
      outer.kind = "call_expression" →
        outer.child? "function" = some function →
          function.kind = "identifier" →
            function.text = "forwardRef" →
              outer.child? "arguments" = some arguments →
                arguments.firstNamed? "arrow_function" =
                    some arrow →
                  arrow.child? "body" = some inner →
                    Wraps inner outer

theorem forwarded?_eq_some_iff
    {call inner : Tree} :
    forwarded? call = some inner ↔
      ∃ arguments arrow,
        call.child? "arguments" = some arguments ∧
          arguments.firstNamed? "arrow_function" = some arrow ∧
            arrow.child? "body" = some inner := by
  simp [forwarded?, Option.bind_eq_some_iff]

theorem Look.ofInner?_eq_inside_iff
    {inner? : Option Tree}
    {inner : Tree} :
    ofInner? inner? = .inside inner ↔ inner? = some inner := by
  cases inner? <;> simp [ofInner?]

/- Wrappers are what a look sees through, and nothing else is. -/
theorem look_eq_inside_iff
    {inner outer : Tree} :
    look outer = .inside inner ↔ Wraps inner outer := by
  constructor
  · intro hLook
    unfold look at hLook
    split at hLook
    · cases hLook
    · next hKind =>
        exact .parentheses hKind
          (Look.ofInner?_eq_inside_iff.mp hLook)
    · next hKind =>
        split at hLook
        · cases hLook
        · next function hFunction =>
            split at hLook
            · next hName =>
                split at hLook
                · next hText =>
                    obtain ⟨arguments, arrow, hArgs, hArrow,
                        hBody⟩ :=
                      forwarded?_eq_some_iff.mp
                        (Look.ofInner?_eq_inside_iff.mp hLook)
                    exact .forwardRef hKind hFunction
                      (eq_of_beq hName) (eq_of_beq hText)
                      hArgs hArrow hBody
                · cases hLook
            · split at hLook
              · cases hLook
              · cases hLook
    · cases hLook
    · cases hLook
  · intro hWraps
    cases hWraps with
    | parentheses hKind hInner =>
        simp [look, hKind, hInner, Look.ofInner?]
    | forwardRef hKind hFunction hName hText hArgs hArrow
        hBody =>
        have hForwarded :=
          forwarded?_eq_some_iff.mpr
            ⟨_, _, hArgs, hArrow, hBody⟩
        simp [look, hKind, hFunction, hName, hText, hForwarded,
          Look.ofInner?]

/- A wrapper is larger than what it wraps. -/
theorem Wraps.size_lt
    {inner outer : Tree}
    (hWraps : Wraps inner outer) :
    inner.size < outer.size := by
  cases hWraps with
  | parentheses _ hInner =>
      exact Tree.size_lt_of_mem_children
        (Tree.mem_of_head?_named hInner)
  | forwardRef _ _ _ _ hArgs hArrow hBody =>
      exact size_lt_of_forwarded?
        (forwarded?_eq_some_iff.mpr ⟨_, _, hArgs, hArrow, hBody⟩)

/- A wrapper refers to what the tree inside refers to. -/
theorem Wraps.reference_eq
    {inner outer : Tree}
    (hWraps : Wraps inner outer) :
    reference outer = reference inner := by
  rw [reference_eq_look outer, look_eq_inside_iff.mpr hWraps]

/- Any number of wrappers, one around the other. -/
def Nested : Tree → Tree → Prop :=
  Relation.ReflTransGen Wraps

theorem Nested.reference_eq
    {inner outer : Tree}
    (hNested : Nested inner outer) :
    reference outer = reference inner := by
  induction hNested with
  | refl => rfl
  | tail _ hWraps ih => exact hWraps.reference_eq.trans ih

/- As many looks as an entry has nodes settle it. -/
theorem looks_eq_settled
    {element : Tree}
    {n : Nat}
    (hSize : element.size ≤ n) :
    looks n element = .settled (reference element) := by
  induction n generalizing element with
  | zero =>
      cases element with
      | node l cs =>
          rw [Tree.size] at hSize
          omega
  | succ n ih =>
      rw [looks, reference_eq_look]
      cases hLook : look element with
      | settled answer => rfl
      | inside inner =>
          have hLt := (look_eq_inside_iff.mp hLook).size_lt
          exact ih (by omega)

------------------------------------------------------------
-- What an Entry Names
------------------------------------------------------------

/- The pair says what an object provides. -/
inductive Tree.Provides : Tree → String → Prop where
  | reference
      {pair key value : Tree} :
      pair.kind = "pair" →
        pair.child? "key" = some key →
          unquote key.text = "provide" →
            pair.child? "value" = some value →
              value.kind = "identifier" →
                Provides pair value.text
  | quoted
      {pair key value : Tree} :
      pair.kind = "pair" →
        pair.child? "key" = some key →
          unquote key.text = "provide" →
            pair.child? "value" = some value →
              value.kind = "string" →
                Provides pair (unquote value.text)

theorem Provided.add_of_provides
    (p : Provided)
    {pair : Tree}
    {token : String}
    (hProvides : pair.Provides token) :
    p.add pair = { p with token := some token } := by
  cases hProvides with
  | reference hPair hKey hProvide hValue hKind =>
      simp [add, hPair, hKey, hProvide, hValue, hKind]
  | quoted hPair hKey hProvide hValue hKind =>
      simp [add, hPair, hKey, hProvide, hValue, hKind]

/- Other pairs leave the token as it is. -/
theorem Provided.token_add
    (p : Provided)
    {pair : Tree}
    (hOther : ∀ token, ¬ pair.Provides token) :
    (p.add pair).token = p.token := by
  unfold add
  split
  · rfl
  · next hPair =>
      have hPair : pair.kind = "pair" := by simpa using hPair
      split
      · next key value hKey hValue =>
          split
          · next hProvide hKind =>
              exact absurd
                (.reference hPair hKey hProvide hValue hKind)
                (hOther value.text)
          · next hProvide hKind =>
              exact absurd
                (.quoted hPair hKey hProvide hValue hKind)
                (hOther (unquote value.text))
          · rfl
          · rfl
      · rfl

/- The last pair that says what is provided counts. -/
theorem providerToken_of_provides
    {object pair : Tree}
    {front back : List Tree}
    {token : String}
    (hNamed : object.named = front ++ pair :: back)
    (hProvides : pair.Provides token)
    (hLast : ∀ other ∈ back, ∀ t, ¬ other.Provides t) :
    providerToken object = some token := by
  have hBack :
      ∀ p : Provided,
        (back.foldl Provided.add p).token = p.token := by
    intro p
    refine List.foldlRecOn
      (motive := fun q : Provided => q.token = p.token)
      back Provided.add rfl ?_
    intro q hSame other hMem
    exact (q.token_add (hLast other hMem)).trans hSame
  unfold providerToken
  rw [hNamed, List.foldl_append, List.foldl_cons,
    Provided.add_of_provides _ hProvides]
  simp [hBack]

/-
  The entry names a class without a wrapper: by itself, by a
  call of one of its methods, or as what an object provides.
-/
inductive Names : Tree → String → Prop where
  | identifier
      {entry : Tree} :
      entry.kind = "identifier" →
        Names entry entry.text
  | method
      {entry function object : Tree} :
      entry.kind = "call_expression" →
        entry.child? "function" = some function →
          function.kind = "member_expression" →
            function.child? "object" = some object →
              object.kind = "identifier" →
                Names entry object.text
  | provider
      {entry pair : Tree}
      {front back : List Tree}
      {token : String} :
      entry.kind = "object" →
        entry.named = front ++ pair :: back →
          pair.Provides token →
            (∀ other ∈ back, ∀ t, ¬ other.Provides t) →
              Names entry token

theorem reference_of_names
    {entry : Tree}
    {name : String}
    (hNames : Names entry name) :
    reference entry = some name := by
  rw [reference_eq_look]
  cases hNames with
  | identifier hKind => simp [look, hKind]
  | method hKind hFunction hMember hObject hName =>
      simp [look, receiver?, hKind, hFunction, hMember, hObject,
        hName]
  | provider hKind hNamed hProvides hLast =>
      simp [look, hKind,
        providerToken_of_provides hNamed hProvides hLast]

/-
  Whatever the entry is, so many looks as it has nodes settle
  what it refers to.  Wrappers in any mixture and to any depth
  change nothing about that, so around a class, a call of one
  of its methods or an object that provides it, they always
  lead to that class.
-/
theorem reference_through_wrappers :
    (∀ (element : Tree) (n : Nat),
        element.size ≤ n →
          looks n element = .settled (reference element)) ∧
      ∀ inner outer : Tree,
        Nested inner outer →
          reference outer = reference inner ∧
            ∀ name, Names inner name →
              reference outer = some name := by
  refine ⟨fun _ _ hSize => looks_eq_settled hSize, ?_⟩
  intro inner outer hNested
  refine ⟨hNested.reference_eq, ?_⟩
  intro name hNames
  exact hNested.reference_eq.trans (reference_of_names hNames)

namespace Sample

/- A forward reference to an entry that fills the body. -/
def forward
    (body : Tree) : Tree :=
  tree "call_expression" "" none
    [ tree "identifier" "forwardRef" (some "function") [],
      tree "arguments" "" (some "arguments")
        [ note "/* later */",
          tree "arrow_function" "" none [body] ] ]

/- A key with a class for it. -/
def pair
    (key name : String) : Tree :=
  tree "pair" "" none
    [ tree "property_identifier" key (some "key") [],
      tree "identifier" name (some "value") [] ]

/- An object that provides a configuration by its class. -/
def provider : Tree :=
  tree "object" "" none
    [pair "provide" "CONFIG", pair "useClass" "Config"]

theorem child?_pair
    (key name : String) :
    (pair key name).child? "key" =
        some (tree "property_identifier" key (some "key") []) ∧
      (pair key name).child? "value" =
        some (tree "identifier" name (some "value") []) :=
  ⟨rfl, rfl⟩

theorem provides_pair
    {key name : String}
    (hProvide : unquote key = "provide") :
    (pair key name).Provides name :=
  have ⟨hKey, hValue⟩ := child?_pair key name
  Tree.Provides.reference rfl hKey hProvide hValue rfl

end Sample

open Sample

/- A provider behind two forward references and parentheses. -/
theorem reference_through_four_wrappers :
    let inner := (parens [provider]).withField "body"
    let middle := (parens [forward inner]).withField "body"
    let outer := forward middle
    Nested provider outer ∧ Names provider "CONFIG" ∧
      looks outer.size outer = .settled (reference outer) ∧
        reference outer = some "CONFIG" := by
  intro inner middle outer
  have hNested : Nested provider outer :=
    (((Relation.ReflTransGen.refl.tail
      (.parentheses rfl rfl : Wraps provider inner)).tail
        (.forwardRef rfl rfl rfl rfl rfl rfl rfl :
          Wraps inner (forward inner))).tail
            (.parentheses rfl rfl)).tail
              (.forwardRef rfl rfl rfl rfl rfl rfl rfl)
  have hProvide : unquote "provide" = "provide" := by decide
  have hUseClass : unquote "useClass" ≠ "provide" := by decide
  have hNames : Names provider "CONFIG" := by
    have hNamed :
        provider.named =
          [] ++ pair "provide" "CONFIG" ::
            [pair "useClass" "Config"] := rfl
    have hToken : (pair "provide" "CONFIG").Provides "CONFIG" :=
      provides_pair hProvide
    refine .provider rfl hNamed hToken ?_
    intro other hMem token hOther
    rcases List.mem_singleton.mp hMem with rfl
    cases hOther with
    | reference _ hKey hText _ _ =>
        cases hKey
        exact hUseClass hText
    | quoted _ hKey hText _ _ =>
        cases hKey
        exact hUseClass hText
  rcases reference_through_wrappers with ⟨hLooks, hSame⟩
  exact ⟨hNested, hNames, hLooks outer outer.size (Nat.le_refl _),
    (hSame provider outer hNested).2 "CONFIG" hNames⟩

end Script

end ModuleLint
