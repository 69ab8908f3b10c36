import ModuleLint.Text.Place

/-
  Concrete trees of a script.

  A node carries its kind, whether it is named, the field it
  fills in its parent, its text and the places where it starts
  and stops.  Text that fits nowhere stands in a node of kind
  `ERROR`, and a token that had to be assumed is an empty
  node marked as missing.

  Key definitions include:
    * `Label`
    * `Tree`
    * `Tree.child?`, `Tree.named`
    * `Tree.faulty`, `Tree.Marked`
-/

namespace ModuleLint

namespace Script

------------------------------------------------------------
-- Nodes
------------------------------------------------------------

/- How a node relates to the grammar. -/
inductive Standing where
  | sound
  | misplaced
  | missing
deriving DecidableEq, Repr, Inhabited

/-
  What a node says about itself.  `damaged` tells whether the
  node or one below it is misplaced or missing.
-/
structure Label where
  kind : String
  named : Bool
  field : Option String
  standing : Standing
  damaged : Bool
  text : String
  start : Place
  stop : Place
deriving DecidableEq, Repr, Inhabited

/- A tree is a label over an ordered list of trees. -/
inductive Tree where
  | node (label : Label) (children : List Tree)
deriving Repr, Inhabited

/- The sum of numbers. -/
def total : List Nat → Nat
  | [] => 0
  | n :: ns => n + total ns

@[simp] theorem total_nil :
    total [] = 0 := rfl

@[simp] theorem total_cons
    (n : Nat)
    (ns : List Nat) :
    total (n :: ns) = n + total ns := rfl

@[simp] theorem total_append
    (ms ns : List Nat) :
    total (ms ++ ns) = total ms + total ns := by
  induction ms with
  | nil => simp
  | cons m ms ih => simp [ih, Nat.add_assoc]

namespace Tree

------------------------------------------------------------
-- Parts
------------------------------------------------------------

/- The label of the root. -/
def label : Tree → Label
  | node l _ => l

/- The trees right below the root. -/
def children : Tree → List Tree
  | node _ cs => cs

/- The kind of the root. -/
def kind
    (t : Tree) : String :=
  t.label.kind

/- The source text the tree covers. -/
def text
    (t : Tree) : String :=
  t.label.text

/- The line on which the tree starts. -/
def line
    (t : Tree) : Nat :=
  t.label.start.line

/- The column at which the tree starts. -/
def column
    (t : Tree) : Nat :=
  t.label.start.column

/- The first child that fills the given field. -/
def child?
    (t : Tree)
    (field : String) : Option Tree :=
  t.children.find? (fun c => c.label.field == some field)

/- The named children. -/
def named
    (t : Tree) : List Tree :=
  t.children.filter (fun c => c.label.named)

/- The first named child of the given kind. -/
def firstNamed?
    (t : Tree)
    (kind : String) : Option Tree :=
  t.named.find? (fun c => c.kind == kind)

/- The tree with its root filling another field. -/
def withField
    (field : String) : Tree → Tree
  | node l cs => node { l with field := some field } cs

------------------------------------------------------------
-- Damage
------------------------------------------------------------

/- The root itself is misplaced or missing. -/
def faulty
    (t : Tree) : Bool :=
  t.label.standing != .sound

/- The tree says that it holds a faulty node. -/
def damaged
    (t : Tree) : Bool :=
  t.label.damaged

/- All nodes in document order, parents first. -/
def preorder : Tree → List Tree
  | t@(node _ cs) => t :: (cs.map preorder).flatten

theorem preorder_eq
    (t : Tree) :
    t.preorder = t :: t.children.flatMap preorder := by
  cases t with
  | node l cs => rw [preorder, List.flatMap_def, children]

theorem self_mem_preorder
    (t : Tree) :
    t ∈ t.preorder := by
  rw [preorder_eq]
  exact List.mem_cons_self

theorem mem_preorder_of_child
    {t c n : Tree}
    (hChild : c ∈ t.children)
    (hMem : n ∈ c.preorder) :
    n ∈ t.preorder := by
  rw [preorder_eq]
  exact List.mem_cons_of_mem _
    (List.mem_flatMap.mpr ⟨c, hChild, hMem⟩)

/- A tree is marked when every node tells the truth about damage. -/
def Marked
    (t : Tree) : Prop :=
  ∀ n ∈ t.preorder,
    (n.damaged = true ↔
      ∃ m ∈ n.preorder, m.faulty = true)

/-
  A node over the given children, with the damage it takes
  from them and from its own standing.
-/
def assemble
    (l : Label)
    (cs : List Tree) : Tree :=
  node
    { l with
      damaged := l.standing != .sound || cs.any damaged }
    cs

------------------------------------------------------------
-- Size
------------------------------------------------------------

/- The number of nodes. -/
def size : Tree → Nat
  | node _ cs => 1 + total (cs.map size)

/- A child is smaller than its parent. -/
theorem size_lt_of_mem_children
    {t c : Tree}
    (h : c ∈ t.children) :
    c.size < t.size := by
  cases t with
  | node l cs =>
      have hLe : ∀ (ts : List Tree), c ∈ ts →
          c.size ≤ total (ts.map size) := by
        intro ts hMem
        induction ts with
        | nil => cases hMem
        | cons x xs ih =>
            simp only [List.map_cons, total_cons]
            cases hMem with
            | head => omega
            | tail _ hTail =>
                have := ih hTail
                omega
      have := hLe cs h
      rw [size]
      omega

end Tree

end Script

end ModuleLint
