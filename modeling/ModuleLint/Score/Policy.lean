import ModuleLint.Report.Diagnostic

/-
  The health score of a project.

  Every diagnostic costs the weight of its severity times the
  multiplier of its category.  The costs are summed up in each
  category, then over the categories, and the sum is divided
  by the number of files.

  The policy is the same for every kind of number that can be
  calculated with and rounded.

  Key definitions include:
    * `Weights`, `Multipliers`, `Policy`
    * `Policy.cost`, `Policy.penalty`
    * `Scale`, `Scale.points`
    * `Policy.value`
    * `Grade`
-/

namespace ModuleLint

------------------------------------------------------------
-- Weights
------------------------------------------------------------

/- What a diagnostic of each severity weighs. -/
structure Weights (α : Type) where
  error : α
  warning : α
  info : α
deriving Repr, Inhabited

/- The weight of a severity. -/
def Weights.of
    {α : Type}
    (w : Weights α) : Severity → α
  | .error => w.error
  | .warning => w.warning
  | .info => w.info

/- What multiplies the weights in each category. -/
structure Multipliers (α : Type) where
  security : α
  correctness : α
  architecture : α
  performance : α
deriving Repr, Inhabited

/- The multiplier of a category. -/
def Multipliers.of
    {α : Type}
    (m : Multipliers α) : Category → α
  | .security => m.security
  | .correctness => m.correctness
  | .architecture => m.architecture
  | .performance => m.performance

/- How diagnostics are weighed. -/
structure Policy (α : Type) where
  weights : Weights α
  multipliers : Multipliers α
deriving Repr, Inhabited

------------------------------------------------------------
-- Points
------------------------------------------------------------

/-
  Numbers that points can be read off: they are rounded to
  whole numbers, with a half away from zero, and cut down to
  what a byte can hold.
-/
class Scale (α : Type) where
  ofNat : Nat → α
  round : α → α
  toByte : α → Nat

/-
  Floating point numbers.  What is not a number gives no
  points.
-/
instance : Scale Float where
  ofNat := Float.ofNat
  round := Float.round
  toByte x := x.toUInt8.toNat

/- A half is rounded away from zero. -/
def roundHalfAway
    (q : Rat) : Int :=
  if q < 0 then -((-q + 1 / 2).floor) else (q + 1 / 2).floor

/- Exact numbers. -/
instance : Scale Rat where
  ofNat n := n
  round q := roundHalfAway q
  toByte q := min q.floor.toNat 255

namespace Scale

variable {α : Type} [LT α] [DecidableLT α]

/- A number, or the bound that it lies beyond. -/
def clamp
    (x low high : α) : α :=
  if x < low then low
  else if high < x then high
  else x

variable [Sub α] [Mul α] [Div α] [Scale α]

/-
  A hundred, less ten times the penalty of a file, rounded and
  kept between nothing and a hundred.
-/
def points
    (penalty : α)
    (files : Nat) : Nat :=
  let raw := ofNat 100 - penalty / ofNat files * ofNat 10
  toByte (clamp (round raw) (ofNat 0) (ofNat 100))

end Scale

------------------------------------------------------------
-- Scores
------------------------------------------------------------

/- Ranges of scores. -/
inductive Grade where
  | excellent
  | good
  | fair
  | poor
  | critical
deriving DecidableEq, Repr, Inhabited

namespace Grade

/- The name of a grade. -/
def name : Grade → String
  | excellent => "Excellent"
  | good => "Good"
  | fair => "Fair"
  | poor => "Poor"
  | critical => "Critical"

/- The grade of a score. -/
def ofValue
    (value : Nat) : Grade :=
  if value ≥ 90 then excellent
  else if value ≥ 75 then good
  else if value ≥ 50 then fair
  else if value ≥ 25 then poor
  else critical

end Grade

namespace Policy

variable {α : Type} [Add α] [Mul α] [Zero α]

/- What one diagnostic costs. -/
def cost
    (p : Policy α)
    (d : Diagnostic) : α :=
  p.weights.of d.severity * p.multipliers.of d.category

/- What the diagnostics of a category cost together. -/
def categoryCost
    (p : Policy α)
    (ds : List Diagnostic)
    (c : Category) : α :=
  ds.foldl
    (fun sum d => if d.category = c then sum + p.cost d else sum)
    0

/- What all diagnostics cost, category by category. -/
def penalty
    (p : Policy α)
    (ds : List Diagnostic) : α :=
  Category.all.foldl (fun sum c => sum + p.categoryCost ds c) 0

/- The score.  Without files nothing can be wrong. -/
def value
    [Sub α] [Div α] [LT α] [DecidableLT α] [Scale α]
    (p : Policy α)
    (ds : List Diagnostic)
    (files : Nat) : Nat :=
  if files = 0 then 100
  else Scale.points (p.penalty ds) files

end Policy

------------------------------------------------------------
-- Defaults
------------------------------------------------------------

/- The weights that apply if none are given. -/
def Weights.standard : Weights Float :=
  ⟨3.0, 1.5, 0.5⟩

/- The multipliers that apply if none are given. -/
def Multipliers.standard : Multipliers Float :=
  { security := 1.5
    correctness := 1.3
    architecture := 1.0
    performance := 0.8 }

/- The policy that applies if none is given. -/
def Policy.standard : Policy Float :=
  ⟨.standard, .standard⟩

end ModuleLint
