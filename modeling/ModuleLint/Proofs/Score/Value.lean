import Mathlib.Algebra.Order.BigOperators.Group.List
import Mathlib.Data.Rat.Floor
import Mathlib.Tactic.Linarith
import Mathlib.Tactic.Ring
import ModuleLint.Score.Policy

/-
  Scores of exact numbers.

  It does not matter that costs are summed up category by
  category: the penalty is the sum of all costs.  More costs
  and fewer files never raise a score, and the order of
  diagnostics does not count.

  Main declarations:
    * `RoundsTo`, `roundsTo_roundHalfAway`
    * `Scale.cast_points`, `Scale.points_anti`
    * `Policy.penalty_eq_sum`
    * `Policy.value_exact_and_monotone`
-/

namespace ModuleLint

------------------------------------------------------------
-- Rounding
------------------------------------------------------------

/-
  A whole number is as near as possible.  Where two are, it is
  the one further away from zero.
-/
structure RoundsTo
    (q : Rat)
    (r : Int) : Prop where
  near : |q - r| ≤ 1 / 2
  away : |q - r| = 1 / 2 → |q| ≤ |(r : Rat)|

/- Rounding is the same on both sides of zero. -/
theorem RoundsTo.of_neg
    {q : Rat}
    {r : Int}
    (hNeg : RoundsTo (-q) r) :
    RoundsTo q (-r) := by
  have hDistance : |q - (-r : Int)| = |-q - r| := by
    rw [Int.cast_neg, ← abs_neg]
    congr 1
    ring
  refine ⟨hDistance.trans_le hNeg.near, ?_⟩
  rw [hDistance, Int.cast_neg, abs_neg, ← abs_neg q]
  exact hNeg.away

theorem roundsTo_floor
    {q : Rat}
    (hNonneg : 0 ≤ q) :
    RoundsTo q (q + 1 / 2).floor := by
  have hLow := Rat.floor_le (q + 1 / 2)
  have hHigh := Rat.lt_floor (x := q + 1 / 2)
  generalize (q + 1 / 2).floor = f at hLow hHigh
  refine ⟨abs_le.mpr ⟨by linarith, by linarith⟩, ?_⟩
  intro hTie
  rw [abs_of_nonneg hNonneg]
  rcases (abs_eq (by norm_num)).mp hTie with hBelow | hAbove
  · linarith
  · exact le_trans (by linarith) (le_abs_self (f : Rat))

theorem roundsTo_roundHalfAway
    (q : Rat) :
    RoundsTo q (roundHalfAway q) := by
  unfold roundHalfAway
  split
  · next hNeg =>
      exact (roundsTo_floor (neg_nonneg.mpr hNeg.le)).of_neg
  · next hNot => exact roundsTo_floor (not_lt.mp hNot)

/-
  Rounding keeps the order.  In particular a number rounds to
  one whole number only.
-/
theorem RoundsTo.le
    {a b : Rat}
    {r s : Int}
    (hA : RoundsTo a r)
    (hB : RoundsTo b s)
    (hLe : a ≤ b) :
    r ≤ s := by
  by_contra hNot
  have hNext : (s : Rat) + 1 ≤ r := by
    exact_mod_cast Int.lt_iff_add_one_le.mp (not_le.mp hNot)
  have hALow := (abs_le.mp hA.near).1
  have hBHigh := (abs_le.mp hB.near).2
  -- Then both numbers are the one halfway between `s` and `r`,
  -- and only one of the two is further away from zero.
  have hHalf : a = s + 1 / 2 := by linarith
  have hR : (r : Rat) = s + 1 := by linarith
  have hSame : b = a := by linarith
  have hUp : |a| ≤ |(r : Rat)| := by
    apply hA.away
    rw [hHalf, hR]
    norm_num
  have hDown : |a| ≤ |(s : Rat)| := by
    rw [← hSame]
    apply hB.away
    rw [hSame, hHalf]
    norm_num
  rw [hHalf, hR] at hUp
  rw [hHalf] at hDown
  rcases le_or_gt 0 s with hPos | hNeg
  · have hS : (0 : Rat) ≤ s := by exact_mod_cast hPos
    rw [abs_of_nonneg hS, abs_of_nonneg (by linarith)] at hDown
    linarith
  · have hS : (s : Rat) + 1 ≤ 0 := by
      exact_mod_cast Int.add_one_le_iff.mpr hNeg
    rw [abs_of_nonpos hS, abs_of_nonpos (by linarith)] at hUp
    linarith

------------------------------------------------------------
-- Points
------------------------------------------------------------

namespace Scale

/- A whole number between the bounds fits into a byte. -/
theorem cast_toByte_clamp
    (r : Int) :
    (toByte (clamp (r : Rat) (ofNat 0) (ofNat 100)) : Int) =
      max 0 (min r 100) := by
  have hByte :
      ∀ i : Int, toByte (i : Rat) = min i.toNat 255 := by
    intro i
    change min (i : Rat).floor.toNat 255 = min i.toNat 255
    rw [Rat.floor_intCast]
  have hClamp :
      clamp (r : Rat) (ofNat 0) (ofNat 100) =
        ((if r < 0 then 0 else if 100 < r then 100 else r
          : Int) : Rat) := by
    unfold clamp
    have hLow : (r : Rat) < ofNat 0 ↔ r < 0 := by
      change (r : Rat) < ((0 : Nat) : Rat) ↔ r < 0
      exact_mod_cast Iff.rfl
    have hHigh : (ofNat 100 : Rat) < r ↔ 100 < r := by
      change ((100 : Nat) : Rat) < (r : Rat) ↔ 100 < r
      exact_mod_cast Iff.rfl
    simp only [hLow, hHigh]
    split
    · rfl
    · split
      · rfl
      · rfl
  rw [hClamp, hByte]
  split
  · omega
  · split <;> omega

/- The points are a rounded number, kept between two bounds. -/
theorem cast_points
    (penalty : Rat)
    (files : Nat) :
    (points penalty files : Int) =
      max 0
        (min (roundHalfAway (100 - penalty / files * 10))
          100) :=
  cast_toByte_clamp _

theorem points_le
    (penalty : Rat)
    (files : Nat) :
    points penalty files ≤ 100 := by
  have hPoints := cast_points penalty files
  omega

/- More penalty for each file gives no more points. -/
theorem points_anti
    {a b : Rat}
    {n m : Nat}
    (hPerFile : b / m ≤ a / n) :
    points a n ≤ points b m := by
  have hRound :
      roundHalfAway (100 - a / n * 10) ≤
        roundHalfAway (100 - b / m * 10) := by
    refine (roundsTo_roundHalfAway _).le
      (roundsTo_roundHalfAway _) ?_
    linarith
  have hA := cast_points a n
  have hB := cast_points b m
  omega

end Scale

------------------------------------------------------------
-- Penalties
------------------------------------------------------------

/- All of a diagnostic that a policy looks at. -/
def Diagnostic.weighed
    (d : Diagnostic) : Severity × Category :=
  (d.severity, d.category)

namespace Policy

section

variable (p : Policy Rat)

/- Costs outside of a category do not count in it. -/
theorem categoryCost_eq_sum
    (ds : List Diagnostic)
    (c : Category) :
    p.categoryCost ds c =
      (ds.map
        (fun d =>
          if d.category = c then p.cost d else 0)).sum := by
  suffices hStart :
      ∀ start : Rat,
        ds.foldl
            (fun sum d =>
              if d.category = c then sum + p.cost d else sum)
            start =
          start +
            (ds.map
              (fun d =>
                if d.category = c then p.cost d else 0)).sum by
    exact (hStart 0).trans (zero_add _)
  induction ds with
  | nil => simp
  | cons d ds ih =>
      intro start
      rw [List.foldl_cons, ih, List.map_cons, List.sum_cons]
      split <;> ring

/- The penalty is the sum of all costs. -/
theorem penalty_eq_sum
    (ds : List Diagnostic) :
    p.penalty ds = (ds.map p.cost).sum := by
  simp only [penalty, Category.all, List.foldl_cons,
    List.foldl_nil, categoryCost_eq_sum]
  induction ds with
  | nil => simp
  | cons d ds ih =>
      simp only [List.map_cons, List.sum_cons, ← ih]
      -- The cost of `d` counts in its own category alone.
      cases d.category <;> simp <;> ring

theorem penalty_eq_of_perm
    {ds es : List Diagnostic}
    (hPerm :
      (es.map Diagnostic.weighed).Perm
        (ds.map Diagnostic.weighed)) :
    p.penalty es = p.penalty ds := by
  have hCost :
      p.cost =
        (fun w => p.weights.of w.1 * p.multipliers.of w.2) ∘
          Diagnostic.weighed := rfl
  rw [penalty_eq_sum, penalty_eq_sum, hCost, ← List.map_map,
    ← List.map_map]
  exact (hPerm.map _).sum_eq

end

/- No weight and no multiplier is negative. -/
structure NonNegative
    (p : Policy Rat) : Prop where
  weights : ∀ s, 0 ≤ p.weights.of s
  multipliers : ∀ c, 0 ≤ p.multipliers.of c

section

variable {p : Policy Rat}

theorem NonNegative.cost
    (hPolicy : p.NonNegative)
    (d : Diagnostic) :
    0 ≤ p.cost d :=
  mul_nonneg (hPolicy.weights _) (hPolicy.multipliers _)

/- Fewer diagnostics and more files make for less penalty. -/
theorem NonNegative.penalty_div_le
    (hPolicy : p.NonNegative)
    {ds ds' : List Diagnostic}
    (hSublist : ds'.Sublist ds)
    {n m : Nat}
    (hFiles : 1 ≤ n)
    (hMore : n ≤ m) :
    p.penalty ds' / m ≤ p.penalty ds / n := by
  have hCosts : ∀ x ∈ ds.map p.cost, 0 ≤ x := by
    intro x hMem
    rcases List.mem_map.mp hMem with ⟨d, _, rfl⟩
    exact hPolicy.cost d
  rw [penalty_eq_sum, penalty_eq_sum]
  apply div_le_div₀
  · exact List.sum_nonneg hCosts
  · exact (hSublist.map p.cost).sum_le_sum hCosts
  · exact_mod_cast hFiles
  · exact_mod_cast hMore

end

end Policy

------------------------------------------------------------
-- Scores
------------------------------------------------------------

/- Better grades rank higher. -/
def Grade.rank : Grade → Nat
  | excellent => 4
  | good => 3
  | fair => 2
  | poor => 1
  | critical => 0

theorem Grade.rank_ofValue_mono
    {v w : Nat}
    (hLe : v ≤ w) :
    (ofValue v).rank ≤ (ofValue w).rank := by
  unfold ofValue
  split_ifs <;> simp only [rank] <;> omega

namespace Policy

theorem value_of_pos
    (p : Policy Rat)
    (ds : List Diagnostic)
    {files : Nat}
    (hFiles : 1 ≤ files) :
    p.value ds files = Scale.points (p.penalty ds) files :=
  if_neg (Nat.one_le_iff_ne_zero.mp hFiles)

/-
  A score never falls if diagnostics are taken away or files
  are added, and neither does its grade.  It lies between
  nothing and a hundred, the severities and categories of the
  diagnostics determine it in whatever order they come, and it
  is what is left of a hundred after ten times the costs of a
  file, rounded.
-/
theorem value_exact_and_monotone
    {p : Policy Rat}
    (hPolicy : p.NonNegative)
    {ds ds' : List Diagnostic}
    (hSublist : ds'.Sublist ds)
    {n m : Nat}
    (hFiles : 1 ≤ n)
    (hMore : n ≤ m) :
    p.value ds n ≤ p.value ds' m ∧
      (Grade.ofValue (p.value ds n)).rank ≤
        (Grade.ofValue (p.value ds' m)).rank ∧
      p.value ds n ≤ 100 ∧
      (∀ es : List Diagnostic,
        (es.map Diagnostic.weighed).Perm
            (ds.map Diagnostic.weighed) →
          p.value es n = p.value ds n) ∧
      ∃ r,
        RoundsTo (100 - 10 * (ds.map p.cost).sum / n) r ∧
          (p.value ds n : Int) = max 0 (min r 100) := by
  have hValue :
      p.value ds n ≤ p.value ds' m := by
    rw [value_of_pos p ds hFiles,
      value_of_pos p ds' (hFiles.trans hMore)]
    exact Scale.points_anti
      (hPolicy.penalty_div_le hSublist hFiles hMore)
  refine ⟨hValue, Grade.rank_ofValue_mono hValue, ?_, ?_, ?_⟩
  · rw [value_of_pos p ds hFiles]
    exact Scale.points_le _ _
  · intro es hPerm
    rw [value_of_pos p es hFiles, value_of_pos p ds hFiles,
      penalty_eq_of_perm p hPerm]
  · refine ⟨_, roundsTo_roundHalfAway _, ?_⟩
    rw [value_of_pos p ds hFiles, Scale.cast_points,
      penalty_eq_sum, div_mul_eq_mul_div, mul_comm]

/-
  A score that is tied between two whole numbers, and a better
  one of fewer diagnostics in more files.
-/
theorem value_exact_and_monotone_tied :
    let p : Policy Rat := ⟨⟨3, 3 / 2, 1 / 4⟩, ⟨2, 1, 1, 0⟩⟩
    let found (s : Severity) (c : Category) : Diagnostic :=
      { (default : Diagnostic) with severity := s, category := c }
    let ds :=
      [ found .warning .security, found .info .correctness,
        found .error .performance ]
    let ds' := [found .info .correctness]
    p.NonNegative ∧
      ds'.Sublist ds ∧
      p.value ds 1 = 68 ∧
      p.value ds' 2 = 99 ∧
      (Grade.ofValue (p.value ds 1)).rank ≤
        (Grade.ofValue (p.value ds' 2)).rank ∧
      p.value ds.reverse 1 = 68 ∧
      ∃ r,
        RoundsTo (100 - 10 * (ds.map p.cost).sum / 1) r ∧
          (p.value ds 1 : Int) = max 0 (min r 100) := by
  intro p found ds ds'
  have hPolicy : p.NonNegative :=
    ⟨fun s => by cases s <;> decide +kernel,
      fun c => by cases c <;> decide +kernel⟩
  have hSublist : ds'.Sublist ds := by decide
  have hValue : p.value ds 1 = 68 := by decide +kernel
  rcases value_exact_and_monotone hPolicy hSublist
      (le_refl 1) (by decide : 1 ≤ 2) with
    ⟨_, hGrade, _, hPerm, hExact⟩
  refine ⟨hPolicy, hSublist, hValue, by decide +kernel,
    hGrade, ?_, by exact_mod_cast hExact⟩
  rw [← hValue]
  exact hPerm ds.reverse (ds.reverse_perm.map _)

end Policy

end ModuleLint
