import Mathlib.Algebra.Order.Floor.Ring
import Mathlib.Data.Rat.Floor
import Mathlib.Data.Sign.Basic
import Mathlib.Tactic.FieldSimp
import Mathlib.Tactic.Linarith

/-! # Rounding to decimal places

A number rounded to some places is the nearest whole number of units of the last place,
and of two that are as near the one farther from zero. The laws are those of rounding to
an integer; a unit of the last place only changes the scale. -/

namespace Reckoner.Decimal

/-- The integer nearest to `x`, a half going away from zero. -/
def halfAway (x : Rat) : Int := SignType.sign x * ⌊|x| + 1 / 2⌋

section HalfAway
variable {x y : Rat} {n : Int}

theorem halfAway_neg (x : Rat) : halfAway (-x) = -halfAway x := by
  rw [halfAway, halfAway, Left.sign_neg, abs_neg, SignType.coe_neg, neg_mul]

theorem halfAway_of_nonneg (hx : 0 ≤ x) : halfAway x = ⌊x + 1 / 2⌋ := by
  rw [halfAway, abs_of_nonneg hx]
  rcases hx.eq_or_lt with rfl | hpos
  · have hhalf : ⌊(0 : Rat) + 1 / 2⌋ = 0 := by norm_num
    rw [hhalf, mul_zero]
  · rw [sign_pos hpos, SignType.coe_one, one_mul]

theorem halfAway_intCast (n : Int) : halfAway n = n := by
  rcases le_total 0 n with hn | hn
  · rw [halfAway_of_nonneg (by exact_mod_cast hn), Int.floor_intCast_add]
    norm_num
  · have hneg : halfAway (-(n : Rat)) = -n := by
      rw [halfAway_of_nonneg (by exact_mod_cast neg_nonneg.mpr hn), ← Int.cast_neg,
        Int.floor_intCast_add]
      norm_num
    rwa [halfAway_neg, neg_inj] at hneg

theorem abs_halfAway_sub_le (x : Rat) : |halfAway x - x| ≤ 1 / 2 := by
  wlog hx : 0 ≤ x generalizing x
  · have hneg := this (-x) (by linarith)
    rw [halfAway_neg, Int.cast_neg, ← neg_sub', abs_neg] at hneg
    exact hneg
  · rw [halfAway_of_nonneg hx, abs_le]
    have hle := Int.floor_le (x + 1 / 2)
    have hlt := Int.lt_floor_add_one (x + 1 / 2)
    constructor <;> linarith

/-- No integer is nearer. -/
theorem abs_sub_halfAway_le (x : Rat) (n : Int) : |x - halfAway x| ≤ |x - n| := by
  by_cases hn : n = halfAway x
  · rw [hn]
  · have hapart : (1 : Rat) ≤ |(n : Rat) - halfAway x| := by
      exact_mod_cast Int.one_le_abs (sub_ne_zero.mpr hn)
    have htriangle : |(n : Rat) - halfAway x| ≤ |(n : Rat) - x| + |x - halfAway x| :=
      abs_sub_le _ _ _
    have hnear := abs_halfAway_sub_le x
    rw [abs_sub_comm] at hnear
    rw [abs_sub_comm (n : Rat) x] at htriangle
    linarith

/-- Of two integers that are as near it is the one farther from zero. -/
theorem abs_le_abs_halfAway (h : |x - n| ≤ 1 / 2) : |n| ≤ |halfAway x| := by
  wlog hx : 0 ≤ x generalizing x n
  · have hneg : |-x - ((-n : Int) : Rat)| ≤ 1 / 2 := by
      rw [Int.cast_neg, ← neg_sub', abs_neg]
      exact h
    have hle := this hneg (by linarith)
    rwa [halfAway_neg, abs_neg, abs_neg] at hle
  · obtain ⟨hlow, hhigh⟩ := abs_le.mp h
    have hnonneg : 0 ≤ n := by
      have hlt : (-1 : Rat) < n := by linarith
      have hlt' : -1 < n := by exact_mod_cast hlt
      omega
    have hle : n ≤ halfAway x := by
      rw [halfAway_of_nonneg hx, Int.le_floor]
      linarith
    rw [abs_of_nonneg hnonneg, abs_of_nonneg (hnonneg.trans hle)]
    exact hle

theorem halfAway_nonneg (hx : 0 ≤ x) : 0 ≤ halfAway x := by
  rw [halfAway_of_nonneg hx, Int.floor_nonneg]
  linarith

theorem halfAway_mono (h : x ≤ y) : halfAway x ≤ halfAway y := by
  have hfloor : ∀ {a b : Rat}, 0 ≤ a → a ≤ b → halfAway a ≤ halfAway b := by
    intro a b ha hab
    rw [halfAway_of_nonneg ha, halfAway_of_nonneg (ha.trans hab)]
    exact Int.floor_le_floor (by linarith)
  rcases le_total 0 x with hx | hx
  · exact hfloor hx h
  · have hxneg := halfAway_nonneg (neg_nonneg.mpr hx)
    rw [halfAway_neg] at hxneg
    rcases le_total 0 y with hy | hy
    · have hynonneg := halfAway_nonneg hy
      omega
    · have hle := hfloor (neg_nonneg.mpr hy) (neg_le_neg h)
      rw [halfAway_neg, halfAway_neg] at hle
      omega

end HalfAway

def rounded (places : Nat) (r : Rat) : Rat :=
  SignType.sign r * ⌊|r| * 10 ^ places + 1 / 2⌋ / 10 ^ places

/-- A whole number of units of the last place that is as near to `r` as any is, and no
nearer to zero than any other that is as near to `r`. -/
structure Nearest (places : Nat) (r q : Rat) : Prop where
  units : ∃ units : Int, q = (units : Rat) / 10 ^ places
  le : ∀ units : Int, |r - q| ≤ |r - (units : Rat) / 10 ^ places|
  away : ∀ units : Int, |r - (units : Rat) / 10 ^ places| = |r - q| →
    |(units : Rat) / 10 ^ places| ≤ |q|

section Places
variable {places : Nat} {r s : Rat}

theorem unit_pos (places : Nat) : (0 : Rat) < 10 ^ places := pow_pos (by norm_num) places

theorem rounded_eq (places : Nat) (r : Rat) :
    rounded places r = halfAway (r * 10 ^ places) / 10 ^ places := by
  have hsign : SignType.sign (r * 10 ^ places) = SignType.sign r := by
    rw [sign_mul, sign_pos (unit_pos places), mul_one]
  rw [rounded, halfAway, hsign, abs_mul, abs_of_pos (unit_pos places)]
  push_cast
  rfl

theorem rounded_neg (places : Nat) (r : Rat) : rounded places (-r) = -rounded places r := by
  rw [rounded_eq, rounded_eq, neg_mul, halfAway_neg, Int.cast_neg, neg_div]

theorem rounded_mono (places : Nat) (h : r ≤ s) : rounded places r ≤ rounded places s := by
  rw [rounded_eq, rounded_eq]
  have hunits : halfAway (r * 10 ^ places) ≤ halfAway (s * 10 ^ places) :=
    halfAway_mono (mul_le_mul_of_nonneg_right h (unit_pos places).le)
  have hcast : (halfAway (r * 10 ^ places) : Rat) ≤ halfAway (s * 10 ^ places) := by
    exact_mod_cast hunits
  exact div_le_div_of_nonneg_right hcast (unit_pos places).le

theorem rounded_of_units {units : Int} (h : r * 10 ^ places = units) : rounded places r = r := by
  rw [rounded_eq, h, halfAway_intCast, ← h, mul_div_cancel_right₀ r (unit_pos places).ne']

theorem rounded_rounded (places : Nat) (r : Rat) :
    rounded places (rounded places r) = rounded places r := by
  apply rounded_of_units
  rw [rounded_eq, div_mul_cancel₀ _ (unit_pos places).ne']

theorem abs_sub_div_unit (places : Nat) (r x : Rat) :
    |r - x / 10 ^ places| = |r * 10 ^ places - x| / 10 ^ places := by
  rw [← abs_of_pos (unit_pos places), ← abs_div, abs_of_pos (unit_pos places), sub_div,
    mul_div_cancel_right₀ r (unit_pos places).ne']

theorem abs_rounded_sub_le (places : Nat) (r : Rat) :
    |rounded places r - r| ≤ 1 / 2 / 10 ^ places := by
  rw [abs_sub_comm, rounded_eq, abs_sub_div_unit, abs_sub_comm]
  exact div_le_div_of_nonneg_right (abs_halfAway_sub_le _) (unit_pos places).le

theorem nearest_rounded (places : Nat) (r : Rat) : Nearest places r (rounded places r) := by
  refine ⟨⟨halfAway (r * 10 ^ places), rounded_eq places r⟩, ?_, ?_⟩
  · intro units
    rw [rounded_eq, abs_sub_div_unit, abs_sub_div_unit]
    exact div_le_div_of_nonneg_right (abs_sub_halfAway_le _ units) (unit_pos places).le
  · intro units h
    rw [rounded_eq, abs_sub_div_unit, abs_sub_div_unit,
      div_left_inj' (unit_pos places).ne'] at h
    have hnear : |r * 10 ^ places - units| ≤ 1 / 2 := by
      rw [h, abs_sub_comm]
      exact abs_halfAway_sub_le _
    have hle : (|(units : Rat)|) ≤ |(halfAway (r * 10 ^ places) : Rat)| := by
      exact_mod_cast abs_le_abs_halfAway hnear
    rw [rounded_eq, abs_div, abs_div]
    exact div_le_div_of_nonneg_right hle (abs_nonneg _)

theorem Nearest.unique {p q : Rat} (hp : Nearest places r p) (hq : Nearest places r q) :
    p = q := by
  obtain ⟨pUnits, rfl⟩ := hp.units
  obtain ⟨qUnits, rfl⟩ := hq.units
  have hdistance := (hp.le qUnits).antisymm (hq.le pUnits)
  have hmagnitude := (hq.away pUnits hdistance).antisymm (hp.away qUnits hdistance.symm)
  rcases abs_eq_abs.mp hmagnitude with heq | heq
  · exact heq
  · -- Opposite numbers are as near to `r` only if `r` or they are zero.
    generalize (qUnits : Rat) / 10 ^ places = q at *
    rw [heq] at hdistance
    rcases abs_eq_abs.mp hdistance with h | h
    · linarith
    · have hr : r = 0 := by linarith
      have hq0 : q = 0 := by simpa [hr] using hq.le 0
      rw [heq, hq0, neg_zero]

theorem nearest_iff {q : Rat} : Nearest places r q ↔ q = rounded places r := by
  constructor
  · intro h
    exact h.unique (nearest_rounded places r)
  · rintro rfl
    exact nearest_rounded places r

end Places

end Reckoner.Decimal
