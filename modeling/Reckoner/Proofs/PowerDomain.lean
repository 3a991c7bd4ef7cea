import Reckoner.Number.Power
import Reckoner.Proofs.Rounding

/-! # The domain of powers

No power is meant for zero and a negative exponent, nor for a negative base and an
exponent that is not an integer. The exact powers keep to this, and so does the
binary64 power for the numbers that it is given. Those are the rounded ones, though:
where the rounding of base or exponent leads back into the domain, a power is
answered that is not meant. -/

namespace Reckoner
open Binary64

/-- No power is meant for this base and exponent. -/
def OutsideDomain (base exponent : Rat) : Prop :=
  base = 0 ∧ exponent < 0 ∨ base < 0 ∧ exponent.den ≠ 1

namespace Binary64
variable {x y : Binary64}

/-- The power is meant, but its magnitude is beyond the range. -/
structure Overflows (x y : Binary64) : Prop where
  base_neg : x.toRat < 0
  exponent_ne_zero : y.toRat ≠ 0
  exponent_den : y.toRat.den = 1
  magnitude : powerOfPositive { x with negative := false } y = none

/-- For a base that is not positive the domain is respected, and inside it only an
overflow takes a power away. -/
theorem power?_eq_none_iff (hx : x.toRat ≤ 0) :
    power? x y = none ↔ OutsideDomain x.toRat y.toRat ∨ Overflows x y := by
  rw [power?]
  by_cases hzero : y.toRat = 0
  · rw [if_pos hzero]
    constructor
    · nofun
    · rintro ((⟨_, hlt⟩ | ⟨_, hden⟩) | hover)
      · exact absurd hzero hlt.ne
      · rw [hzero] at hden
        exact absurd rfl hden
      · exact absurd hzero hover.exponent_ne_zero
  rw [if_neg hzero]
  rcases hx.eq_or_lt with hbase | hbase
  · rw [if_pos hbase]
    split
    · rename_i hlt
      exact iff_of_true rfl (.inl (.inl ⟨hbase, hlt⟩))
    · rename_i hlt
      constructor
      · nofun
      · rintro ((⟨_, hneg⟩ | ⟨hneg, _⟩) | hover)
        · exact absurd hneg hlt
        · exact absurd hbase hneg.ne
        · exact absurd hbase hover.base_neg.ne
  · rw [if_neg hbase.ne, if_neg hbase.not_gt]
    by_cases hden : y.toRat.den = 1
    · rw [if_pos hden, Option.map_eq_none_iff]
      constructor
      · intro hnone
        exact .inr ⟨hbase, hzero, hden, hnone⟩
      · rintro ((⟨heq, _⟩ | ⟨_, hfraction⟩) | hover)
        · exact absurd heq hbase.ne
        · exact absurd hden hfraction
        · exact hover.magnitude
    · rw [if_neg hden]
      exact iff_of_true rfl (.inl (.inr ⟨hbase, hden⟩))

end Binary64

section Rounded
variable {base exponent : Rat}

theorem exists_error_approximatePower_iff :
    (∃ cause, approximatePower base exponent = .error cause) ↔
      ∀ x y, nearest? base = some x → nearest? exponent = some y → power? x y = none := by
  rw [approximatePower]
  cases nearest? base with
  | none => simp
  | some x =>
    cases nearest? exponent with
    | none => simp
    | some y => cases hpower : power? x y <;> simp [hpower]

theorem exactExponent?_eq_some {n : Int} (h : exactExponent? base exponent = some n) :
    exponent.den = 1 ∧ exponent.num = n := by
  rw [exactExponent?] at h
  split at h
  · rename_i hexact
    exact ⟨hexact.1, Option.some.inj h⟩
  · cases h

theorem toRat_round_neg_of_den (hden : exponent.den = 1) (hneg : exponent < 0) :
    (Binary64.round exponent).toRat < 0 := by
  have hinteger : exponent = exponent.num := (Rat.den_eq_one_iff exponent).mp hden |>.symm
  have hnum : exponent.num ≤ -1 := by
    have hlt := Rat.num_neg.mpr hneg
    omega
  have hone : exponent ≤ -1 := by
    rw [hinteger]
    exact_mod_cast hnum
  have hunit : (2 : Rat) ^ (minExponent - 1) < 1 := zpow_lt_one_of_neg₀ one_lt_two (by decide)
  rw [toRat_round_neg_iff]
  linarith

/-- Outside the domain the exact powers and the binary64 power refuse alike, so that
only the rounded numbers count. -/
theorem exists_error_power_iff (h : OutsideDomain base exponent) :
    (∃ cause, power base exponent = .error cause) ↔
      ∀ x y, nearest? base = some x → nearest? exponent = some y →
        OutsideDomain x.toRat y.toRat ∨ Overflows x y := by
  have hnonpos : base ≤ 0 := by
    rcases h with ⟨hzero, _⟩ | ⟨hneg, _⟩
    · exact hzero.le
    · exact hneg.le
  have hrounded : ∀ x y, nearest? base = some x →
      (OutsideDomain x.toRat y.toRat ∨ Overflows x y ↔ power? x y = none) := by
    intro x y hx
    rw [eq_round_of_nearest? hx]
    exact (power?_eq_none_iff (toRat_round_nonpos hnonpos)).symm
  cases hexact : exactExponent? base exponent with
  | none =>
    rw [power, hexact, exists_error_approximatePower_iff]
    constructor
    · intro hpower x y hx hy
      exact (hrounded x y hx).mpr (hpower x y hx hy)
    · intro hdomain x y hx hy
      exact (hrounded x y hx).mp (hdomain x y hx hy)
  | some n =>
    obtain ⟨hden, rfl⟩ := exactExponent?_eq_some hexact
    rcases h with ⟨rfl, hneg⟩ | ⟨_, hfraction⟩
    · rw [power, hexact]
      refine iff_of_true ⟨_, if_pos ⟨rfl, Rat.num_neg.mpr hneg⟩⟩ ?_
      intro x y hx hy
      rw [eq_round_of_nearest? hx, eq_round_of_nearest? hy, toRat_round_zero]
      exact .inl (.inl ⟨rfl, toRat_round_neg_of_den hden hneg⟩)
    · exact absurd hden hfraction

theorem exists_error_power_zero_iff (hneg : exponent < 0) :
    (∃ cause, power 0 exponent = .error cause) ↔ exponent < -2 ^ (minExponent - 1) := by
  rw [exists_error_power_iff (.inl ⟨rfl, hneg⟩)]
  have hunit : (0 : Rat) ≤ 2 ^ (minExponent - 1) := zpow_nonneg zero_le_two _
  constructor
  · intro hdomain
    by_contra hsmall
    have hnearest : nearest? exponent = some (Binary64.round exponent) := by
      apply nearest?_of_abs_le
      rw [abs_of_neg hneg]
      linarith
    have hbase : nearest? 0 = some (Binary64.round 0) := nearest?_of_abs_le (by rwa [abs_zero])
    rcases hdomain _ _ hbase hnearest with (⟨_, hlt⟩ | ⟨hlt, _⟩) | hover
    · exact hsmall (toRat_round_neg_iff.mp hlt)
    · exact absurd toRat_round_zero hlt.ne
    · exact absurd toRat_round_zero hover.base_neg.ne
  · intro hlarge x y hx hy
    rw [eq_round_of_nearest? hx, eq_round_of_nearest? hy, toRat_round_zero]
    exact .inl (.inl ⟨rfl, toRat_round_neg_iff.mpr hlarge⟩)

/-- A negative base that does not round to zero has no power for an exponent that keeps
away from all integers by more than its rounding can move it. -/
theorem exists_error_power_of_fraction (hbase : base < -2 ^ (minExponent - 1))
    (hexponent : ∀ n : Int, max (|exponent| / 2 ^ 53) (2 ^ (minExponent - 1)) < |exponent - n|) :
    ∃ cause, power base exponent = .error cause := by
  have hneg : (Binary64.round base).toRat < 0 := toRat_round_neg_iff.mpr hbase
  have hunit : (0 : Rat) < 2 ^ (minExponent - 1) := zpow_pos two_pos _
  have hfraction : ∀ r : Rat, |r - exponent| ≤ max (|exponent| / 2 ^ 53) (2 ^ (minExponent - 1)) →
      r.den ≠ 1 := by
    intro r hnear hden
    have hinteger : (r.num : Rat) = r := (Rat.den_eq_one_iff r).mp hden
    have hfar := hexponent r.num
    rw [hinteger, abs_sub_comm] at hfar
    exact hnear.not_gt hfar
  have hself : exponent.den ≠ 1 := by
    apply hfraction exponent
    rw [sub_self, abs_zero]
    exact hunit.le.trans (le_max_right _ _)
  rw [exists_error_power_iff (.inr ⟨by linarith, hself⟩)]
  intro x y hx hy
  rw [eq_round_of_nearest? hx, eq_round_of_nearest? hy]
  exact .inl (.inr ⟨hneg, hfraction _ (abs_toRat_round_sub_le exponent)⟩)

end Rounded

/-- Outside the domain a power is refused exactly if base and exponent, once rounded, are
outside it too or beyond the range. For zero this is so up to the exponents that round to
zero, and for a negative base, unless it rounds to zero, up to those exponents that may
round to an integer. -/
theorem power_outside_domain {base exponent : Rat} (h : OutsideDomain base exponent) :
    ((∃ cause, power base exponent = .error cause) ↔
        ∀ x y, nearest? base = some x → nearest? exponent = some y →
          OutsideDomain x.toRat y.toRat ∨ Overflows x y) ∧
      (base = 0 → ((∃ cause, power base exponent = .error cause) ↔
        exponent < -2 ^ (minExponent - 1))) ∧
      (base < -2 ^ (minExponent - 1) →
        (∀ n : Int, max (|exponent| / 2 ^ 53) (2 ^ (minExponent - 1)) < |exponent - n|) →
        ∃ cause, power base exponent = .error cause) := by
  refine ⟨exists_error_power_iff h, ?_, exists_error_power_of_fraction⟩
  rintro rfl
  rcases h with ⟨_, hneg⟩ | ⟨hneg, _⟩
  · exact exists_error_power_zero_iff hneg
  · exact absurd hneg (lt_irrefl 0)

theorem power_outside_domain_of_halves :
    (OutsideDomain 0 (-1 / 2) ∧ ∃ cause, power 0 (-1 / 2) = .error cause) ∧
      OutsideDomain (-8) (1 / 2) ∧ ∃ cause, power (-8) (1 / 2) = .error cause := by
  have hunit : (2 : Rat) ^ (minExponent - 1) < 1 / 2 := by
    have hlt : (2 : Rat) ^ (minExponent - 1) < 2 ^ (-1 : Int) :=
      zpow_lt_zpow_right₀ one_lt_two (by decide)
    rwa [zpow_neg_one, ← one_div] at hlt
  have hzero : OutsideDomain 0 (-1 / 2) := .inl ⟨rfl, by norm_num⟩
  have hnegative : OutsideDomain (-8) (1 / 2) := .inr ⟨by norm_num, by decide +kernel⟩
  refine ⟨⟨hzero, ((power_outside_domain hzero).2.1 rfl).mpr (by linarith)⟩, hnegative, ?_⟩
  apply (power_outside_domain hnegative).2.2 (by linarith)
  intro n
  have hfar : 1 / 2 ≤ |(1 / 2 : Rat) - n| := by
    rcases le_or_gt n 0 with hn | hn
    · have hcast : (n : Rat) ≤ 0 := by exact_mod_cast hn
      exact (by linarith : (1 / 2 : Rat) ≤ 1 / 2 - n).trans (le_abs_self _)
    · have hcast : (1 : Rat) ≤ n := by exact_mod_cast hn
      exact (by linarith : (1 / 2 : Rat) ≤ -(1 / 2 - n)).trans (neg_le_abs _)
  refine (max_lt ?_ hunit).trans_le hfar
  rw [abs_of_pos (by norm_num)]
  norm_num

/-- The rounding of either number can lead back into the domain: a small exponent becomes
zero, a fraction an integer, and a small base zero. -/
theorem power_answers_outside_domain :
    (OutsideDomain 0 (-1 / 2 ^ 1080) ∧ power 0 (-1 / 2 ^ 1080) = .ok 1) ∧
      (OutsideDomain (-1) (1 + 1 / 2 ^ 60) ∧ power (-1) (1 + 1 / 2 ^ 60) = .ok (-1)) ∧
      OutsideDomain (-1 / 2 ^ 1100) (1 / 2) ∧ power (-1 / 2 ^ 1100) (1 / 2) = .ok 0 := by
  refine ⟨⟨.inl ⟨rfl, ?_⟩, ?_⟩, ⟨.inr ⟨?_, ?_⟩, ?_⟩, .inr ⟨?_, ?_⟩, ?_⟩ <;> decide +kernel

end Reckoner
