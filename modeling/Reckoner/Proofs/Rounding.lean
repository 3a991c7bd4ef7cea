import Mathlib.Algebra.Order.Field.Basic
import Mathlib.Algebra.Order.Field.Power
import Mathlib.Data.Rat.Lemmas
import Mathlib.Tactic.FieldSimp
import Mathlib.Tactic.Linarith
import Reckoner.Number.Binary64

/-! # Rounding to binary64

What the rounding to a binary64 number keeps of a rational number: its sign, except
that a number of at most half the least unit becomes zero. Above the least unit the
significand has 53 bits and so is never zero. -/

namespace Reckoner.Binary64

section Sign
variable {x : Binary64}

theorem toRat_eq_zero_iff : x.toRat = 0 ↔ x.mantissa = 0 := by
  constructor
  · intro h
    have hpow : (2 : Rat) ^ x.exponent ≠ 0 := zpow_ne_zero x.exponent two_ne_zero
    have hmagnitude : (x.mantissa : Rat) * 2 ^ x.exponent = 0 := by
      cases hsign : x.negative <;> simpa [toRat, hsign] using h
    have hzero := (mul_eq_zero.mp hmagnitude).resolve_right hpow
    exact_mod_cast hzero
  · exact toRat_of_mantissa_eq_zero

theorem magnitude_nonneg (x : Binary64) : 0 ≤ (x.mantissa : Rat) * 2 ^ x.exponent :=
  mul_nonneg (Nat.cast_nonneg x.mantissa) (zpow_nonneg zero_le_two x.exponent)

theorem toRat_nonpos (h : x.negative = true) : x.toRat ≤ 0 := by
  rw [toRat, if_pos h]
  exact neg_nonpos_of_nonneg x.magnitude_nonneg

theorem toRat_nonneg (h : x.negative = false) : 0 ≤ x.toRat := by
  rw [toRat, if_neg (by simp [h])]
  exact x.magnitude_nonneg

end Sign

section Units
variable {n d : Nat}

theorem inUnits_pos (hd : 0 < d) (exponent : Int) : 0 < (inUnits n d exponent).2 := by
  have hpow := Nat.two_pow_pos exponent.toNat
  simpa [inUnits, Nat.shiftLeft_eq] using Nat.mul_pos hd hpow

theorem inUnits_ratio (n d : Nat) (exponent : Int) :
    ((inUnits n d exponent).1 : Rat) / (inUnits n d exponent).2 = n / d / 2 ^ exponent := by
  simp only [inUnits, Nat.shiftLeft_eq, Nat.cast_mul, Nat.cast_pow, Nat.cast_ofNat]
  obtain ⟨k, rfl | rfl⟩ := exponent.eq_nat_or_neg
  · simp [div_div]
  · simp [mul_div_right_comm]

theorem roundHalfEven_eq_zero_iff {a b : Nat} (hb : 0 < b) :
    roundHalfEven a b = 0 ↔ 2 * a ≤ b := by
  have hdiv := Nat.div_add_mod a b
  have hmod := Nat.mod_lt a hb
  rw [roundHalfEven]
  rcases Nat.eq_zero_or_pos (a / b) with hzero | hpos
  · rw [hzero] at hdiv ⊢
    split <;> omega
  · have hle : b ≤ b * (a / b) := Nat.le_mul_of_pos_right b hpos
    split <;> omega

theorem roundHalfEven_mul (m : Nat) {b : Nat} (hb : 0 < b) : roundHalfEven (m * b) b = m := by
  rw [roundHalfEven, Nat.mul_div_cancel m hb, Nat.mul_mod_left]
  exact if_pos (.inl hb)

theorem roundHalfEven_error {a b : Nat} (hb : 0 < b) :
    |(roundHalfEven a b : Rat) - a / b| ≤ 1 / 2 := by
  have hdiv := Nat.div_add_mod a b
  have hmod := Nat.mod_lt a hb
  have hnear : 2 * (roundHalfEven a b * b) ≤ 2 * a + b ∧
      2 * a ≤ 2 * (roundHalfEven a b * b) + b := by
    rw [roundHalfEven]
    split
    · rw [Nat.mul_comm (a / b)]
      omega
    · rw [Nat.add_mul, Nat.mul_comm (a / b)]
      omega
  have hpos : (0 : Rat) < b := by exact_mod_cast hb
  have habove : (2 : Rat) * (roundHalfEven a b * b) ≤ 2 * a + b := by exact_mod_cast hnear.1
  have hbelow : (2 : Rat) * a ≤ 2 * (roundHalfEven a b * b) + b := by exact_mod_cast hnear.2
  have hcancel : (a : Rat) / b * b = a := div_mul_cancel₀ _ hpos.ne'
  rw [abs_le]
  constructor
  · apply le_of_mul_le_mul_right _ hpos
    linarith
  · apply le_of_mul_le_mul_right _ hpos
    linarith

/-- A quotient is more than its terms' lengths alone tell. -/
theorem zpow_log2_lt (hn : n ≠ 0) (hd : d ≠ 0) :
    (2 : Rat) ^ ((n.log2 : Int) - d.log2 - 1) < n / d := by
  have hnum : (2 : Rat) ^ n.log2 ≤ n := by exact_mod_cast Nat.log2_self_le hn
  have hden : (d : Rat) < 2 ^ (d.log2 + 1) := by exact_mod_cast Nat.lt_log2_self
  have hdpos : (0 : Rat) < d := by exact_mod_cast Nat.pos_of_ne_zero hd
  rw [lt_div_iff₀ hdpos]
  calc (2 : Rat) ^ ((n.log2 : Int) - d.log2 - 1) * d
      < 2 ^ ((n.log2 : Int) - d.log2 - 1) * 2 ^ (d.log2 + 1) := by gcongr
    _ = 2 ^ n.log2 := by
        rw [← zpow_natCast, ← zpow_natCast, ← zpow_add₀ two_ne_zero]
        congr 1
        omega
    _ ≤ n := hnum

theorem lt_zpow_log2 (hd : d ≠ 0) : (n : Rat) / d < 2 ^ ((n.log2 : Int) - d.log2 + 1) := by
  have hnum : (n : Rat) < 2 ^ (n.log2 + 1) := by exact_mod_cast Nat.lt_log2_self
  have hden : (2 : Rat) ^ d.log2 ≤ d := by exact_mod_cast Nat.log2_self_le hd
  have hdpos : (0 : Rat) < d := by exact_mod_cast Nat.pos_of_ne_zero hd
  rw [div_lt_iff₀ hdpos]
  calc (n : Rat) < 2 ^ (n.log2 + 1) := hnum
    _ = 2 ^ ((n.log2 : Int) - d.log2 + 1) * 2 ^ d.log2 := by
        rw [← zpow_natCast, ← zpow_natCast, ← zpow_add₀ two_ne_zero]
        congr 1
        omega
    _ ≤ 2 ^ ((n.log2 : Int) - d.log2 + 1) * d := by gcongr

theorem minExponent_le_unitExponent (n d : Nat) : minExponent ≤ unitExponent n d :=
  le_max_left _ _

theorem unitExponent_eq {low : Int} (hlow : (n.log2 : Int) - d.log2 - 53 = low) :
    unitExponent n d = max minExponent
      (if (inUnits n d low).1 / (inUnits n d low).2 < 1 <<< 53 then low else low + 1) := by
  rw [unitExponent, hlow]

/-- Above the least unit a number has at least 53 bits. -/
theorem zpow_unitExponent_le (hn : n ≠ 0) (hd : d ≠ 0) (h : minExponent < unitExponent n d) :
    (2 : Rat) ^ (unitExponent n d + 52) ≤ n / d := by
  have hlow := zpow_log2_lt hn hd
  generalize hexponent : (n.log2 : Int) - d.log2 - 53 = low
  have hdef := unitExponent_eq hexponent
  rw [hdef] at h ⊢
  split at h
  · rename_i hbits
    rw [if_pos hbits, max_eq_right (by omega)]
    have hsame : low + 52 = (n.log2 : Int) - d.log2 - 1 := by omega
    rw [hsame]
    exact hlow.le
  · rename_i hbits
    rw [if_neg hbits, max_eq_right (by omega)]
    have hpos : 0 < (inUnits n d low).2 := inUnits_pos (Nat.pos_of_ne_zero hd) low
    have hmany := (Nat.le_div_iff_mul_le hpos).mp (Nat.le_of_not_lt hbits)
    have hratio : (2 : Rat) ^ 53 ≤ n / d / 2 ^ low := by
      rw [← inUnits_ratio, le_div_iff₀ (by exact_mod_cast hpos)]
      exact_mod_cast hmany
    rw [le_div_iff₀ (zpow_pos two_pos low), ← zpow_natCast, ← zpow_add₀ two_ne_zero] at hratio
    have hsame : low + 1 + 52 = ((53 : Nat) : Int) + low := by omega
    rwa [hsame]

theorem lt_zpow_unitExponent (n : Nat) (hd : d ≠ 0) :
    (n : Rat) / d < 2 ^ (unitExponent n d + 53) := by
  generalize hexponent : (n.log2 : Int) - d.log2 - 53 = low
  have hlog := lt_zpow_log2 (n := n) hd
  have hsame : (n.log2 : Int) - d.log2 + 1 = low + 54 := by omega
  rw [hsame] at hlog
  have hgrow : ∀ {e : Int}, e ≤ unitExponent n d →
      (2 : Rat) ^ (e + 53) ≤ 2 ^ (unitExponent n d + 53) :=
    fun h => zpow_le_zpow_right₀ one_le_two (by omega)
  have hdef := unitExponent_eq hexponent
  split at hdef
  · rename_i hbits
    have hpos : 0 < (inUnits n d low).2 := inUnits_pos (Nat.pos_of_ne_zero hd) low
    have hfew := (Nat.div_lt_iff_lt_mul hpos).mp hbits
    have hratio : (n : Rat) / d / 2 ^ low < 2 ^ 53 := by
      rw [← inUnits_ratio, div_lt_iff₀ (by exact_mod_cast hpos)]
      exact_mod_cast hfew
    rw [div_lt_iff₀ (zpow_pos two_pos low), ← zpow_natCast, ← zpow_add₀ two_ne_zero,
      add_comm] at hratio
    exact hratio.trans_le (hgrow (hdef ▸ le_max_right _ _))
  · have hnext : low + 54 = low + 1 + 53 := by omega
    rw [hnext] at hlog
    exact hlog.trans_le (hgrow (hdef ▸ le_max_right _ _))

end Units

section Round
variable {r : Rat}

theorem abs_eq_ratio (r : Rat) : |r| = (r.num.natAbs : Rat) / r.den := by
  rw [Nat.cast_natAbs, Int.cast_abs]
  conv_lhs => rw [← Rat.num_div_den r, abs_div, Nat.abs_cast]

theorem round_exponent (r : Rat) :
    (round r).exponent = if r.num = 0 then minExponent else unitExponent r.num.natAbs r.den :=
  rfl

theorem minExponent_le_round (r : Rat) : minExponent ≤ (round r).exponent := by
  rw [round_exponent]
  split
  · exact le_rfl
  · exact minExponent_le_unitExponent _ _

theorem zpow_round_exponent_le (h : minExponent < (round r).exponent) :
    (2 : Rat) ^ ((round r).exponent + 52) ≤ |r| := by
  rw [abs_eq_ratio]
  rw [round_exponent] at h ⊢
  split at h
  · omega
  · rename_i hnum
    rw [if_neg hnum]
    exact zpow_unitExponent_le (Int.natAbs_ne_zero.mpr hnum) r.den_ne_zero h

theorem abs_lt_zpow_round_exponent (r : Rat) : |r| < 2 ^ ((round r).exponent + 53) := by
  rw [round_exponent]
  split
  · rename_i hnum
    rw [Rat.num_eq_zero.mp hnum, abs_zero]
    exact zpow_pos two_pos _
  · rw [abs_eq_ratio]
    exact lt_zpow_unitExponent r.num.natAbs r.den_ne_zero

/-- The magnitude of a number, counted in the unit to which it is rounded, is a quotient
that the mantissa is nearest to. -/
theorem exists_round_units (r : Rat) :
    ∃ a b : Nat, 0 < b ∧ |r| = a / b * 2 ^ (round r).exponent ∧
      (round r).mantissa = roundHalfEven a b := by
  generalize hexponent : (round r).exponent = exponent
  obtain ⟨a, b, hunits⟩ : ∃ a b, inUnits r.num.natAbs r.den exponent = (a, b) := ⟨_, _, rfl⟩
  have hunit : (2 : Rat) ^ exponent ≠ 0 := zpow_ne_zero exponent two_ne_zero
  have hpos := inUnits_pos (n := r.num.natAbs) r.den_pos exponent
  have hratio := inUnits_ratio r.num.natAbs r.den exponent
  rw [hunits] at hpos hratio
  refine ⟨a, b, hpos, ?_, ?_⟩
  · rw [hratio, abs_eq_ratio, div_mul_cancel₀ _ hunit]
  · have hround : (round r).mantissa =
        roundHalfEven (inUnits r.num.natAbs r.den (round r).exponent).1
          (inUnits r.num.natAbs r.den (round r).exponent).2 := rfl
    rw [hround, hexponent, hunits]

theorem round_mantissa_eq_zero_iff_unit :
    (round r).mantissa = 0 ↔ |r| ≤ 2 ^ ((round r).exponent - 1) := by
  obtain ⟨a, b, hpos, habs, hmantissa⟩ := exists_round_units r
  have hunit : (0 : Rat) < 2 ^ (round r).exponent := zpow_pos two_pos _
  have hb : (0 : Rat) < b := by exact_mod_cast hpos
  rw [hmantissa, roundHalfEven_eq_zero_iff hpos, habs, zpow_sub_one₀ two_ne_zero,
    mul_comm (2 ^ (round r).exponent : Rat), mul_le_mul_iff_left₀ hunit, div_le_iff₀ hb,
    ← div_eq_inv_mul, le_div_iff₀ two_pos, mul_comm]
  exact_mod_cast Iff.rfl

theorem round_exponent_of_mantissa (h : (round r).mantissa = 0) :
    (round r).exponent = minExponent := by
  rcases (minExponent_le_round r).eq_or_lt with heq | hlt
  · exact heq.symm
  · have hsmall := round_mantissa_eq_zero_iff_unit.mp h
    have hmany := (zpow_round_exponent_le hlt).trans hsmall
    rw [zpow_le_zpow_iff_right₀ one_lt_two] at hmany
    omega

theorem round_mantissa_eq_zero_iff :
    (round r).mantissa = 0 ↔ |r| ≤ 2 ^ (minExponent - 1) := by
  constructor
  · intro h
    rw [← round_exponent_of_mantissa h]
    exact round_mantissa_eq_zero_iff_unit.mp h
  · intro h
    apply round_mantissa_eq_zero_iff_unit.mpr
    refine h.trans (zpow_le_zpow_right₀ one_le_two ?_)
    have hmin := minExponent_le_round r
    omega

theorem toRat_round_neg_iff : (round r).toRat < 0 ↔ r < -2 ^ (minExponent - 1) := by
  have hzero := (toRat_eq_zero_iff (x := round r)).trans round_mantissa_eq_zero_iff
  have hunit : (0 : Rat) < 2 ^ (minExponent - 1) := zpow_pos two_pos _
  have hsign : (round r).negative = decide (r < 0) := rfl
  constructor
  · intro h
    have hneg : r < 0 := by
      by_contra hr
      rw [decide_eq_false hr] at hsign
      exact absurd h (toRat_nonneg hsign).not_gt
    have hlarge := not_le.mp fun hsmall => h.ne (hzero.mpr hsmall)
    rw [abs_of_neg hneg] at hlarge
    linarith
  · intro h
    have hneg : r < 0 := by linarith
    rw [decide_eq_true hneg] at hsign
    refine (toRat_nonpos hsign).lt_of_ne fun heq => ?_
    have hsmall := hzero.mp heq
    rw [abs_of_neg hneg] at hsmall
    linarith

theorem toRat_round_zero : (round 0).toRat = 0 := by
  rw [toRat_eq_zero_iff, round_mantissa_eq_zero_iff, abs_zero]
  exact zpow_nonneg zero_le_two _

theorem toRat_round_nonpos (h : r ≤ 0) : (round r).toRat ≤ 0 := by
  rcases h.eq_or_lt with rfl | hneg
  · exact toRat_round_zero.le
  · exact toRat_nonpos (decide_eq_true hneg)

/-- The sign stays, so that only the magnitude is rounded. -/
theorem abs_toRat_round_sub (r : Rat) :
    |(round r).toRat - r| = |((round r).mantissa : Rat) * 2 ^ (round r).exponent - (|r|)| := by
  have hsign : (round r).negative = decide (r < 0) := rfl
  by_cases hneg : r < 0
  · rw [toRat, hsign, decide_eq_true hneg, if_pos rfl, abs_of_neg hneg, ← abs_neg,
      neg_sub, sub_neg_eq_add, sub_neg_eq_add, add_comm]
  · rw [toRat, hsign, decide_eq_false hneg, if_neg (by simp), abs_of_nonneg (not_lt.mp hneg)]

theorem abs_toRat_round_sub_le_unit (r : Rat) :
    |(round r).toRat - r| ≤ 2 ^ ((round r).exponent - 1) := by
  obtain ⟨a, b, hpos, habs, hmantissa⟩ := exists_round_units r
  have hunit : (0 : Rat) < 2 ^ (round r).exponent := zpow_pos two_pos _
  rw [abs_toRat_round_sub, habs, ← sub_mul, abs_mul, abs_of_pos hunit, hmantissa,
    zpow_sub_one₀ two_ne_zero, mul_comm (2 ^ (round r).exponent : Rat)]
  have herror := roundHalfEven_error (a := a) hpos
  rw [one_div] at herror
  exact mul_le_mul_of_nonneg_right herror hunit.le

/-- The relative error of a rounding is at most half a unit of 53 bits, unless the number
is so small that the least unit bounds its error. -/
theorem abs_toRat_round_sub_le (r : Rat) :
    |(round r).toRat - r| ≤ max (|r| / 2 ^ 53) (2 ^ (minExponent - 1)) := by
  have hunit := abs_toRat_round_sub_le_unit r
  rcases (minExponent_le_round r).eq_or_lt with heq | hlt
  · rw [← heq] at hunit
    exact hunit.trans (le_max_right _ _)
  · refine (hunit.trans ?_).trans (le_max_left _ _)
    rw [le_div_iff₀ (pow_pos two_pos 53), ← zpow_natCast, ← zpow_add₀ two_ne_zero]
    have hmany := zpow_round_exponent_le hlt
    have hsame : (round r).exponent - 1 + ((53 : Nat) : Int) = (round r).exponent + 52 := by omega
    rwa [hsame]

theorem toRat_round_of_units {m : Nat} (h : |r| = m * 2 ^ (round r).exponent) :
    (round r).toRat = r := by
  obtain ⟨a, b, hpos, habs, hmantissa⟩ := exists_round_units r
  have hunit : (2 : Rat) ^ (round r).exponent ≠ 0 := zpow_ne_zero _ two_ne_zero
  have hb : (b : Rat) ≠ 0 := by exact_mod_cast hpos.ne'
  have hquotient : (a : Rat) / b = m := mul_right_cancel₀ hunit (habs.symm.trans h)
  have hmultiple : a = m * b := by
    rw [div_eq_iff hb] at hquotient
    exact_mod_cast hquotient
  rw [hmultiple, roundHalfEven_mul m hpos] at hmantissa
  rw [← sub_eq_zero, ← abs_eq_zero, abs_toRat_round_sub, hmantissa, h, sub_self, abs_zero]

end Round

section Nearest
variable {r : Rat} {x : Binary64}

theorem eq_round_of_nearest? (h : nearest? r = some x) : x = round r := by
  rw [nearest?] at h
  split at h
  · cases h
  · exact (Option.some.inj h).symm

theorem nearest?_of_abs_le (h : |r| ≤ 2 ^ (minExponent - 1)) : nearest? r = some (round r) := by
  have hzero := round_mantissa_eq_zero_iff.mpr h
  rw [nearest?, if_neg]
  rw [round_exponent_of_mantissa hzero, hzero]
  decide

end Nearest

end Reckoner.Binary64
