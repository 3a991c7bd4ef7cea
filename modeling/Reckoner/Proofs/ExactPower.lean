import Mathlib.Data.Rat.Lemmas
import Mathlib.Tactic.NormNum
import Reckoner.Number.Power

/-! # Exact powers

The size bound is put to the base and the exponent, before anything is multiplied. It
bounds the power too: the terms of a power are the powers of the terms, exchanged if the
exponent is negative, and a power of a number with `b` bits has at most `b` bits for each
factor. -/

namespace Reckoner

theorem bitLength_le_iff {n k : Nat} : bitLength n ≤ k ↔ n < 2 ^ k := by
  by_cases hn : n = 0
  · simp [bitLength, hn]
  · rw [bitLength, if_neg hn, Nat.succ_le_iff, Nat.log2_lt hn]

theorem bitLength_pow_le (n k : Nat) : bitLength (n ^ k) ≤ max 1 (bitLength n * k) := by
  rw [bitLength_le_iff]
  rcases k.eq_zero_or_pos with rfl | hk
  · simp
  · have hn : n < 2 ^ bitLength n := bitLength_le_iff.mp le_rfl
    calc n ^ k < (2 ^ bitLength n) ^ k := Nat.pow_lt_pow_left hn hk.ne'
      _ = 2 ^ (bitLength n * k) := (pow_mul 2 (bitLength n) k).symm
      _ ≤ 2 ^ max 1 (bitLength n * k) := Nat.pow_le_pow_right two_pos (le_max_right _ _)

section Size
variable (r : Rat)

theorem one_le_bitSize : 1 ≤ bitSize r := by
  have hden : 1 ≤ bitLength r.den := by
    rw [bitLength, if_neg r.den_ne_zero]
    exact Nat.le_add_left 1 _
  exact hden.trans (le_max_right _ _)

theorem bitSize_inv : bitSize r⁻¹ = bitSize r := by
  by_cases hr : r = 0
  · rw [hr, inv_zero]
  · have hnum : r.num ≠ 0 := Rat.num_ne_zero.mpr hr
    rw [bitSize, bitSize, Rat.num_inv, Rat.den_inv, if_neg hnum, Int.natAbs_mul,
      Int.natAbs_sign_of_ne_zero hnum, one_mul, Int.natAbs_natCast, max_comm]

theorem bitSize_pow_le (k : Nat) : bitSize (r ^ k) ≤ max 1 (bitSize r * k) := by
  have hterm : ∀ n, bitLength n ≤ bitSize r → bitLength (n ^ k) ≤ max 1 (bitSize r * k) := by
    intro n hn
    exact (bitLength_pow_le n k).trans (max_le_max_left 1 (Nat.mul_le_mul_right k hn))
  rw [bitSize, Rat.num_pow, Rat.den_pow, Int.natAbs_pow]
  exact max_le (hterm _ (le_max_left _ _)) (hterm _ (le_max_right _ _))

theorem bitSize_zpow_le (n : Int) : bitSize (r ^ n) ≤ max 1 (bitSize r * n.natAbs) := by
  obtain ⟨k, rfl | rfl⟩ := n.eq_nat_or_neg
  · rw [zpow_natCast, Int.natAbs_natCast]
    exact bitSize_pow_le r k
  · rw [zpow_neg, zpow_natCast, bitSize_inv, Int.natAbs_neg, Int.natAbs_natCast]
    exact bitSize_pow_le r k

end Size

section Exact
variable {base : Rat} {n : Int}

theorem natAbs_le_of_bitSize_mul (h : bitSize base * n.natAbs ≤ maxExactBits) :
    n.natAbs ≤ maxExactBits :=
  (Nat.le_mul_of_pos_left n.natAbs (one_le_bitSize base)).trans h

theorem bitSize_zpow_le_maxExactBits (h : bitSize base * n.natAbs ≤ maxExactBits) :
    bitSize (base ^ n) ≤ maxExactBits :=
  (bitSize_zpow_le base n).trans (max_le (by decide) h)

theorem power_eq_of_bitSize_mul (h : bitSize base * n.natAbs ≤ maxExactBits) :
    power base n =
      if base = 0 ∧ n < 0 then .error .zeroToNegativePower else .ok (base ^ n) := by
  have hexact : exactExponent? base n = some n := by
    rw [exactExponent?, Rat.den_intCast, Rat.num_intCast, if_pos ⟨rfl, h⟩]
  rw [power, hexact]

theorem power_eq_of_lt_bitSize_mul (h : maxExactBits < bitSize base * n.natAbs) :
    power base n = approximatePower base n := by
  have hexact : exactExponent? base n = none := by
    rw [exactExponent?, Rat.den_intCast, Rat.num_intCast]
    exact if_neg fun hbound => hbound.2.not_gt h
  rw [power, hexact]

/-- A negative exponent exchanges the terms; the sign stays with the numerator. -/
theorem terms_zpow_neg (k : Nat) (h : base ≠ 0 ∨ k = 0) :
    (base ^ (-k : Int)).num = (base.num.sign * base.den) ^ k ∧
      (base ^ (-k : Int)).den = base.num.natAbs ^ k := by
  rw [zpow_neg, zpow_natCast, ← inv_pow, Rat.num_pow, Rat.den_pow, Rat.num_inv, Rat.den_inv]
  rcases h with hbase | rfl
  · rw [if_neg (Rat.num_ne_zero.mpr hbase)]
    exact ⟨rfl, rfl⟩
  · exact ⟨rfl, by rw [pow_zero, pow_zero]⟩

end Exact

/-- Within the size bound, where the exponent fits thirty-two bits, zero has no power with
a negative exponent. Any other power is the rational one, in lowest terms, and neither
term has more bits than the bound. -/
theorem power_exact {base : Rat} {n : Int} (h : bitSize base * n.natAbs ≤ maxExactBits) :
    (-2 ^ 31 ≤ n ∧ n < 2 ^ 31) ∧
      (base = 0 ∧ n < 0 → power base n = .error .zeroToNegativePower) ∧
      (base ≠ 0 ∨ 0 ≤ n →
        power base n = .ok (base ^ n) ∧
        (∀ k : Nat, n = k → (base ^ n).num = base.num ^ k ∧ (base ^ n).den = base.den ^ k) ∧
        (∀ k : Nat, n = -k →
          (base ^ n).num = (base.num.sign * base.den) ^ k ∧
            (base ^ n).den = base.num.natAbs ^ k) ∧
        bitLength (base ^ n).num.natAbs ≤ maxExactBits ∧
        bitLength (base ^ n).den ≤ maxExactBits) := by
  have hpower := power_eq_of_bitSize_mul h
  have hsize := bitSize_zpow_le_maxExactBits h
  have hlimit : n.natAbs ≤ 2 ^ 20 := natAbs_le_of_bitSize_mul h
  refine ⟨by omega, ?_, ?_⟩
  · intro hzero
    rw [hpower, if_pos hzero]
  · intro hdomain
    have hmeant : ¬(base = 0 ∧ n < 0) := by
      rintro ⟨hzero, hneg⟩
      exact hdomain.elim (absurd hzero) hneg.not_ge
    refine ⟨by rw [hpower, if_neg hmeant], ?_, ?_, (le_max_left _ _).trans hsize,
      (le_max_right _ _).trans hsize⟩
    · rintro k rfl
      rw [zpow_natCast, Rat.num_pow, Rat.den_pow]
      exact ⟨rfl, rfl⟩
    · rintro k rfl
      exact terms_zpow_neg k (hdomain.imp_right fun hk => by omega)

theorem power_exact_negative :
    bitSize (-2 / 3) * (-3 : Int).natAbs ≤ maxExactBits ∧
      power (-2 / 3) (-3 : Int) = .ok ((-2 / 3) ^ (-3 : Int)) ∧
      ((-2 / 3 : Rat) ^ (-3 : Int)).num = -27 ∧ ((-2 / 3 : Rat) ^ (-3 : Int)).den = 8 := by
  have hsize : bitSize (-2 / 3) * (-3 : Int).natAbs ≤ maxExactBits := by decide +kernel
  obtain ⟨hpower, _, hterms, _⟩ := (power_exact hsize).2.2 (.inl (by norm_num))
  obtain ⟨hnum, hden⟩ := hterms 3 rfl
  refine ⟨hsize, hpower, ?_, ?_⟩
  · rw [hnum]
    decide +kernel
  · rw [hden]
    decide +kernel

/-- No factor at all makes one, also where the base is zero. -/
example : power 0 0 = .ok 1 := by decide +kernel

end Reckoner
