import Mathlib.Algebra.Order.Ring.Int
import Reckoner.Proofs.ExactPower
import Reckoner.Proofs.PowerDomain

/-! # The sign of powers

Of a negative base, the parity of the exponent decides the sign. The exact powers see the
exponent itself. The binary64 power sees the exponent as it was rounded: up to 53 bits that
is the same integer, but beyond them all binary64 numbers are even, and so an odd exponent
counts as an even one. -/

namespace Reckoner

namespace Binary64

section Parity
variable {n : Int}

theorem abs_intCast (n : Int) : |(n : Rat)| = n.natAbs := by
  rw [Nat.cast_natAbs, Int.cast_abs]

theorem toRat_round_intCast (h : n.natAbs < 2 ^ 53) : (Binary64.round n).toRat = n := by
  have hsmall : |(n : Rat)| < 2 ^ (53 : Int) := by
    rw [abs_intCast]
    exact_mod_cast h
  have hexponent : (Binary64.round n).exponent ≤ 0 := by
    rcases (minExponent_le_round (n : Rat)).eq_or_lt with heq | hlt
    · rw [← heq]
      decide
    · have hlarge := (zpow_round_exponent_le hlt).trans_lt hsmall
      rw [zpow_lt_zpow_iff_right₀ one_lt_two] at hlarge
      omega
  obtain ⟨k, hk⟩ := Int.exists_eq_neg_ofNat hexponent
  have hunits : |(n : Rat)| = (n.natAbs * 2 ^ k : Nat) * 2 ^ (Binary64.round n).exponent := by
    rw [hk, zpow_neg, zpow_natCast, Nat.cast_mul, Nat.cast_pow, Nat.cast_ofNat,
      mul_inv_cancel_right₀ (pow_ne_zero k two_ne_zero), abs_intCast]
  exact toRat_round_of_units hunits

theorem exists_even_toRat {x : Binary64} (h : 0 < x.exponent) :
    ∃ m : Int, x.toRat = m ∧ Even m := by
  obtain ⟨k, hk⟩ : ∃ k : Nat, x.exponent = k + 1 := ⟨(x.exponent - 1).toNat, by omega⟩
  have hpow : (2 : Rat) ^ x.exponent = 2 * 2 ^ k := by
    rw [hk]
    exact_mod_cast pow_succ' (2 : Rat) k
  have hmagnitude : (x.mantissa : Rat) * 2 ^ x.exponent = (2 * (x.mantissa * 2 ^ k) : Int) := by
    rw [hpow, mul_left_comm]
    push_cast
    rfl
  have heven : Even (2 * ((x.mantissa : Int) * 2 ^ k)) := even_two_mul _
  rw [toRat]
  cases x.negative with
  | false => exact ⟨_, hmagnitude, heven⟩
  | true =>
    refine ⟨-(2 * (x.mantissa * 2 ^ k)), ?_, heven.neg⟩
    rw [if_pos rfl, hmagnitude, Int.cast_neg]

/-- An integer is rounded to an integer, which is even if the integer is even or beyond
53 bits. -/
theorem exists_toRat_round_intCast (n : Int) :
    ∃ m : Int, (Binary64.round n).toRat = m ∧ (Even m ↔ Even n ∨ 2 ^ 53 ≤ n.natAbs) := by
  rcases Nat.lt_or_ge n.natAbs (2 ^ 53) with hsmall | hlarge
  · refine ⟨n, toRat_round_intCast hsmall, ?_⟩
    rw [or_iff_left hsmall.not_ge]
  · have hmagnitude : (2 : Rat) ^ (53 : Int) ≤ |(n : Rat)| := by
      rw [abs_intCast]
      exact_mod_cast hlarge
    have hexponent : 0 < (Binary64.round n).exponent := by
      have hlt := hmagnitude.trans_lt (abs_lt_zpow_round_exponent (n : Rat))
      rw [zpow_lt_zpow_iff_right₀ one_lt_two] at hlt
      omega
    obtain ⟨m, hm, heven⟩ := exists_even_toRat hexponent
    exact ⟨m, hm, iff_of_true heven (.inr hlarge)⟩

end Parity

section Sign
variable {x y : Binary64} {v : Rat}

theorem magnitudeOfBits?_nonneg {bits : UInt64} (h : magnitudeOfBits? bits = some v) : 0 ≤ v := by
  simp only [magnitudeOfBits?] at h
  split at h
  · cases h
  · split at h
    all_goals
      cases h
      exact toRat_nonneg rfl

theorem powerOfPositive_nonneg (h : powerOfPositive x y = some v) : 0 ≤ v := by
  rw [powerOfPositive] at h
  split at h
  · cases h
    exact zero_le_one
  · exact magnitudeOfBits?_nonneg h

theorem power?_sign {m : Int} (hx : x.toRat ≤ 0) (hy : y.toRat = m)
    (h : power? x y = some v) : (Even m → 0 ≤ v) ∧ (Odd m → v ≤ 0) := by
  simp only [power?, hy, Rat.den_intCast, Rat.num_intCast, if_true] at h
  split at h
  · rename_i hzero
    have hm : m = 0 := by exact_mod_cast hzero
    cases h
    refine ⟨fun _ => zero_le_one, fun hodd => ?_⟩
    rw [hm] at hodd
    exact absurd hodd (by decide)
  · split at h
    · split at h
      · cases h
      · cases h
        exact ⟨fun _ => le_rfl, fun _ => le_rfl⟩
    · rw [if_neg hx.not_gt] at h
      obtain ⟨w, hw, rfl⟩ := Option.map_eq_some_iff.mp h
      have hpos := powerOfPositive_nonneg hw
      constructor
      · intro heven
        rwa [if_pos (Int.even_iff.mp heven)]
      · intro hodd
        rw [if_neg (by rw [Int.odd_iff.mp hodd]; decide)]
        exact neg_nonpos_of_nonneg hpos

end Sign

end Binary64

open Binary64

section Negative
variable {base : Rat} {n : Int} {v : Rat}

theorem power?_of_approximatePower {exponent : Rat} (h : approximatePower base exponent = .ok v) :
    power? (Binary64.round base) (Binary64.round exponent) = some v := by
  simp only [approximatePower] at h
  split at h
  · rename_i x y hx hy
    rw [eq_round_of_nearest? hx, eq_round_of_nearest? hy] at h
    split at h
    · rename_i hpower
      cases h
      exact hpower
    · cases h
  · cases h

theorem approximatePower_sign (hbase : base < 0) (h : approximatePower base n = .ok v) :
    (Even n ∨ 2 ^ 53 ≤ n.natAbs → 0 ≤ v) ∧ (Odd n ∧ n.natAbs < 2 ^ 53 → v ≤ 0) := by
  obtain ⟨m, hm, hparity⟩ := exists_toRat_round_intCast n
  have hpower := power?_of_approximatePower h
  obtain ⟨heven, hodd⟩ := power?_sign (toRat_round_nonpos hbase.le) hm hpower
  constructor
  · intro hn
    exact heven (hparity.mpr hn)
  · rintro ⟨hn, hsmall⟩
    apply hodd
    rw [← Int.not_even_iff_odd, hparity, not_or, Int.not_even_iff_odd]
    exact ⟨hn, hsmall.not_ge⟩

theorem zpow_sign (hbase : base < 0) (h : bitSize base * n.natAbs ≤ maxExactBits) :
    (Even n ∨ 2 ^ 53 ≤ n.natAbs → 0 ≤ base ^ n) ∧
      (Odd n ∧ n.natAbs < 2 ^ 53 → base ^ n ≤ 0) := by
  have hsmall : n.natAbs ≤ 2 ^ 20 := natAbs_le_of_bitSize_mul h
  constructor
  · intro hn
    have heven : Even n := hn.resolve_right (by omega)
    exact heven.zpow_nonneg base
  · rintro ⟨hodd, _⟩
    exact (hodd.zpow_neg hbase).le

end Negative

/-- A power of a negative base with an even exponent is never negative, whatever the size
of the exponent. With an odd exponent below `2 ^ 53` it is never positive; with a greater
one it is never negative either, for no such exponent is odd once it is rounded. -/
theorem power_of_negative_sign {base v : Rat} {n : Int} (hbase : base < 0)
    (h : power base n = .ok v) :
    (Even n ∨ 2 ^ 53 ≤ n.natAbs → 0 ≤ v) ∧ (Odd n ∧ n.natAbs < 2 ^ 53 → v ≤ 0) := by
  rcases Nat.lt_or_ge maxExactBits (bitSize base * n.natAbs) with hlarge | hsmall
  · rw [power_eq_of_lt_bitSize_mul hlarge] at h
    exact approximatePower_sign hbase h
  · rw [power_eq_of_bitSize_mul hsmall, if_neg fun hzero => hbase.ne hzero.1] at h
    cases h
    exact zpow_sign hbase hsmall

/-- The least odd exponent that is too great for an exact power of minus one. -/
theorem power_of_negative_sign_beyond_exact :
    (-1 : Rat) < 0 ∧ power (-1) (2 ^ 20 + 1 : Int) = .ok (-1) ∧
      Odd (2 ^ 20 + 1 : Int) ∧ (-1 : Rat) ≤ 0 := by
  have hbase : (-1 : Rat) < 0 := by decide
  have hpower : power (-1) (2 ^ 20 + 1 : Int) = .ok (-1) := by decide +kernel
  have hodd : Odd (2 ^ 20 + 1 : Int) := by decide
  exact ⟨hbase, hpower, hodd, (power_of_negative_sign hbase hpower).2 ⟨hodd, by decide⟩⟩

/-- The first odd exponent that is rounded, and with it the sign is lost: for minus one,
and for a base that rounds to it. -/
theorem power_of_negative_sign_lost :
    Odd (2 ^ 53 + 1 : Int) ∧ power (-1) (2 ^ 53 + 1 : Int) = .ok 1 ∧
      power (-1 - 1 / 2 ^ 60) (2 ^ 53 + 1 : Int) = .ok 1 ∧
      ¬∀ (base v : Rat) (n : Int), base < 0 → power base n = .ok v →
        (Even n → 0 ≤ v) ∧ (Odd n → v ≤ 0) := by
  have hodd : Odd (2 ^ 53 + 1 : Int) := by decide
  have hpower : power (-1) (2 ^ 53 + 1 : Int) = .ok 1 := by decide +kernel
  refine ⟨hodd, hpower, by decide +kernel, fun hsign => ?_⟩
  exact absurd ((hsign (-1) 1 (2 ^ 53 + 1) (by decide) hpower).2 hodd) zero_lt_one.not_ge

end Reckoner
