import Mathlib.Algebra.Group.Nat.Defs
import Reckoner.Number.Digits

/-! # Decimal digits, printed and read

Main statements: printing by halves gives the digits that printing one by one
gives (`digits_eq_toDigits`), and they read back as the number
(`ofDigits_digits`). -/

namespace Reckoner.Number

theorem lastDigits_add (i j n : Nat) :
    lastDigits (i + j) n = lastDigits i (n / 10 ^ j) ++ lastDigits j n := by
  induction j generalizing n with
  | zero => simp [lastDigits]
  | succ j ih =>
    rw [← Nat.add_assoc, lastDigits, ih, lastDigits, Nat.div_div_eq_div_mul, Nat.pow_succ',
      List.append_assoc]

theorem lastDigits_mod (places n : Nat) :
    lastDigits places (n % 10 ^ places) = lastDigits places n := by
  induction places generalizing n with
  | zero => rfl
  | succ places ih =>
    have hdiv : n % 10 ^ (places + 1) / 10 = n / 10 % 10 ^ places := by
      rw [Nat.pow_succ', Nat.mod_mul_right_div_self]
    have hmod : n % 10 ^ (places + 1) % 10 = n % 10 := by
      rw [Nat.pow_succ', Nat.mod_mul_right_mod]
    rw [lastDigits, lastDigits, hdiv, hmod, ih]

theorem lastDigitsHalving_eq (k n : Nat) (rest : List Char) :
    lastDigitsHalving k n rest = lastDigits (2 ^ k) n ++ rest := by
  induction k generalizing n rest with
  | zero => simp [lastDigitsHalving, lastDigits]
  | succ k ih =>
    have half : Nat.pow 10 (1 <<< k) = 10 ^ 2 ^ k := by rw [Nat.one_shiftLeft]; rfl
    rw [lastDigitsHalving, half, ih, ih, lastDigits_mod, ← List.append_assoc, ← lastDigits_add,
      Nat.pow_succ, Nat.mul_two]

theorem dropWhile_lastDigits {places n : Nat} (h : n < 10 ^ places) :
    (lastDigits places n).dropWhile (· == '0') = if n = 0 then [] else Nat.toDigits 10 n := by
  induction places generalizing n with
  | zero => simp_all [lastDigits]
  | succ places ih =>
    have hq : n / 10 < 10 ^ places := by
      rw [Nat.pow_succ] at h
      omega
    rw [lastDigits, List.dropWhile_append, ih hq]
    by_cases hn : n < 10
    · have hzero : n / 10 = 0 := by omega
      have hself : n % 10 = n := by omega
      by_cases h0 : n = 0
      · simp [h0]
      · have hd : (n.digitChar == '0') = false := by simp [h0]
        simp [hzero, hself, h0, hd, Nat.toDigits_of_lt_base hn, List.dropWhile]
    · have hpos : n / 10 ≠ 0 := by omega
      have h0 : n ≠ 0 := by omega
      simp [hpos, h0, Nat.toDigits_ne_nil, Nat.toDigits_of_base_le (by omega : 1 < 10)
        (by omega : 10 ≤ n)]

theorem lt_pow_digitBound (n : Nat) : n < 10 ^ 2 ^ digitBound n := by
  have hbits : n < 2 ^ (n.log2 + 1) := Nat.lt_log2_self
  have hexp : n.log2 / 3 + 1 < 2 ^ digitBound n := Nat.lt_log2_self
  calc
    n < 2 ^ (n.log2 + 1) := hbits
    _ ≤ 2 ^ (3 * (n.log2 / 3 + 1)) := Nat.pow_le_pow_right (by omega) (by omega)
    _ = 8 ^ (n.log2 / 3 + 1) := by rw [Nat.pow_mul]
    _ ≤ 10 ^ (n.log2 / 3 + 1) := Nat.pow_le_pow_left (by omega) _
    _ ≤ 10 ^ 2 ^ digitBound n := Nat.pow_le_pow_right (by omega) (Nat.le_of_lt hexp)

theorem digits_eq_toDigits (n : Nat) : digits n = Nat.toDigits 10 n := by
  have h := dropWhile_lastDigits (lt_pow_digitBound n)
  rw [digits, lastDigitsHalving_eq, List.append_nil, h]
  by_cases h0 : n = 0
  · simp [h0]
  · rw [if_neg h0]
    split
    · exact absurd ‹_› Nat.toDigits_ne_nil
    · rfl

theorem ofDigits_digits (n : Nat) : ofDigits (digits n) = n := by
  rw [digits_eq_toDigits, ofDigits, Nat.ofDigitChars_ten_toDigits]

end Reckoner.Number
