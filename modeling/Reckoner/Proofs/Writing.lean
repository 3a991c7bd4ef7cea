import Mathlib.Algebra.Order.Floor.Semifield
import Mathlib.Data.Rat.Floor
import Reckoner.Number.Digits.Lemmas
import Reckoner.Proofs.Numeral
import Reckoner.Proofs.Rounding

/-! # Written numbers

The text of a rational number is a decimal literal, with a sign in front of it if the
number is negative and does not round to zero. The literal has the magnitude of the
number rounded to the places asked for; where these are enough it is the magnitude. -/

namespace Reckoner
open Number Text Decimal

namespace Number

theorem isDigit_of_mem_digits {n : Nat} {c : Char} (h : c ∈ digits n) : isDigit c = true := by
  rw [digits_eq_toDigits] at h
  have hdigit : c.isDigit = true := Nat.isDigit_of_mem_toDigits (by decide) (by decide) h
  exact isDigit_iff.mpr (Char.isDigit_iff_toNat.mp hdigit)

theorem isDigit_of_mem_lastDigits {places n : Nat} {c : Char} (h : c ∈ lastDigits places n) :
    isDigit c = true := by
  induction places generalizing n with
  | zero => cases h
  | succ places ih =>
    rw [lastDigits] at h
    rcases List.mem_append.mp h with h | h
    · exact ih h
    · have key : ∀ d : Fin 10, isDigit d.val.digitChar = true := by decide
      rw [List.mem_singleton.mp h]
      exact key ⟨n % 10, Nat.mod_lt n (by decide)⟩

end Number

namespace Numeral

theorem wholeValue_digits (n : Nat) : wholeValue (digits n) = n := by
  rw [← ofDigits_eq_wholeValue, ofDigits_digits]

theorem wholeValue_lastDigits (places n : Nat) :
    wholeValue (lastDigits places n) = n % 10 ^ places := by
  induction places generalizing n with
  | zero => simp [lastDigits, wholeValue, Nat.mod_one]
  | succ places ih =>
    have key : ∀ d : Fin 10, wholeValue [d.val.digitChar] = d.val := by decide
    have hlast : wholeValue [(n % 10).digitChar] = n % 10 :=
      key ⟨n % 10, Nat.mod_lt n (by decide)⟩
    rw [lastDigits, wholeValue_append, ih, hlast, List.length_singleton, pow_one, Nat.pow_succ',
      Nat.mod_mul]
    omega

theorem fractionValue_dropTrailing (run : List Char) :
    fractionValue (dropTrailing (· == '0') run) = fractionValue run := by
  induction run using List.reverseRecOn with
  | nil => rfl
  | append_singleton run c ih =>
    cases hc : c == '0' with
    | false => rw [dropTrailing_append_of_neg (p := (· == '0')) hc]
    | true =>
      have hzero : c = '0' := by simpa using hc
      rw [dropTrailing_append_of_pos (p := (· == '0')) hc, ih, hzero, fractionValue_eq,
        fractionValue_eq, wholeValue_append, List.length_append]
      have hvalue : wholeValue ['0'] = 0 := rfl
      rw [hvalue, List.length_singleton, pow_one, pow_succ]
      push_cast
      field_simp
      ring

section Units
variable {places : Nat}

/-- The digits after the point of so many units of the last place. -/
def fractionOfUnits (places units : Nat) : List Char :=
  dropTrailing (· == '0') (lastDigits places units)

theorem fractionOfUnits_zero (places : Nat) : fractionOfUnits places 0 = [] := by
  induction places with
  | zero => rfl
  | succ places ih =>
    have hzero : (0 % 10).digitChar = '0' := rfl
    rw [fractionOfUnits, lastDigits, hzero, dropTrailing_append_of_pos (p := (· == '0')) rfl]
    exact ih

theorem mem_fractionOfUnits {units : Nat} {c : Char} (h : c ∈ fractionOfUnits places units) :
    c ∈ lastDigits places units :=
  (List.rdropWhile_prefix _ _).subset h

theorem getD_fraction (run : List Char) :
    (if run.isEmpty then none else some run).getD [] = run := by
  cases run <;> rfl

def ofUnits (units : Nat) (h : places < 2 ^ 32) : Numeral where
  whole := digits (units / 10 ^ places)
  fraction? :=
    if (fractionOfUnits places units).isEmpty then none else some (fractionOfUnits places units)
  isDigit_whole _ hc := isDigit_of_mem_digits hc
  isDigit_fraction c hc := by
    rw [getD_fraction] at hc
    exact isDigit_of_mem_lastDigits (mem_fractionOfUnits hc)
  nonempty := by
    rw [digits_eq_toDigits]
    simp [Nat.toDigits_ne_nil]
  length_fraction := by
    rw [getD_fraction]
    have hlength := (List.rdropWhile_prefix (· == '0') (lastDigits places units)).length_le
    rw [length_lastDigits] at hlength
    exact Nat.lt_of_le_of_lt hlength h

theorem value_ofUnits (units : Nat) (h : places < 2 ^ 32) :
    (ofUnits units h).value = (units : Rat) / 10 ^ places := by
  have hfraction : (ofUnits units h).fraction = fractionOfUnits places units := getD_fraction _
  have hwhole : (ofUnits units h).whole = digits (units / 10 ^ places) := rfl
  have hdiv : units / 10 ^ places * 10 ^ places + units % 10 ^ places = units :=
    Nat.div_add_mod' units (10 ^ places)
  rw [value, hwhole, hfraction, fractionOfUnits, fractionValue_dropTrailing, fractionValue_eq,
    wholeValue_digits, wholeValue_lastDigits, length_lastDigits]
  field_simp
  exact_mod_cast hdiv

theorem text_ofUnits (units : Nat) (h : places < 2 ^ 32) :
    (ofUnits units h).text = digits (units / 10 ^ places) ++
      if (fractionOfUnits places units).isEmpty then []
      else '.' :: fractionOfUnits places units := by
  by_cases hempty : (fractionOfUnits places units).isEmpty = true
  · have hfraction : (ofUnits units h).fraction? = none := if_pos hempty
    rw [text, pointed, hfraction, if_pos hempty]
    rfl
  · have hfraction : (ofUnits units h).fraction? = some (fractionOfUnits places units) :=
      if_neg hempty
    rw [text, pointed, hfraction, if_neg hempty]
    rfl

/-- Half a unit and more is rounded up. -/
theorem roundedUnits_eq_floor (h : places < 2 ^ 32) (r : Rat) :
    roundedUnits places r = ⌊|r| * 10 ^ places + 1 / 2⌋₊ := by
  have hden : (r.den : Rat) ≠ 0 := by exact_mod_cast r.den_ne_zero
  have hratio : |r| * 10 ^ places + 1 / 2 =
      ((2 * (r.num.natAbs * 10 ^ places) + r.den : Nat) : Rat) / (2 * r.den : Nat) := by
    rw [Binary64.abs_eq_ratio]
    push_cast
    field_simp
  rw [roundedUnits, scale_of_lt h, hratio, Nat.floor_div_eq_div]

theorem roundedUnits_of_abs_mul (h : places < 2 ^ 32) {r : Rat} {units : Nat}
    (hunits : |r| * 10 ^ places = units) : roundedUnits places r = units := by
  rw [roundedUnits_eq_floor h, hunits, Nat.floor_eq_iff (by positivity)]
  constructor <;> linarith

def sign (places : Nat) (r : Rat) : List Char :=
  if roundedUnits places r = 0 then [] else if r < 0 then ['-'] else []

theorem write_eq (h : places < 2 ^ 32) (r : Rat) :
    write places r = sign places r ++ (ofUnits (roundedUnits places r) h).text := by
  rw [text_ofUnits, write, scale_of_lt h, sign]
  by_cases hzero : roundedUnits places r = 0
  · simp only [hzero, if_true, fractionOfUnits_zero, Nat.zero_div]
    rfl
  · simp only [hzero, if_false, lastDigits_mod, fractionOfUnits, List.append_assoc]
    -- What is left to see is that Mathlib compares rational numbers as `write` does.
    rfl

theorem exists_write_eq (h : places < 2 ^ 32) {r : Rat} {units : Int}
    (hunits : r * 10 ^ places = units) :
    ∃ n : Numeral, n.value = |r| ∧ write places r = (if r < 0 then ['-'] else []) ++ n.text := by
  have hscale : (0 : Rat) < 10 ^ places := pow_pos (by norm_num) places
  have habs : |r| * 10 ^ places = units.natAbs := by
    rw [Nat.cast_natAbs, Int.cast_abs, ← hunits, abs_mul, abs_of_pos hscale]
  have hrounded := roundedUnits_of_abs_mul h habs
  have hsign : sign places r = if r < 0 then ['-'] else [] := by
    rw [sign]
    split
    · rename_i hzero
      have hr : r = 0 := by
        rw [← hrounded, hzero, Nat.cast_zero, mul_eq_zero, or_iff_left hscale.ne'] at habs
        exact abs_eq_zero.mp habs
      rw [if_neg hr.ge.not_gt]
    · rfl
  refine ⟨ofUnits units.natAbs h, ?_, ?_⟩
  · rw [value_ofUnits, ← habs, mul_div_cancel_right₀ _ hscale.ne']
  · rw [write_eq h, hsign, hrounded]

end Units

end Numeral

end Reckoner
