import Reckoner.Proofs.Entry
import Reckoner.Proofs.Rounded
import Reckoner.Proofs.Shortest
import Reckoner.Proofs.Writing

/-! # Canonical texts

A number is written as a shortest literal, with a sign in front of it only if it is less
than zero. Such a text is an entry of a single token, and no two of them denote the same
number. The text of a rational number is the one that denotes the number rounded to the
places asked for; so what was written can be entered and written again without a change,
and a number and its opposite differ in their signs alone. -/

namespace Reckoner
open Number Text

namespace Number

theorem leading_digits (n : Nat) : Numeral.Leading (digits n) := by
  have hhead := head?_dropWhile (p := (· == '0')) (lastDigitsHalving (digitBound n) n [])
  rw [digits]
  cases hrun : (lastDigitsHalving (digitBound n) n []).dropWhile (· == '0') with
  | nil => exact .inl rfl
  | cons c rest =>
    rw [hrun] at hhead
    exact .inr ⟨c, rfl, by simpa using hhead c rfl⟩

end Number

namespace Decimal
open Numeral

/-- A number in the form `-?(0|[1-9][0-9]*)(\.[0-9]*[1-9])?` and other than `-0`. -/
structure Canonical where
  negative : Bool
  literal : Numeral
  shortest : literal.Shortest
  nonzero : negative = true → literal.text ≠ ['0']

/-- The text with its sign taken off, or with one put in front if it has none. -/
def flipSign : List Char → List Char
  | '-' :: text => text
  | text => '-' :: text

theorem flipSign_text (n : Numeral) : flipSign n.text = '-' :: n.text := by
  obtain ⟨c, tail, htext, hstart⟩ := n.begins_text
  have hc : c ≠ '-' := by
    rintro rfl
    rcases hstart with hdigit | ⟨hpoint, -⟩
    · exact absurd hdigit (by decide)
    · exact absurd hpoint (by decide)
  rw [htext, flipSign]
  intro text heq
  cases heq
  exact hc rfl

namespace Canonical

def text (n : Canonical) : List Char := (if n.negative then ['-'] else []) ++ n.literal.text

def value (n : Canonical) : Rat := if n.negative then -n.literal.value else n.literal.value

theorem scan_text (n : Canonical) : Token.scan n.text = .ok [.number n.value] := by
  have hmaximal : n.literal.Maximal [] := by simp [Numeral.Maximal]
  have hend : ∀ previous, Token.scanAfter previous [] = .ok [] := by
    intro previous
    rw [Token.scanAfter_eq]
    rfl
  rw [text, value, Token.scan]
  cases n.negative with
  | true =>
    have hscan := @Token.scanAfter_negative none [] rfl [] (by simp) n.literal hmaximal
    simp only [List.append_nil, List.cons_append, List.nil_append] at hscan
    simp only [if_true, List.cons_append, List.nil_append]
    rw [hscan, hend]
    rfl
  | false =>
    have hscan := @Token.scanAfter_numeral none [] n.literal hmaximal
    rw [List.append_nil] at hscan
    simp only [Bool.false_eq_true, if_false, List.nil_append]
    rw [hscan, hend]
    rfl

theorem value_eq_of_text_eq {m n : Canonical} (h : m.text = n.text) : m.value = n.value := by
  have hscan := m.scan_text
  rw [h, n.scan_text] at hscan
  simpa using hscan.symm

theorem value_neg_iff (n : Canonical) : n.value < 0 ↔ n.negative = true := by
  have hnonneg := n.literal.value_nonneg
  rw [value]
  cases hnegative : n.negative with
  | false => simpa using hnonneg
  | true =>
    have hne : n.literal.value ≠ 0 := by
      intro hzero
      have hvalue : (digit '0' rfl).value = 0 := by decide +kernel
      exact n.nonzero hnegative (n.shortest.text_eq shortest_zero (hzero.trans hvalue.symm))
    simpa using hnonneg.lt_of_ne' hne

theorem text_eq_of_value_eq {m n : Canonical} (h : m.value = n.value) : m.text = n.text := by
  have hsign : m.negative = n.negative := by
    rw [Bool.eq_iff_iff, ← m.value_neg_iff, ← n.value_neg_iff, h]
  have hvalue : m.literal.value = n.literal.value := by
    rw [value, value, hsign] at h
    split at h
    · exact neg_inj.mp h
    · exact h
  rw [text, text, hsign, m.shortest.text_eq n.shortest hvalue]

def opposite (n : Canonical) (h : n.literal.text ≠ ['0']) : Canonical where
  negative := !n.negative
  literal := n.literal
  shortest := n.shortest
  nonzero := fun _ => h

theorem value_opposite (n : Canonical) (h : n.literal.text ≠ ['0']) :
    (n.opposite h).value = -n.value := by
  cases hsign : n.negative <;> simp [value, opposite, hsign]

theorem text_opposite (n : Canonical) (h : n.literal.text ≠ ['0']) :
    (n.opposite h).text = flipSign n.text := by
  cases hsign : n.negative with
  | false => simp [text, opposite, hsign, flipSign_text]
  | true => simp [text, opposite, hsign, flipSign]

theorem outcome_evaluate (calculator : Calculator) (n : Canonical) :
    (calculator.evaluate n.text).outcome = .ok n.value :=
  Calculator.outcome_evaluate_of_scan calculator n.scan_text (by simp)

end Canonical

section Writing
variable {places : Nat}

theorem text_ofUnits_ne_zero {units : Nat} (h : places < 2 ^ 32) (hunits : units ≠ 0) :
    (ofUnits units h).text ≠ ['0'] := by
  intro htext
  have hread := (ofUnits units h).read?_text
  have hzero : read? ['0'] = some 0 := by decide +kernel
  rw [htext, hzero, value_ofUnits] at hread
  have hvalue := Option.some.inj hread
  rw [eq_comm, div_eq_zero_iff, or_iff_left (unit_pos places).ne'] at hvalue
  exact hunits (by exact_mod_cast hvalue)

theorem ne_zero_of_getLast?_fractionOfUnits {units : Nat} {c : Char}
    (h : c ∈ (fractionOfUnits places units).getLast?) : c ≠ '0' := by
  rw [fractionOfUnits, dropTrailing, List.getLast?_reverse] at h
  simpa using head?_dropWhile _ c h

theorem shortest_ofUnits (units : Nat) (h : places < 2 ^ 32) : (ofUnits units h).Shortest where
  whole := leading_digits _
  fraction := by
    intro run hrun
    change (if _ then _ else _) = some run at hrun
    split at hrun
    · cases hrun
    · rename_i hne
      cases hrun
      exact ⟨by simpa using hne, fun c hc => ne_zero_of_getLast?_fractionOfUnits hc⟩

def canonical (places : Nat) (h : places < 2 ^ 32) (r : Rat) : Canonical where
  negative := decide (r < 0 ∧ roundedUnits places r ≠ 0)
  literal := ofUnits (roundedUnits places r) h
  shortest := shortest_ofUnits _ h
  nonzero := fun hnegative => text_ofUnits_ne_zero h (of_decide_eq_true hnegative).2

theorem text_canonical (h : places < 2 ^ 32) (r : Rat) :
    (canonical places h r).text = write places r := by
  rw [write_eq h, Numeral.sign, Canonical.text]
  by_cases hzero : roundedUnits places r = 0
  · simp [canonical, hzero]
  · by_cases hneg : r < 0 <;> simp [canonical, hzero, hneg]

theorem rounded_eq_units (h : places < 2 ^ 32) (r : Rat) :
    rounded places r = (if r < 0 then -1 else 1) * roundedUnits places r / 10 ^ places := by
  have hunits : ⌊|r| * 10 ^ places + 1 / 2⌋ = (roundedUnits places r : Int) := by
    rw [roundedUnits_eq_floor h, Int.natCast_floor_eq_floor (by positivity)]
  rw [rounded, hunits, Int.cast_natCast]
  rcases lt_trichotomy r 0 with hneg | rfl | hpos
  · rw [sign_neg hneg, if_pos hneg]
    rfl
  · have hzero : roundedUnits places 0 = 0 := by
      apply roundedUnits_of_abs_mul h
      simp
    simp [hzero]
  · rw [sign_pos hpos, if_neg hpos.le.not_gt]
    rfl

theorem value_canonical (h : places < 2 ^ 32) (r : Rat) :
    (canonical places h r).value = rounded places r := by
  rw [rounded_eq_units h, Canonical.value]
  by_cases hzero : roundedUnits places r = 0
  · simp [canonical, value_ofUnits, hzero]
  · by_cases hneg : r < 0 <;> simp [canonical, value_ofUnits, hzero, hneg, neg_div]

theorem length_fraction_canonical (h : places < 2 ^ 32) (r : Rat) :
    (canonical places h r).literal.fraction.length ≤ places := by
  have hfraction : (canonical places h r).literal.fraction =
      fractionOfUnits places (roundedUnits places r) := getD_fraction _
  have hle := (List.rdropWhile_prefix (· == '0')
    (lastDigits places (roundedUnits places r))).length_le
  rw [length_lastDigits] at hle
  rw [hfraction]
  exact hle

end Writing

section Texts
variable {places : Nat} {r : Rat}

/-- A rounded number is written as the number that it was rounded from. -/
theorem write_rounded (h : places < 2 ^ 32) (r : Rat) :
    write places (rounded places r) = write places r := by
  rw [← text_canonical h, ← text_canonical h]
  apply Canonical.text_eq_of_value_eq
  rw [value_canonical, value_canonical, rounded_rounded]

theorem write_neg (h : places < 2 ^ 32) (hwrite : write places r ≠ ['0']) :
    write places (-r) = flipSign (write places r) := by
  have hliteral : (canonical places h r).literal.text ≠ ['0'] := by
    intro hzero
    have hsign : (canonical places h r).negative = false :=
      Bool.eq_false_iff.mpr fun hnegative => (canonical places h r).nonzero hnegative hzero
    apply hwrite
    rw [← text_canonical h, Canonical.text, hsign, hzero]
    rfl
  rw [← text_canonical h, ← text_canonical h r, ← Canonical.text_opposite _ hliteral]
  apply Canonical.text_eq_of_value_eq
  rw [Canonical.value_opposite, value_canonical, value_canonical, rounded_neg]

end Texts

/-- The text of a number is canonical. It denotes the number rounded to the places: the
nearest one with so many places, a half going away from zero. -/
theorem write_canonical_nearest {places : Nat} (h : places < 2 ^ 32) (r : Rat) :
    (∃ n : Canonical, n.text = write places r ∧ n.literal.fraction.length ≤ places) ∧
      (∀ n : Canonical, n.text = write places r → n.value = rounded places r) ∧
      (∀ q, Nearest places r q ↔ q = rounded places r) ∧
      |rounded places r - r| ≤ 1 / 2 / 10 ^ places ∧
      (∀ units : Int, r * 10 ^ places = units → rounded places r = r) ∧
      (∀ s, r ≤ s → rounded places r ≤ rounded places s) ∧
      (write places r ≠ ['0'] → write places (-r) = flipSign (write places r)) := by
  have htext := text_canonical h r
  refine ⟨⟨canonical places h r, htext, length_fraction_canonical h r⟩, ?_, ?_, ?_, ?_, ?_, ?_⟩
  · intro n hn
    rw [← value_canonical h r]
    exact Canonical.value_eq_of_text_eq (hn.trans htext.symm)
  · exact fun q => nearest_iff
  · exact abs_rounded_sub_le places r
  · exact fun units hunits => rounded_of_units hunits
  · exact fun s hrs => rounded_mono places hrs
  · exact write_neg h

/-- A half that carries over into the digits before the point. -/
theorem write_canonical_nearest_carry :
    2 < 2 ^ 32 ∧ write 2 (-(1999 / 200)) = ['-', '1', '0'] ∧
      (∃ n : Canonical, n.text = ['-', '1', '0'] ∧ n.literal.fraction.length ≤ 2) ∧
      (∀ n : Canonical, n.text = ['-', '1', '0'] → n.value = -10) ∧
      (∀ q, Nearest 2 (-(1999 / 200)) q ↔ q = -10) ∧
      write 2 (- -(1999 / 200)) = ['1', '0'] := by
  have hwrite : write 2 (-(1999 / 200)) = ['-', '1', '0'] := by decide +kernel
  have hrounded : rounded 2 (-(1999 / 200)) = -10 := by decide +kernel
  have hall := write_canonical_nearest (by decide : 2 < 2 ^ 32) (-(1999 / 200))
  rw [hwrite, hrounded] at hall
  obtain ⟨hexists, hvalue, hnearest, -, -, -, hflip⟩ := hall
  exact ⟨by decide, hwrite, hexists, hvalue, hnearest, hflip (by decide)⟩

end Decimal

namespace Calculator
open Decimal

/-- A number that was written can be entered again: its value is the number rounded to the
places, which is written in the same way. -/
theorem outcome_evaluate_write (calculator : Calculator) {places : Nat} (h : places < 2 ^ 32)
    (r : Rat) :
    (calculator.evaluate (write places r)).outcome = .ok (rounded places r) ∧
      write places (rounded places r) = write places r ∧
      ∀ units : Int, r * 10 ^ places = units → rounded places r = r := by
  refine ⟨?_, write_rounded h r, fun units hunits => rounded_of_units hunits⟩
  rw [← text_canonical h r, ← value_canonical h r]
  exact (canonical places h r).outcome_evaluate calculator

theorem outcome_evaluate_write_two_thirds :
    3 < 2 ^ 32 ∧
      (standard.evaluate ['-', '0', '.', '6', '6', '7']).outcome = .ok (-(667 / 1000)) ∧
      write 3 (-(667 / 1000)) = ['-', '0', '.', '6', '6', '7'] := by
  have hwrite : write 3 (-(2 / 3)) = ['-', '0', '.', '6', '6', '7'] := by decide +kernel
  have hrounded : rounded 3 (-(2 / 3)) = -(667 / 1000) := by decide +kernel
  obtain ⟨hvalue, hagain, -⟩ := outcome_evaluate_write standard (by decide : 3 < 2 ^ 32) (-(2 / 3))
  rw [hwrite, hrounded] at hvalue hagain
  exact ⟨by decide, hvalue, hagain⟩

end Calculator
end Reckoner
