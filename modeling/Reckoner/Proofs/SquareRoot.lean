import Mathlib.Algebra.Order.Ring.Rat
import Mathlib.Data.Rat.Sqrt
import Reckoner.Number.Root

/-! # Exact square roots

A fraction in lowest terms is a square exactly if both its terms are, so that the roots
of the two terms find every rational root. Only for a number that is no square is the
root taken of a rounded number. -/

namespace Reckoner

theorem rootBelow_eq_iter (n guess : Nat) : rootBelow n guess = Nat.sqrt.iter n guess := by
  fun_induction rootBelow n guess with
  | case1 guess next hlt ih =>
    have hstep : (guess + n / guess) / 2 < guess := hlt
    conv_rhs => rw [Nat.sqrt.iter]
    rw [ih, dif_pos hstep]
  | case2 guess next hge =>
    have hstop : ¬(guess + n / guess) / 2 < guess := hge
    rw [Nat.sqrt.iter, dif_neg hstop]

theorem natRoot_eq_sqrt (n : Nat) : natRoot n = Nat.sqrt n := by
  rcases Nat.lt_or_ge 1 n with hlarge | hsmall
  · rw [natRoot, rootBelow_eq_iter, Nat.sqrt, if_neg hlarge.not_ge]
  · rcases Nat.le_one_iff_eq_zero_or_eq_one.mp hsmall with rfl | rfl <;> decide +kernel

theorem natRoot_mul_self_eq_iff {n : Nat} : natRoot n * natRoot n = n ↔ IsSquare n := by
  rw [natRoot_eq_sqrt, ← Nat.exists_mul_self]
  exact exists_congr fun m => eq_comm

section Exact
variable {x root : Rat}

theorem exactRoot?_eq (hx : 0 ≤ x) :
    exactRoot? x = if IsSquare x then some (Rat.sqrt x) else none := by
  have hnum : (x.num.natAbs : Int) = x.num := Int.natAbs_of_nonneg (Rat.num_nonneg.mpr hx)
  have hsquare : IsSquare x ↔ IsSquare x.num.natAbs ∧ IsSquare x.den := by
    rw [Rat.isSquare_iff, ← Int.isSquare_natCast_iff (n := x.num.natAbs), hnum]
  have hroot : mkRat (natRoot x.num.natAbs) (natRoot x.den) = Rat.sqrt x := by
    rw [natRoot_eq_sqrt, natRoot_eq_sqrt, ← Int.sqrt_natCast, hnum, Rat.sqrt]
  simp only [exactRoot?, natRoot_mul_self_eq_iff, ← hsquare, hroot]

/-- The exact root is the root, and every number that has one is found to have it. -/
theorem exactRoot?_eq_some_iff (hx : 0 ≤ x) :
    exactRoot? x = some root ↔ 0 ≤ root ∧ root * root = x := by
  rw [exactRoot?_eq hx]
  constructor
  · intro h
    split at h
    · rename_i hsquare
      cases h
      obtain ⟨q, rfl⟩ := hsquare
      exact ⟨Rat.sqrt_nonneg _, (Rat.exists_mul_self _).mp ⟨q, rfl⟩⟩
    · cases h
  · rintro ⟨hroot, rfl⟩
    rw [if_pos ⟨root, rfl⟩, Rat.sqrt_eq, abs_of_nonneg hroot]

theorem exists_exactRoot?_iff (hx : 0 ≤ x) :
    (∃ root, exactRoot? x = some root) ↔ IsSquare x := by
  rw [exactRoot?_eq hx]
  split
  · rename_i hsquare
    exact iff_of_true ⟨_, rfl⟩ hsquare
  · rename_i hsquare
    refine iff_of_false ?_ hsquare
    rintro ⟨_, h⟩
    cases h

end Exact

def roundedRoot (x : Rat) : Except DomainFault Rat :=
  match Binary64.nearest? x with
  | none => .error .beyondBinary64
  | some operand => .ok (approximateRoot operand).toRat

section Branches
variable {x root : Rat}

theorem squareRoot_of_exactRoot? (hx : 0 ≤ x) (h : exactRoot? x = some root) :
    squareRoot x = .ok root := by
  rw [squareRoot, if_neg hx.not_gt, h]

theorem squareRoot_of_not_isSquare (hx : 0 ≤ x) (h : ¬IsSquare x) :
    squareRoot x = roundedRoot x := by
  have hnone : exactRoot? x = none := by rw [exactRoot?_eq hx, if_neg h]
  rw [squareRoot, if_neg hx.not_gt, hnone]
  rfl

end Branches

/-- The root of a rational square is exact, and no negative number has a root. Of all
other numbers the exact branch is taken by the rational squares and by no others; what it
answers is the root. The rest have a rounded root. -/
theorem squareRoot_exact :
    (∀ q : Rat, squareRoot (q * q) = .ok |q|) ∧
      (∀ x : Rat, x < 0 → squareRoot x = .error .rootOfNegative) ∧
      ∀ x : Rat, 0 ≤ x →
        ((∃ root, exactRoot? x = some root) ↔ IsSquare x) ∧
        (∀ root, exactRoot? x = some root →
          squareRoot x = .ok root ∧ 0 ≤ root ∧ root * root = x) ∧
        (¬IsSquare x → squareRoot x = roundedRoot x) := by
  refine ⟨?_, ?_, ?_⟩
  · intro q
    have hnonneg : 0 ≤ q * q := mul_self_nonneg q
    apply squareRoot_of_exactRoot? hnonneg
    exact (exactRoot?_eq_some_iff hnonneg).mpr ⟨abs_nonneg q, abs_mul_abs_self q⟩
  · intro x hx
    rw [squareRoot, if_pos hx]
  · intro x hx
    refine ⟨exists_exactRoot?_iff hx, ?_, squareRoot_of_not_isSquare hx⟩
    intro root hroot
    exact ⟨squareRoot_of_exactRoot? hx hroot, (exactRoot?_eq_some_iff hx).mp hroot⟩

/-- Two ninths are no square, though one of the terms is. -/
theorem squareRoot_exact_of_ninths :
    squareRoot (-2 / 3 * (-2 / 3)) = .ok |-2 / 3| ∧
      (-1 / 9 : Rat) < 0 ∧ squareRoot (-1 / 9) = .error .rootOfNegative ∧
      (0 : Rat) ≤ 2 / 9 ∧ ¬IsSquare (2 / 9 : Rat) ∧ squareRoot (2 / 9) = roundedRoot (2 / 9) := by
  obtain ⟨hsquare, hnegative, hother⟩ := squareRoot_exact
  have hneg : (-1 / 9 : Rat) < 0 := by decide +kernel
  have hnonneg : (0 : Rat) ≤ 2 / 9 := by decide +kernel
  have hrough : ¬IsSquare (2 / 9 : Rat) := by decide +kernel
  exact ⟨hsquare _, hneg, hnegative _ hneg, hnonneg, hrough, (hother _ hnonneg).2.2 hrough⟩

end Reckoner
