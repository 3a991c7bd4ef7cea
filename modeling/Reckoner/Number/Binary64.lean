/-! # Binary64 numbers

Finite numbers with a significand of 53 bits and an exponent of 11, as exact
multiples of powers of two, and the rounding of a rational number to the nearest
of them. Infinities and NaN are no values here: a number beyond the range rounds
to none, and an encoding that has no finite value decodes to none. -/

namespace Reckoner

/-- The number `± mantissa * 2 ^ exponent`. A zero keeps its sign. -/
structure Binary64 where
  negative : Bool
  mantissa : Nat
  exponent : Int
deriving DecidableEq

namespace Binary64

def toRat (x : Binary64) : Rat :=
  let magnitude := (x.mantissa : Rat) * 2 ^ x.exponent
  if x.negative then -magnitude else magnitude

def minExponent : Int := -1074

/-- `n / d` counted in units of `2 ^ exponent`, as a quotient of two naturals. -/
def inUnits (n d : Nat) (exponent : Int) : Nat × Nat :=
  (n <<< (-exponent).toNat, d <<< exponent.toNat)

/-- The exponent of the unit in the last place of a number near `n / d`: the one
in which `n / d` has 53 bits, or the least one if that is greater. -/
def unitExponent (n d : Nat) : Int :=
  let low := (n.log2 : Int) - d.log2 - 53
  let (a, b) := inUnits n d low
  max minExponent (if a / b < 1 <<< 53 then low else low + 1)

def roundHalfEven (a b : Nat) : Nat :=
  let quotient := a / b
  let twice := 2 * (a % b)
  if twice < b ∨ twice = b ∧ quotient % 2 = 0 then quotient else quotient + 1

/-- The number nearest to `r`, a tie going to the even mantissa, as if exponents
had no upper end. -/
def round (r : Rat) : Binary64 :=
  let exponent := if r.num = 0 then minExponent else unitExponent r.num.natAbs r.den
  let (a, b) := inUnits r.num.natAbs r.den exponent
  ⟨r < 0, roundHalfEven a b, exponent⟩

def nearest? (r : Rat) : Option Binary64 :=
  let x := round r
  if 1024 ≤ x.exponent + x.mantissa.log2 then none else some x

/-- The encoding of a number that `nearest?` gives. -/
def bits (x : Binary64) : UInt64 :=
  UInt64.ofNat ((if x.negative then 1 <<< 63 else 0) +
    (x.exponent - minExponent).toNat <<< 52 + x.mantissa)

def magnitudeOfBits? (bits : UInt64) : Option Rat :=
  let field := bits.toNat >>> 52 % 2048
  let fraction := bits.toNat % (1 <<< 52)
  if field = 2047 then
    none
  else if field = 0 then
    some (toRat ⟨false, fraction, minExponent⟩)
  else
    some (toRat ⟨false, (1 <<< 52) + fraction, minExponent + (field - 1 : Nat)⟩)

theorem toRat_of_mantissa_eq_zero {x : Binary64} (h : x.mantissa = 0) : x.toRat = 0 := by
  simp [toRat, h]

end Binary64

end Reckoner
