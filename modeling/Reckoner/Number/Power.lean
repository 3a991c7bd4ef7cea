import Reckoner.Fault
import Reckoner.Number.Binary64

/-! # Powers

A power with an integer exponent is exact as long as it stays of a reasonable
size. Any other power is taken in binary64: base and exponent are rounded first,
and what IEEE 754 lays down for zeros, signs and powers of one is decided here.
Only the power of a positive base other than one is left to the processor. -/

namespace Reckoner

def maxExactBits : Nat := 1 <<< 20

def bitLength (n : Nat) : Nat := if n = 0 then 0 else n.log2 + 1

def bitSize (r : Rat) : Nat := max (bitLength r.num.natAbs) (bitLength r.den)

/-- The exponent of an exact power, if `exponent` is an integer and the power is
small enough. -/
def exactExponent? (base exponent : Rat) : Option Int :=
  if exponent.den = 1 ∧ bitSize base * exponent.num.natAbs ≤ maxExactBits then
    some exponent.num
  else
    none

namespace Binary64

def powerOfPositive (base exponent : Binary64) : Option Rat :=
  if base.toRat = 1 then
    some 1
  else
    magnitudeOfBits? ((Float.ofBits base.bits).pow (Float.ofBits exponent.bits)).toBits

/-- The power of two finite numbers, if it is finite. A power of a negative base
needs an integer exponent, whose parity decides the sign. -/
def power? (base exponent : Binary64) : Option Rat :=
  let x := base.toRat
  let y := exponent.toRat
  if y = 0 then
    some 1
  else if x = 0 then
    if y < 0 then none else some 0
  else if 0 < x then
    powerOfPositive base exponent
  else if y.den = 1 then
    (powerOfPositive { base with negative := false } exponent).map fun v =>
      if y.num % 2 = 0 then v else -v
  else
    none

end Binary64

def approximatePower (base exponent : Rat) : Except DomainFault Rat :=
  match Binary64.nearest? base, Binary64.nearest? exponent with
  | some x, some y =>
    match Binary64.power? x y with
    | some v => .ok v
    | none => .error (.unrepresentablePower base exponent)
  | _, _ => .error .beyondBinary64

def power (base exponent : Rat) : Except DomainFault Rat :=
  match exactExponent? base exponent with
  | some n => if base = 0 ∧ n < 0 then .error .zeroToNegativePower else .ok (base ^ n)
  | none => approximatePower base exponent

end Reckoner
