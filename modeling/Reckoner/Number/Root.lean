import Reckoner.Fault
import Reckoner.Number.Binary64

/-! # Square roots

The root of a number that is the square of a rational is exact. Any other root is
the binary64 number nearest to the root of the binary64 number nearest to the
operand, worked out in exact arithmetic. -/

namespace Reckoner

/-- Descends from a guess that is no less than the root of `n`. -/
def rootBelow (n guess : Nat) : Nat :=
  let next := (guess + n / guess) / 2
  if next < guess then rootBelow n next else guess
termination_by guess

def natRoot (n : Nat) : Nat := rootBelow n (1 <<< (n.log2 / 2 + 1))

def exactRoot? (x : Rat) : Option Rat :=
  let p := natRoot x.num.natAbs
  let q := natRoot x.den
  if p * p = x.num.natAbs ∧ q * q = x.den then some (mkRat p q) else none

/-- Binary places to which a root is taken before it is rounded: enough for the
root of the least positive number. -/
def rootPlaces : Nat := 600

/-- The binary64 number nearest to the root of `x`, which is zero or a positive
binary64 number. An odd last bit stands for all that the root leaves over, so
that the rounding that follows sees on which side of a tie it falls. -/
def approximateRoot (x : Binary64) : Binary64 :=
  let shifted := (x.toRat * (1 <<< (2 * rootPlaces) : Nat)).floor.toNat
  let floor := natRoot shifted
  let last := if floor * floor = shifted then 0 else 1
  Binary64.round (mkRat (2 * floor + last) (1 <<< (rootPlaces + 1)))

def squareRoot (x : Rat) : Except DomainFault Rat :=
  if x < 0 then
    .error .rootOfNegative
  else
    match exactRoot? x with
    | some root => .ok root
    | none =>
      match Binary64.nearest? x with
      | none => .error .beyondBinary64
      | some operand => .ok (approximateRoot operand).toRat

end Reckoner
