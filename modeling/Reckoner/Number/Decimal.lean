import Reckoner.Number.Digits
import Reckoner.Text.Letter

/-! # Decimal numbers

Reading is exact: a literal denotes the rational number that its digits spell.
Writing rounds to a number of places, a half going away from zero, and then
leaves out the zeros that end the fraction. Nothing here knows about signs in
front of literals. -/

namespace Reckoner.Decimal
open Number Text

def defaultPlaces : Nat := 28

/-- How many units of the last place make one. The number of places is kept in
thirty-two bits. -/
def scale (places : Nat) : Nat := Nat.pow 10 (places % (1 <<< 32))

/-- The value of a literal: digits with at most one point before, among or after
them, and at least one digit. -/
def read? (literal : List Char) : Option Rat :=
  let whole := literal.takeWhile (· != '.')
  let fraction := (literal.dropWhile (· != '.')).drop 1
  let run := whole ++ fraction
  if run.isEmpty || !run.all isDigit then
    none
  else
    some (mkRat (ofDigits run) (scale fraction.length))

def roundedUnits (places : Nat) (r : Rat) : Nat :=
  (2 * (r.num.natAbs * scale places) + r.den) / (2 * r.den)

/-- The text of `r` rounded to `places` places. A number that rounds to zero has
no sign. -/
def write (places : Nat) (r : Rat) : List Char :=
  let units := roundedUnits places r
  if units = 0 then
    ['0']
  else
    let fraction := dropTrailing (· == '0') (lastDigits places (units % scale places))
    (if r < 0 then ['-'] else []) ++ digits (units / scale places) ++
      if fraction.isEmpty then [] else '.' :: fraction

end Reckoner.Decimal
