/-! # Decimal digits

Natural numbers as runs of decimal digits, and rational numbers in full as one or two
such runs. Printing halves the run again and again, so that a number of a million bits
is printed in good time; that the result is the one of printing digit by digit is shown
apart. -/

namespace Reckoner.Number

def ofDigits (run : List Char) : Nat := Nat.ofDigitChars 10 run 0

def lastDigits : Nat → Nat → List Char
  | 0, _ => []
  | places + 1, n => lastDigits places (n / 10) ++ [(n % 10).digitChar]

/-- The last `2 ^ k` digits of `n`, in front of `rest`. -/
def lastDigitsHalving : Nat → Nat → List Char → List Char
  | 0, n, rest => (n % 10).digitChar :: rest
  | k + 1, n, rest =>
    let half := Nat.pow 10 (1 <<< k)
    lastDigitsHalving k (n / half) (lastDigitsHalving k (n % half) rest)

def digitBound (n : Nat) : Nat := (n.log2 / 3 + 1).log2 + 1

def digits (n : Nat) : List Char :=
  match (lastDigitsHalving (digitBound n) n []).dropWhile (· == '0') with
  | [] => ['0']
  | run => run

@[simp] theorem length_lastDigits (places n : Nat) : (lastDigits places n).length = places := by
  induction places generalizing n with
  | zero => rfl
  | succ places ih => simp [lastDigits, ih]

end Reckoner.Number

namespace Reckoner.Fraction

/-- The number as a reduced fraction, an integer without a denominator. -/
def write (r : Rat) : List Char :=
  (if r < 0 then ['-'] else []) ++ Number.digits r.num.natAbs ++
    if r.den = 1 then [] else '/' :: Number.digits r.den

end Reckoner.Fraction
