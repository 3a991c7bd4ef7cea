import Reckoner.Number.Decimal

/-! # Tokens

The words of the calculator's language. A sign that belongs to a number is part
of the number's token. -/

namespace Reckoner

inductive Token where
  | number (value : Rat)
  | operator (symbol : Char)
  | lparen
  | rparen
  | function (name : List Char)
deriving DecidableEq

namespace Token

def value? : Token → Option Rat
  | number value => some value
  | _ => none

def isParenthesis : Token → Bool
  | lparen | rparen => true
  | _ => false

def text : Token → List Char
  | number value => Decimal.write Decimal.defaultPlaces value
  | operator symbol => [symbol]
  | lparen => ['(']
  | rparen => [')']
  | function name => name

/-- The texts of the tokens with one space between them. -/
def line (tokens : List Token) : List Char := [' '].intercalate (tokens.map text)

end Token

end Reckoner
