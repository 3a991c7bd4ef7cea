import Reckoner.Calculator
import Reckoner.Token

/-! # Expressions

Expressions as trees, which fix what an entry means: the order in which its parts
are evaluated, and the order of its tokens in postfix form. -/

namespace Reckoner

inductive Expr where
  | number (value : Rat)
  | call (name : List Char) (argument : Expr)
  | combine (symbol : Char) (left right : Expr)
deriving DecidableEq

namespace Expr

/-- The tokens of an expression, each after its operands. -/
def postorder : Expr → List Token
  | number value => [.number value]
  | call name argument => argument.postorder ++ [.function name]
  | combine symbol left right => left.postorder ++ right.postorder ++ [.operator symbol]

/-- The value of an expression. The left operand comes first, and the first fault
ends the evaluation. -/
def value (calculator : Calculator) : Expr → Except Fault Rat
  | number v => .ok v
  | call name argument => do
    let x ← argument.value calculator
    Calculator.call name x
  | combine symbol left right => do
    let x ← left.value calculator
    let y ← right.value calculator
    calculator.combine symbol x y

end Expr

end Reckoner
