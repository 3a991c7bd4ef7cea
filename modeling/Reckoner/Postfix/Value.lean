import Reckoner.Calculator
import Reckoner.Journal

/-! # The value of tokens in postfix order

One pass over the tokens with a stack of values. Each function and operator takes
its operands from the stack and leaves its value there; it is noted once it has
succeeded. -/

namespace Reckoner.Postfix

/-- Executes one token on the stack, whose top comes first. -/
def execute (calculator : Calculator) (stack : List Rat) : Token → Journaled (List Rat)
  | .number value => pure (value :: stack)
  | .function name =>
    match stack with
    | [] => .fault (.missingOperand (.function name))
    | x :: below => do
      let v ← Journaled.ofExcept (Calculator.call name x)
      Journaled.note (.called name x v)
      return v :: below
  | .operator symbol =>
    match stack with
    | right :: left :: below => do
      let v ← Journaled.ofExcept (calculator.combine symbol left right)
      Journaled.note (.combined symbol left right v)
      return v :: below
    | _ => .fault (.missingOperand (.operator symbol))
  | .lparen => .fault .invalidExpression
  | .rparen => .fault .invalidExpression

def run (calculator : Calculator) (stack : List Rat) (tokens : List Token) :
    Journaled (List Rat) :=
  tokens.foldlM (execute calculator) stack

theorem run_append (calculator : Calculator) (stack : List Rat) (first second : List Token) :
    run calculator stack (first ++ second) = (do
      let stack ← run calculator stack first
      run calculator stack second) :=
  List.foldlM_append

def value (calculator : Calculator) (tokens : List Token) : Journaled Rat := do
  match ← run calculator [] tokens with
  | [v] => return v
  | _ => .fault .invalidExpression

end Reckoner.Postfix
