import Reckoner.Operator
import Reckoner.Token

/-! # Postfix order

The tokens of an entry are put into postfix order with a stack of tokens that
wait for their operands to end. An operator sends ahead of itself those waiting
tokens that bind tighter. A function waits for the parenthesis that closes its
argument, or for the next operator. -/

namespace Reckoner.Postfix

/-- The state between two tokens: the waiting tokens, the last to come on top,
and the tokens already in place, the last one first. -/
structure Yard where
  waiting : List Token
  placed : List Token
deriving DecidableEq

/-- Whether a waiting token goes ahead of an operator that comes in. Among equal
priorities the operators that group on the left do. -/
def goesAhead (registry : Registry) (incoming : Operator) : Token → Except Fault Bool
  | .function _ => .ok true
  | .operator symbol => do
    let top ← registry.operator symbol
    return match incoming.side with
      | .left => incoming.priority ≤ top.priority
      | .right => incoming.priority < top.priority
  | _ => .ok false

def release (registry : Registry) (incoming : Operator) :
    List Token → List Token → Except Fault Yard
  | [], placed => .ok ⟨[], placed⟩
  | top :: below, placed => do
    if ← goesAhead registry incoming top then
      release registry incoming below (top :: placed)
    else
      return ⟨top :: below, placed⟩

def placeFunction : List Token → List Token → Yard
  | .function name :: below, placed => ⟨below, .function name :: placed⟩
  | waiting, placed => ⟨waiting, placed⟩

/-- Places what waits since the last open parenthesis, which is dropped, and then
the function whose argument it has closed. -/
def closeGroup : List Token → List Token → Except Fault Yard
  | [], _ => .error .unbalancedParentheses
  | .lparen :: below, placed => .ok (placeFunction below placed)
  | top :: below, placed => closeGroup below (top :: placed)

def Yard.step (registry : Registry) (yard : Yard) : Token → Except Fault Yard
  | .number value => .ok ⟨yard.waiting, .number value :: yard.placed⟩
  | .function name => .ok ⟨.function name :: yard.waiting, yard.placed⟩
  | .lparen => .ok ⟨.lparen :: yard.waiting, yard.placed⟩
  | .operator symbol => do
    let incoming ← registry.operator symbol
    let yard ← release registry incoming yard.waiting yard.placed
    return ⟨.operator symbol :: yard.waiting, yard.placed⟩
  | .rparen => closeGroup yard.waiting yard.placed

def flush : List Token → List Token → Except Fault (List Token)
  | [], placed => .ok placed.reverse
  | .lparen :: _, _ => .error .unbalancedParentheses
  | .rparen :: _, _ => .error .unbalancedParentheses
  | top :: below, placed => flush below (top :: placed)

def Yard.run (registry : Registry) (yard : Yard) (tokens : List Token) : Except Fault Yard :=
  tokens.foldlM (Yard.step registry) yard

theorem Yard.run_append (registry : Registry) (yard : Yard) (first second : List Token) :
    Yard.run registry yard (first ++ second) = (do
      let yard ← Yard.run registry yard first
      Yard.run registry yard second) :=
  List.foldlM_append

/-- The tokens in postfix order, without their parentheses. -/
def ofTokens (registry : Registry) (tokens : List Token) : Except Fault (List Token) := do
  let yard ← Yard.run registry ⟨[], []⟩ tokens
  flush yard.waiting yard.placed

end Reckoner.Postfix
