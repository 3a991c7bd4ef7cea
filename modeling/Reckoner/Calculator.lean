import Reckoner.Number.Root
import Reckoner.Operator

/-! # Calculators

A calculator is a registry of operators and a list of guards. A guard looks at an
operation before it is carried out and may refuse it; it sees the symbol and the two
operands and cannot change them. Functions are the same for all calculators: there is
only the square root. -/

namespace Reckoner

abbrev Guard := Char → Rat → Rat → Except Fault Unit

namespace Guard

def divisionByZero : Guard := fun symbol _ right =>
  if symbol = '/' ∧ right = 0 then .error .divisionByZero else .ok ()

def standard : List Guard := [divisionByZero]

/-- Asks all guards in order, up to the first that refuses. -/
def checkAll : List Guard → Guard
  | [], _, _, _ => .ok ()
  | guard :: guards, symbol, left, right => do
    guard symbol left right
    checkAll guards symbol left right

end Guard

structure Calculator where
  registry : Registry
  guards : List Guard

namespace Calculator

def standard : Calculator := ⟨Registry.standard, Guard.standard⟩

def rootName : List Char := ['s', 'q', 'r', 't']

def call (name : List Char) (x : Rat) : Except Fault Rat :=
  if name = rootName then (squareRoot x).mapError .domain else .error (.unknownFunction name)

/-- The value of an operation. The guards are asked first, even if the symbol has
no operator. -/
def combine (calculator : Calculator) (symbol : Char) (left right : Rat) :
    Except Fault Rat := do
  Guard.checkAll calculator.guards symbol left right
  let op ← calculator.registry.operator symbol
  op.apply left right

def describe (calculator : Calculator) : String :=
  let entries := calculator.registry.operators.map fun op =>
    String.ofList (Text.quote '\'' [op.symbol]) ++ ": " ++ op.describe
  "Calculatrice \x7b registre: Registre \x7b table: \x7b" ++ ", ".intercalate entries ++
    "\x7d \x7d, policies: " ++ String.ofList (Number.digits calculator.guards.length) ++ " \x7d"

end Calculator

end Reckoner
