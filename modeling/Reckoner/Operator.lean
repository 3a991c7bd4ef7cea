import Reckoner.Number.Power
import Reckoner.Text.Quoted

/-! # Operators

Binary operators and the registries that hold them. A registry has at most one
operator for a symbol; a later one takes the place of an earlier one. -/

namespace Reckoner

/-- The side on which operators of equal priority are grouped. -/
inductive Side where
  | left
  | right
deriving DecidableEq

structure Operator where
  symbol : Char
  /-- The higher the priority, the tighter the operator binds. -/
  priority : Nat
  side : Side
  apply : Rat → Rat → Except Fault Rat

namespace Operator

def add : Operator := ⟨'+', 1, .left, fun a b => .ok (a + b)⟩

def subtract : Operator := ⟨'-', 1, .left, fun a b => .ok (a - b)⟩

def multiply : Operator := ⟨'*', 2, .left, fun a b => .ok (a * b)⟩

def divide : Operator :=
  ⟨'/', 2, .left, fun a b => if b = 0 then .error .divisionByZero else .ok (a / b)⟩

def raise : Operator := ⟨'^', 3, .right, fun a b => (power a b).mapError .domain⟩

def standard : List Operator := [add, subtract, multiply, divide, raise]

def describe (op : Operator) : String :=
  "SpecOperateur \x7b symbole: " ++ String.ofList (Text.quote '\'' [op.symbol]) ++
    ", priorite: " ++ String.ofList (Number.digits op.priority) ++ ", assoc_droite: " ++
    (if op.side = .right then "true" else "false") ++ ", .. \x7d"

end Operator

structure Registry where
  operators : List Operator
  distinct : (operators.map Operator.symbol).Nodup

namespace Registry

def empty : Registry := ⟨[], List.nodup_nil⟩

def find? (registry : Registry) (symbol : Char) : Option Operator :=
  registry.operators.find? (·.symbol == symbol)

def insert (registry : Registry) (op : Operator) : Registry where
  operators := op :: registry.operators.filter (·.symbol != op.symbol)
  distinct := by
    simp only [List.map_cons, List.nodup_cons, List.mem_map, List.mem_filter]
    constructor
    · rintro ⟨other, ⟨_, hne⟩, heq⟩
      simp [heq] at hne
    · exact (List.filter_sublist.map _).nodup registry.distinct

def ofList (ops : List Operator) : Registry := ops.foldl insert empty

def standard : Registry := ofList Operator.standard

def size (registry : Registry) : Nat := registry.operators.length

/-- The operator of a symbol, or the fault that there is none. -/
def operator (registry : Registry) (symbol : Char) : Except Fault Operator :=
  match registry.find? symbol with
  | some op => .ok op
  | none => .error (.unknownOperator symbol)

theorem symbol_of_find? {registry : Registry} {symbol : Char} {op : Operator}
    (h : registry.find? symbol = some op) : op.symbol = symbol := by
  simpa using List.find?_some h

theorem find?_insert (registry : Registry) (op : Operator) (symbol : Char) :
    (registry.insert op).find? symbol =
      if op.symbol = symbol then some op else registry.find? symbol := by
  by_cases h : op.symbol = symbol
  · simp [find?, insert, h]
  · have hkeep : (fun other : Operator =>
        decide ((other.symbol != op.symbol) = true ∧ (other.symbol == symbol) = true)) =
        fun other => other.symbol == symbol := by
      funext other
      by_cases ho : other.symbol = symbol
      · simp [ho, Ne.symm h]
      · simp [ho]
    have hne : (op.symbol == symbol) = false := by simpa using h
    rw [if_neg h, find?, insert, List.find?_cons, hne, List.find?_filter, hkeep, find?]

theorem operator_eq_ok_iff {registry : Registry} {symbol : Char} {op : Operator} :
    registry.operator symbol = .ok op ↔ registry.find? symbol = some op := by
  cases h : registry.find? symbol <;> simp [operator, h]

theorem operator_eq_error_iff {registry : Registry} {symbol : Char} {fault : Fault} :
    registry.operator symbol = .error fault ↔
      registry.find? symbol = none ∧ fault = .unknownOperator symbol := by
  cases h : registry.find? symbol <;> simp [operator, h, eq_comm]

end Registry

end Reckoner
