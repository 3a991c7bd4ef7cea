import Reckoner.Expr
import Reckoner.Proofs.Numeral
import Reckoner.Proofs.Outcome

/-! # Phrases

What an entry says, as a tree over literals, literals with a minus, calls with their
names as they are written, and the five operations. Its value is defined by
itself: no registry, guard or stack has a part in it. The standard calculator gives
the expression of a phrase the same value. -/

namespace Reckoner
open Outcome

inductive Operation where
  | add
  | subtract
  | multiply
  | divide
  | raise
deriving DecidableEq

namespace Operation

def symbol : Operation → Char
  | add => '+'
  | subtract => '-'
  | multiply => '*'
  | divide => '/'
  | raise => '^'

def apply : Operation → Rat → Rat → Except Fault Rat
  | add, x, y => .ok (x + y)
  | subtract, x, y => .ok (x - y)
  | multiply, x, y => .ok (x * y)
  | divide, x, y => if y = 0 then .error .divisionByZero else .ok (x / y)
  | raise, x, y => (power x y).mapError .domain

def operator : Operation → Operator
  | add => .add
  | subtract => .subtract
  | multiply => .multiply
  | divide => .divide
  | raise => .raise

theorem find?_standard (operation : Operation) :
    Registry.standard.find? operation.symbol = some operation.operator := by
  cases operation <;> rfl

theorem apply_operator (operation : Operation) : operation.operator.apply = operation.apply := by
  cases operation <;> rfl

/-- The guard of the standard calculator refuses only what the division refuses
with the same fault. -/
theorem combine_standard (operation : Operation) (x y : Rat) :
    Calculator.standard.combine operation.symbol x y = operation.apply x y := by
  have happly : Calculator.standard.combine operation.symbol x y = (do
      Guard.checkAll [Guard.divisionByZero] operation.symbol x y
      operation.apply x y) := by
    rw [Calculator.combine, ← apply_operator]
    have hop := Registry.operator_eq_ok_iff.mpr operation.find?_standard
    simp only [Calculator.standard, hop, ok_bind]
    rfl
  rw [happly]
  cases operation with
  | divide => by_cases hy : y = 0 <;> simp [Guard.checkAll, Guard.divisionByZero, apply, symbol, hy]
  | _ => rfl

end Operation

inductive Phrase where
  | literal (numeral : Numeral)
  | negative (numeral : Numeral)
  | call (name : List Char) (argument : Phrase)
  | combine (operation : Operation) (left right : Phrase)

namespace Phrase

/-- The value of a function, whose name does not depend on case. -/
def callNamed (name : List Char) (x : Rat) : Except Fault Rat :=
  if Text.lowercase name = ['s', 'q', 'r', 't'] then
    (squareRoot x).mapError .domain
  else
    .error (.unknownFunction (Text.lowercase name))

def value : Phrase → Except Fault Rat
  | literal numeral => .ok numeral.value
  | negative numeral => .ok (-numeral.value)
  | call name argument => do
    let x ← argument.value
    callNamed name x
  | combine operation left right => do
    let x ← left.value
    let y ← right.value
    operation.apply x y

/-- The phrase and its parts in left-to-right postorder. -/
def nodes : Phrase → List Phrase
  | literal numeral => [literal numeral]
  | negative numeral => [negative numeral]
  | call name argument => argument.nodes ++ [call name argument]
  | combine operation left right =>
    left.nodes ++ right.nodes ++ [combine operation left right]

/-- The operands have values, and what is done with them fails. -/
def Fails : Phrase → Fault → Prop
  | literal _, _ => False
  | negative _, _ => False
  | call name argument, fault => ∃ x, argument.value = .ok x ∧ callNamed name x = .error fault
  | combine operation left right, fault =>
    ∃ x y, left.value = .ok x ∧ right.value = .ok y ∧ operation.apply x y = .error fault

def FirstFails (nodes : List Phrase) (fault : Fault) : Prop :=
  ∃ before node after, nodes = before ++ node :: after ∧
    (∀ earlier ∈ before, ∃ v, earlier.value = .ok v) ∧ node.Fails fault

theorem Fails.cases {phrase : Phrase} {fault : Fault} (h : phrase.Fails fault) :
    fault = .divisionByZero ∨ (∃ cause, fault = .domain cause) ∨
      ∃ name, fault = .unknownFunction (Text.lowercase name) := by
  cases phrase with
  | literal numeral => exact h.elim
  | negative numeral => exact h.elim
  | call name argument =>
    obtain ⟨x, _, hcall⟩ := h
    unfold callNamed at hcall
    split at hcall
    · obtain ⟨cause, _, hcause⟩ := mapError_eq_error_iff.mp hcall
      exact .inr (.inl ⟨cause, hcause.symm⟩)
    · cases hcall
      exact .inr (.inr ⟨name, rfl⟩)
  | combine operation left right =>
    obtain ⟨x, y, _, _, happly⟩ := h
    cases operation with
    | divide =>
      simp only [Operation.apply] at happly
      split at happly
      · cases happly
        exact .inl rfl
      · cases happly
    | raise =>
      obtain ⟨cause, _, hcause⟩ := mapError_eq_error_iff.mp happly
      exact .inr (.inl ⟨cause, hcause.symm⟩)
    | _ => cases happly

theorem FirstFails.append {nodes : List Phrase} {fault : Fault} (h : FirstFails nodes fault)
    (earlier later : List Phrase) (hearlier : ∀ node ∈ earlier, ∃ v, node.value = .ok v) :
    FirstFails (earlier ++ nodes ++ later) fault := by
  obtain ⟨before, node, after, rfl, hbefore, hnode⟩ := h
  refine ⟨earlier ++ before, node, after ++ later, by simp, ?_, hnode⟩
  exact List.forall_mem_append.mpr ⟨hearlier, hbefore⟩

theorem value_of_mem_nodes {phrase : Phrase} {v : Rat} (h : phrase.value = .ok v) :
    ∀ node ∈ phrase.nodes, ∃ w, node.value = .ok w := by
  induction phrase generalizing v with
  | literal numeral =>
    intro node hnode
    rw [List.mem_singleton.mp hnode]
    exact ⟨v, h⟩
  | negative numeral =>
    intro node hnode
    rw [List.mem_singleton.mp hnode]
    exact ⟨v, h⟩
  | call name argument ih =>
    obtain ⟨x, hx, _⟩ := bind_eq_ok_iff.mp h
    rw [nodes, List.forall_mem_append, List.forall_mem_singleton]
    exact ⟨ih hx, v, h⟩
  | combine operation left right ihl ihr =>
    obtain ⟨x, hx, hrest⟩ := bind_eq_ok_iff.mp h
    obtain ⟨y, hy, _⟩ := bind_eq_ok_iff.mp hrest
    rw [nodes, List.forall_mem_append, List.forall_mem_append, List.forall_mem_singleton]
    exact ⟨⟨ihl hx, ihr hy⟩, v, h⟩

/-- A phrase has no value because of its first part that fails. -/
theorem firstFails_of_value {phrase : Phrase} {fault : Fault} (h : phrase.value = .error fault) :
    FirstFails phrase.nodes fault := by
  induction phrase with
  | literal numeral => cases h
  | negative numeral => cases h
  | call name argument ih =>
    cases hx : argument.value with
    | error cause =>
      rw [value, hx] at h
      cases h
      exact (ih hx).append [] [call name argument] nofun
    | ok x =>
      rw [value, hx] at h
      exact ⟨argument.nodes, call name argument, [], rfl, value_of_mem_nodes hx, x, hx, h⟩
  | combine operation left right ihl ihr =>
    cases hx : left.value with
    | error cause =>
      rw [value, hx] at h
      cases h
      rw [nodes, List.append_assoc]
      exact (ihl hx).append [] (right.nodes ++ [combine operation left right]) nofun
    | ok x =>
      have hleft := value_of_mem_nodes hx
      cases hy : right.value with
      | error cause =>
        rw [value, hx, ok_bind, hy] at h
        cases h
        exact (ihr hy).append left.nodes [combine operation left right] hleft
      | ok y =>
        rw [value, hx, ok_bind, hy] at h
        have hboth := List.forall_mem_append.mpr ⟨hleft, value_of_mem_nodes hy⟩
        exact ⟨left.nodes ++ right.nodes, combine operation left right, [], rfl, hboth, x, y, hx,
          hy, h⟩

def expr : Phrase → Expr
  | literal numeral => .number numeral.value
  | negative numeral => .number (-numeral.value)
  | call name argument => .call (Text.lowercase name) argument.expr
  | combine operation left right => .combine operation.symbol left.expr right.expr

theorem value_expr (phrase : Phrase) :
    phrase.expr.value Calculator.standard = phrase.value := by
  induction phrase with
  | literal numeral => rfl
  | negative numeral => rfl
  | call name argument ih => rw [expr, Expr.value, ih, value]; rfl
  | combine operation left right ihl ihr =>
    rw [expr, Expr.value, ihl, ihr, value]
    simp only [Operation.combine_standard]

end Phrase

end Reckoner
