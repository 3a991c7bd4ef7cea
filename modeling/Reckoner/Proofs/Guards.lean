import Reckoner.Proofs.Balance
import Reckoner.Proofs.Entry

/-! # What guards leave as it is

A calculator is asked for the value of an operation in one place only, and only for
symbols that have an operator: an entry with any other symbol has been refused before.
Two calculators that agree there work alike on every entry, notes and all. So a guard
that refuses what the operator refuses too, with the same fault, can be left out. -/

namespace Reckoner
open Outcome

theorem Guard.checkAll_append (first second : List Guard) (symbol : Char) (x y : Rat) :
    Guard.checkAll (first ++ second) symbol x y = (do
      Guard.checkAll first symbol x y
      Guard.checkAll second symbol x y) := by
  simp only [Guard.checkAll_eq_foldlM, List.foldlM_append]

namespace Calculator

/-- Two calculators know the same operators and give the same for every operation whose
symbol has one. -/
structure SameOperations (c d : Calculator) : Prop where
  registry : c.registry = d.registry
  combine : ∀ symbol op, c.registry.find? symbol = some op →
    ∀ x y, c.combine symbol x y = d.combine symbol x y

end Calculator

namespace Postfix
variable {c d : Calculator}

theorem execute_congr (h : c.SameOperations d) {token : Token}
    (htoken : Placeable c.registry token) (stack : List Rat) :
    execute c stack token = execute d stack token := by
  cases token with
  | operator symbol =>
    obtain ⟨op, hop⟩ := htoken.known symbol rfl
    simp only [execute, h.combine symbol op hop]
  | _ => rfl

theorem run_congr (h : c.SameOperations d) {tokens : List Token}
    (htokens : ∀ t ∈ tokens, Placeable c.registry t) (stack : List Rat) :
    run c stack tokens = run d stack tokens := by
  induction tokens generalizing stack with
  | nil => rfl
  | cons token tokens ih =>
    obtain ⟨htoken, hrest⟩ := List.forall_mem_cons.mp htokens
    have hnext : (fun next => run c next tokens) = fun next => run d next tokens :=
      funext (ih hrest)
    simp only [run, List.foldlM_cons] at hnext ⊢
    rw [execute_congr h htoken, hnext]

theorem value_congr (h : c.SameOperations d) {tokens : List Token}
    (htokens : ∀ t ∈ tokens, Placeable c.registry t) : value c tokens = value d tokens := by
  rw [value, run_congr h htokens, value]

end Postfix

namespace Calculator
variable {c d : Calculator}

theorem work_congr (h : c.SameOperations d) (entry : List Char) : c.work entry = d.work entry := by
  rw [work, work, ← h.registry]
  split
  · rfl
  · rename_i text _
    refine Journaled.bind_congr fun tokens _ => ?_
    refine Journaled.bind_congr fun arranged harranged => ?_
    rw [outcome_arrange] at harranged
    -- No symbol without an operator has come through the arrangement.
    rw [Postfix.value_congr h (Postfix.placeable_of_ofTokens harranged)]

end Calculator

/-- Whatever operator divides in this registry, it does so as the standard one. -/
def Registry.DividesAsStandard (registry : Registry) : Prop :=
  ∀ op, registry.find? '/' = some op → op.apply = Operator.divide.apply

namespace Calculator
variable {registry : Registry}

theorem combine_append_divisionByZero (hdivide : registry.DividesAsStandard)
    (guards : List Guard) {symbol : Char} {op : Operator}
    (hop : registry.find? symbol = some op) (x y : Rat) :
    combine ⟨registry, guards ++ [Guard.divisionByZero]⟩ symbol x y =
      combine ⟨registry, guards⟩ symbol x y := by
  rw [combine, combine, Guard.checkAll_append]
  cases Guard.checkAll guards symbol x y with
  | error fault => rfl
  | ok =>
    rw [ok_bind, ok_bind, Registry.operator_eq_ok_iff.mpr hop, ok_bind, Guard.checkAll,
      Guard.divisionByZero]
    by_cases hzero : symbol = '/' ∧ y = 0
    · obtain ⟨rfl, rfl⟩ := hzero
      rw [hdivide op hop]
      rfl
    · rw [if_neg hzero]
      rfl

theorem sameOperations_append_divisionByZero (hdivide : registry.DividesAsStandard)
    (guards : List Guard) :
    SameOperations ⟨registry, guards ++ [Guard.divisionByZero]⟩ ⟨registry, guards⟩ where
  registry := rfl
  combine := fun _ _ hop => combine_append_divisionByZero hdivide guards hop

/-- Where division is the standard one or missing, the guard against division by zero,
asked after all others, changes nothing: neither the value of an entry, nor how it is
found, nor the fault, nor what is noted. -/
theorem work_append_divisionByZero (hdivide : registry.DividesAsStandard)
    (guards : List Guard) (entry : List Char) :
    work ⟨registry, guards ++ [Guard.divisionByZero]⟩ entry = work ⟨registry, guards⟩ entry :=
  work_congr (sameOperations_append_divisionByZero hdivide guards) entry

/-- Division that binds least and groups on the right, and no division at all. -/
theorem work_append_divisionByZero_regrouped :
    (Registry.standard.insert ⟨'/', 0, .right, Operator.divide.apply⟩).DividesAsStandard ∧
      (work ⟨Registry.standard.insert ⟨'/', 0, .right, Operator.divide.apply⟩,
        [] ++ [Guard.divisionByZero]⟩ ['1', '/', '2', '-', '2']).outcome =
          .error .divisionByZero ∧
      Registry.empty.DividesAsStandard ∧
      (work ⟨Registry.empty, [] ++ [Guard.divisionByZero]⟩ ['1', '/', '0']).outcome =
        .error (.unknownOperator '/') := by
  have hregrouped :
      (Registry.standard.insert ⟨'/', 0, .right, Operator.divide.apply⟩).DividesAsStandard := by
    intro op hop
    rw [Registry.find?_insert, if_pos rfl] at hop
    cases hop
    rfl
  have hmissing : Registry.empty.DividesAsStandard := by
    intro op hop
    cases hop
  refine ⟨hregrouped, ?_, hmissing, ?_⟩
  · rw [work_append_divisionByZero hregrouped]
    decide +kernel
  · rw [work_append_divisionByZero hmissing]
    decide +kernel

end Calculator

end Reckoner
