import Reckoner.Proofs.Balance
import Reckoner.Proofs.Entry

/-! # Faults have words

Whatever the calculator finds wrong itself it has words for. Only a guard or an operator
can refuse for a reason that is empty, so where none of them does, no entry is refused
without words. -/

namespace Reckoner
open Outcome

theorem append_ne_empty {first : String} (h : first ≠ "") (second : String) :
    first ++ second ≠ "" := by
  intro hempty
  exact h (String.append_eq_empty_iff.mp hempty).1

/-- Only the reason that a guard or an operator has of its own can be empty. -/
theorem Fault.message_eq_empty_iff {fault : Fault} :
    fault.message = "" ↔ fault = .domain (.refused "") := by
  constructor
  · intro h
    by_contra hother
    revert h
    cases fault with
    | lexical cause =>
      cases cause with
      | invalidCharacter c => exact append_ne_empty (append_ne_empty (by decide) _) _
      | _ => decide
    | missingOperand applied => exact append_ne_empty (append_ne_empty (by decide) _) _
    | unknownOperator symbol => exact append_ne_empty (by decide) _
    | unknownFunction name => exact append_ne_empty (by decide) _
    | domain cause =>
      cases cause with
      | unrepresentablePower base exponent =>
        exact append_ne_empty (append_ne_empty (append_ne_empty (by decide) _) _) _
      | refused reason =>
        intro hreason
        exact hother (congrArg (fun text => Fault.domain (.refused text)) hreason)
      | _ => decide
    | _ => decide
  · intro h
    rw [h]
    rfl

theorem Fault.message_ne_empty {fault : Fault} (h : ∀ reason, fault ≠ .domain (.refused reason)) :
    fault.message ≠ "" := by
  intro hempty
  exact h "" (message_eq_empty_iff.mp hempty)

theorem squareRoot_eq_error {x : Rat} {cause : DomainFault} (h : squareRoot x = .error cause) :
    cause = .rootOfNegative ∨ cause = .beyondBinary64 := by
  unfold squareRoot at h
  split at h
  · cases h
    exact .inl rfl
  · split at h
    · cases h
    · split at h
      · cases h
        exact .inr rfl
      · cases h

theorem power_eq_error {base exponent : Rat} {cause : DomainFault}
    (h : power base exponent = .error cause) :
    cause = .zeroToNegativePower ∨ cause = .beyondBinary64 ∨
      cause = .unrepresentablePower base exponent := by
  unfold power at h
  split at h
  · split at h
    · cases h
      exact .inl rfl
    · cases h
  · unfold approximatePower at h
    split at h
    · split at h
      · cases h
      · cases h
        exact .inr (.inr rfl)
    · cases h
      exact .inr (.inl rfl)

namespace Calculator

/-- No guard and no operator refuses without words. -/
structure GivesReasons (calculator : Calculator) : Prop where
  guards : ∀ guard ∈ calculator.guards, ∀ symbol x y fault,
    guard symbol x y = .error fault → fault.message ≠ ""
  operators : ∀ op ∈ calculator.registry.operators, ∀ x y fault,
    op.apply x y = .error fault → fault.message ≠ ""

theorem givesReasons_standard : standard.GivesReasons where
  guards := by
    intro guard hguard symbol x y fault h
    rw [List.mem_singleton.mp hguard, Guard.divisionByZero] at h
    split at h
    · cases h
      exact Fault.message_ne_empty (by simp)
    · cases h
  operators := by
    intro op hop x y fault h
    have hstandard : Registry.standard.operators = Operator.standard.reverse := rfl
    rw [standard, hstandard, List.mem_reverse] at hop
    simp only [Operator.standard, List.mem_cons, List.not_mem_nil, or_false] at hop
    apply Fault.message_ne_empty
    rcases hop with rfl | rfl | rfl | rfl | rfl
    · cases h
    · cases h
    · cases h
    · simp only [Operator.divide] at h
      split at h
      · cases h
        simp
      · cases h
    · obtain ⟨cause, hcause, rfl⟩ := mapError_eq_error_iff.mp h
      rcases power_eq_error hcause with rfl | rfl | rfl <;> simp

section Faults
variable {calculator : Calculator} {fault : Fault}

theorem message_of_call {name : List Char} {x : Rat} (h : call name x = .error fault) :
    fault.message ≠ "" := by
  apply Fault.message_ne_empty
  unfold call at h
  split at h
  · obtain ⟨cause, hcause, rfl⟩ := mapError_eq_error_iff.mp h
    rcases squareRoot_eq_error hcause with rfl | rfl <;> simp
  · cases h
    simp

theorem GivesReasons.combine (h : calculator.GivesReasons) {symbol : Char} {x y : Rat}
    (hfault : Combines calculator symbol x y (.error fault)) : fault.message ≠ "" := by
  generalize houtcome : Except.error fault = outcome at hfault
  cases hfault with
  | refused hguards _ hguard =>
    cases houtcome
    exact h.guards _ (by simp [hguards]) symbol x y fault hguard
  | unknown =>
    cases houtcome
    exact Fault.message_ne_empty (by simp)
  | applied _ hop => exact h.operators _ (List.mem_of_find?_eq_some hop) x y fault houtcome.symm

theorem GivesReasons.firstFault (h : calculator.GivesReasons) {tokens : List Token}
    (hfault : Postfix.FirstFault calculator tokens fault) : fault.message ≠ "" := by
  cases hfault with
  | function _ hcall => exact message_of_call hcall
  | operator _ hcombine => exact h.combine hcombine
  | _ => exact Fault.message_ne_empty (by simp)

theorem message_of_syntaxFault {registry : Registry} {tokens : List Token}
    (h : Postfix.SyntaxFault registry tokens fault) : fault.message ≠ "" := by
  cases h with
  | misplaced _ h => cases h <;> exact Fault.message_ne_empty (by simp)
  | leftOpen => exact Fault.message_ne_empty (by simp)

theorem GivesReasons.work (h : calculator.GivesReasons) {entry : List Char}
    (hfault : (calculator.work entry).outcome = .error fault) : fault.message ≠ "" := by
  rw [outcome_work] at hfault
  split at hfault
  · cases hfault
    exact Fault.message_ne_empty (by simp)
  · rcases bind_eq_error_iff.mp hfault with hscan | ⟨tokens, _, hfault⟩
    · obtain ⟨cause, _, rfl⟩ := mapError_eq_error_iff.mp hscan
      exact Fault.message_ne_empty (by simp)
    · rcases bind_eq_error_iff.mp hfault with harrange | ⟨arranged, _, hfault⟩
      · exact message_of_syntaxFault (Postfix.ofTokens_eq_error_iff.mp harrange)
      · rcases bind_eq_error_iff.mp hfault with hvalue | ⟨v, _, hfault⟩
        · exact h.firstFault (Postfix.outcome_value_eq_error_iff_firstFault.mp hvalue)
        · cases hfault

end Faults

end Calculator

end Reckoner
