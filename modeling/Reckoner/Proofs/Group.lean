import Reckoner.Proofs.Execution
import Reckoner.Proofs.Yard

/-! # Groups and their values

A group that has a value can be replaced by that value wherever it stands, even
among tokens that make no sense. What waits under its open parenthesis is not
touched from inside, its own tokens come out next to each other, and executing them
does not look below on the stack. -/

namespace Reckoner.Postfix
open Outcome

/-- What comes of tokens as they are written: their arrangement, then its value. -/
def outcome (calculator : Calculator) (tokens : List Token) : Except Fault Rat := do
  let arranged ← ofTokens calculator.registry tokens
  (value calculator arranged).outcome

def finish (registry : Registry) (yard : Yard) (tokens : List Token) :
    Except Fault (List Token) := do
  let last ← Yard.run registry yard tokens
  flush last.waiting last.placed

section Arranging
variable {registry : Registry}

theorem finish_append (yard : Yard) (first second : List Token) :
    finish registry yard (first ++ second) = (do
      let middle ← Yard.run registry yard first
      finish registry middle second) := by
  rw [finish, Yard.run_append, bind_assoc]
  rfl

theorem flush_placed (waiting first placed : List Token) :
    flush waiting (first ++ placed) = (flush waiting first).map (placed.reverse ++ ·) := by
  induction waiting generalizing first with
  | nil => simp [flush, Except.map]
  | cons top below ih =>
    cases top with
    | lparen => rfl
    | rparen => rfl
    | number value => exact ih (.number value :: first)
    | operator symbol => exact ih (.operator symbol :: first)
    | function name => exact ih (.function name :: first)

theorem finish_placed (yard : Yard) (placed tokens : List Token) :
    finish registry (yard.over ⟨[], placed⟩) tokens =
      (finish registry yard tokens).map (placed.reverse ++ ·) := by
  rw [finish, Yard.run_placed, finish]
  cases Yard.run registry yard tokens with
  | error fault => rfl
  | ok last =>
    simp only [Except.map, ok_bind, Yard.over, List.append_nil]
    exact flush_placed last.waiting last.placed placed

theorem placeFunction_placed (waiting placed : List Token) :
    placeFunction waiting placed = (placeFunction waiting []).over ⟨[], placed⟩ := by
  have hfence : Yard.Fenced ⟨[], placed⟩ := nofun
  simpa using hfence.placeFunction_over waiting []

/-- A group comes out as it does alone, with the function before it behind it. -/
theorem Yard.run_group_of_ofTokens {group arranged : List Token}
    (h : ofTokens registry group = .ok arranged) (yard : Yard) :
    Yard.run registry yard (Token.lparen :: group ++ [Token.rparen]) =
      .ok ((placeFunction yard.waiting []).over ⟨[], arranged.reverse ++ yard.placed⟩) := by
  obtain ⟨last, hrun, hflush⟩ := bind_eq_ok_iff.mp h
  obtain ⟨hclosed, rfl⟩ := flush_eq_ok_iff.mp hflush
  have hopen : Token.lparen ∉ last.waiting := fun hm => Bool.noConfusion (hclosed _ hm)
  have hfence : Yard.Fenced ⟨.lparen :: yard.waiting, yard.placed⟩ := by
    intro top htop
    cases htop
    rfl
  have hinside : Yard.run registry ⟨.lparen :: yard.waiting, yard.placed⟩ group =
      .ok ⟨last.waiting ++ Token.lparen :: yard.waiting, last.placed ++ yard.placed⟩ :=
    Yard.run_over hfence hrun
  rw [← placeFunction_placed]
  exact Yard.run_group hinside hopen

theorem ofTokens_group {before group arranged : List Token} {yard : Yard}
    (hbefore : Yard.run registry ⟨[], []⟩ before = .ok yard)
    (hgroup : ofTokens registry group = .ok arranged) (after : List Token) :
    ofTokens registry (before ++ [Token.lparen] ++ group ++ [Token.rparen] ++ after) =
      (finish registry (placeFunction yard.waiting []) after).map
        (yard.placed.reverse ++ arranged ++ ·) := by
  have hsplit : before ++ [Token.lparen] ++ group ++ [Token.rparen] ++ after =
      before ++ ((Token.lparen :: group ++ [Token.rparen]) ++ after) := by simp
  change finish registry ⟨[], []⟩ _ = _
  rw [hsplit, finish_append, hbefore, ok_bind, finish_append, Yard.run_group_of_ofTokens hgroup,
    ok_bind, finish_placed, List.reverse_append, List.reverse_reverse]

end Arranging

section Values
variable {calculator : Calculator}

theorem outcome_run_splice {middle : List Token} {v : Rat}
    (h : (value calculator middle).outcome = .ok v) (before after : List Token) :
    (run calculator [] (before ++ middle ++ after)).outcome =
      (run calculator [] (before ++ [Token.number v] ++ after)).outcome := by
  simp only [outcome_run_append]
  cases (run calculator [] before).outcome with
  | error fault => rfl
  | ok stack =>
    have hmiddle := outcome_run_above (outcome_value_eq_ok_iff.mp h) stack
    simp only [List.nil_append, List.cons_append] at hmiddle
    rw [ok_bind, hmiddle]
    rfl

theorem outcome_value_splice {middle : List Token} {v : Rat}
    (h : (value calculator middle).outcome = .ok v) (before after : List Token) :
    (value calculator (before ++ middle ++ after)).outcome =
      (value calculator (before ++ [Token.number v] ++ after)).outcome := by
  rw [value, Journaled.outcome_bind, outcome_run_splice h, ← Journaled.outcome_bind, value]

end Values

/-- A group that has a value can be replaced by that value in any context, which
comes to the same value or the same fault. -/
theorem outcome_group_eq_outcome_number {calculator : Calculator} {group arranged : List Token}
    {v : Rat} (hgroup : ofTokens calculator.registry group = .ok arranged)
    (hvalue : (value calculator arranged).outcome = .ok v) (before after : List Token) :
    outcome calculator (before ++ [Token.lparen] ++ group ++ [Token.rparen] ++ after) =
      outcome calculator (before ++ [Token.lparen, Token.number v, Token.rparen] ++ after) := by
  have hnumber : before ++ [Token.lparen, Token.number v, Token.rparen] ++ after =
      before ++ [Token.lparen] ++ [Token.number v] ++ [Token.rparen] ++ after := by simp
  rw [hnumber, outcome, outcome]
  cases hbefore : Yard.run calculator.registry ⟨[], []⟩ before with
  | error fault =>
    have hfault : ∀ rest, ofTokens calculator.registry (before ++ rest) = .error fault := by
      intro rest
      rw [ofTokens, Yard.run_append, hbefore]
      rfl
    simp only [List.append_assoc]
    rw [hfault, hfault]
  | ok yard =>
    have hsingle : ofTokens calculator.registry [.number v] = .ok [.number v] := rfl
    rw [ofTokens_group hbefore hgroup, ofTokens_group hbefore hsingle]
    cases finish calculator.registry (placeFunction yard.waiting []) after with
    | error fault => rfl
    | ok rest => exact outcome_value_splice hvalue yard.placed.reverse rest

theorem outcome_group_in_disorder :
    ofTokens Registry.standard [.number 6, .operator '-', .number 4] =
        .ok [.number 6, .number 4, .operator '-'] ∧
      (value .standard [.number 6, .number 4, .operator '-']).outcome = .ok 2 ∧
      outcome .standard [.operator '*', .function ['f'], .lparen, .number 6, .operator '-',
          .number 4, .rparen, .number 1, .operator '^'] =
        outcome .standard [.operator '*', .function ['f'], .lparen, .number 2, .rparen, .number 1,
          .operator '^'] := by
  have hgroup : ofTokens Registry.standard [.number 6, .operator '-', .number 4] =
      .ok [.number 6, .number 4, .operator '-'] := by decide +kernel
  have hvalue : (value .standard [.number 6, .number 4, .operator '-']).outcome = .ok 2 := by
    decide +kernel
  have hreplace := outcome_group_eq_outcome_number hgroup hvalue
    [Token.operator '*', Token.function ['f']] [Token.number 1, Token.operator '^']
  exact ⟨hgroup, hvalue, hreplace⟩

end Reckoner.Postfix
