import Reckoner.Postfix.Value
import Reckoner.Proofs.Evaluation

/-! # Executing postfix tokens

Tokens are executed on a stack of values. What they leave there are the values of
the expressions whose postfix orders they spell one after another, and nothing
below is looked at. The first token that cannot be executed decides the fault. -/

namespace Reckoner.Postfix
open Outcome

section Outcomes
variable {calculator : Calculator}

theorem outcome_run (stack : List Rat) (tokens : List Token) :
    (run calculator stack tokens).outcome =
      tokens.foldlM (fun stack token => (execute calculator stack token).outcome) stack := by
  induction tokens generalizing stack with
  | nil => rfl
  | cons token tokens ih =>
    simp only [run, List.foldlM_cons] at ih ⊢
    rw [Journaled.outcome_bind]
    simp only [ih]

theorem outcome_run_append (stack : List Rat) (first second : List Token) :
    (run calculator stack (first ++ second)).outcome = (do
      let middle ← (run calculator stack first).outcome
      (run calculator middle second).outcome) := by
  rw [run_append, Journaled.outcome_bind]

theorem outcome_run_singleton (stack : List Rat) (token : Token) :
    (run calculator stack [token]).outcome = (execute calculator stack token).outcome := by
  rw [outcome_run, List.foldlM_cons]
  cases (execute calculator stack token).outcome <;> rfl

theorem outcome_execute_function (name : List Char) (x : Rat) (below : List Rat) :
    (execute calculator (x :: below) (.function name)).outcome =
      (Calculator.call name x).map (· :: below) := by
  rw [execute, Journaled.outcome_bind]
  change (Calculator.call name x >>= _) = _
  cases Calculator.call name x <;> rfl

theorem outcome_execute_operator (symbol : Char) (x y : Rat) (below : List Rat) :
    (execute calculator (y :: x :: below) (.operator symbol)).outcome =
      (calculator.combine symbol x y).map (· :: below) := by
  rw [execute, Journaled.outcome_bind]
  change (calculator.combine symbol x y >>= _) = _
  cases calculator.combine symbol x y <;> rfl

theorem outcome_execute_operator_of_length_lt {symbol : Char} {stack : List Rat}
    (h : stack.length < 2) :
    (execute calculator stack (.operator symbol)).outcome =
      .error (.missingOperand (.operator symbol)) := by
  match stack, h with
  | [], _ => rfl
  | [_], _ => rfl

theorem outcome_execute_of_isParenthesis {token : Token} (h : token.isParenthesis = true)
    (stack : List Rat) : (execute calculator stack token).outcome = .error .invalidExpression := by
  cases token <;> first | rfl | cases h

theorem outcome_execute_eq_ok {stack reached : List Rat} {token : Token}
    (h : (execute calculator stack token).outcome = .ok reached) :
    (∃ v, token = .number v ∧ reached = v :: stack) ∨
      (∃ name x v below, token = .function name ∧ stack = x :: below ∧
        Calculator.call name x = .ok v ∧ reached = v :: below) ∨
      ∃ symbol x y v below, token = .operator symbol ∧ stack = y :: x :: below ∧
        calculator.combine symbol x y = .ok v ∧ reached = v :: below := by
  cases token with
  | number v =>
    cases h
    exact .inl ⟨v, rfl, rfl⟩
  | lparen => cases h
  | rparen => cases h
  | function name =>
    cases stack with
    | nil => cases h
    | cons x below =>
      rw [outcome_execute_function, map_eq_ok_iff] at h
      obtain ⟨v, hv, rfl⟩ := h
      exact .inr (.inl ⟨name, x, v, below, rfl, rfl, hv, rfl⟩)
  | operator symbol =>
    match stack with
    | [] => cases h
    | [_] => cases h
    | y :: x :: below =>
      rw [outcome_execute_operator, map_eq_ok_iff] at h
      obtain ⟨v, hv, rfl⟩ := h
      exact .inr (.inr ⟨symbol, x, y, v, below, rfl, rfl, hv, rfl⟩)

theorem outcome_run_postorder (e : Expr) (stack : List Rat) :
    (run calculator stack e.postorder).outcome = (e.value calculator).map (· :: stack) := by
  induction e generalizing stack with
  | number value => rfl
  | call name argument ih =>
    rw [Expr.postorder, outcome_run_append, ih, Expr.value]
    cases argument.value calculator with
    | error fault => rfl
    | ok x =>
      simp only [Except.map, ok_bind]
      rw [outcome_run_singleton, outcome_execute_function]
      rfl
  | combine symbol left right ihl ihr =>
    rw [Expr.postorder, outcome_run_append, outcome_run_append, ihl, Expr.value]
    cases left.value calculator with
    | error fault => rfl
    | ok x =>
      simp only [Except.map, ok_bind]
      rw [ihr]
      cases right.value calculator with
      | error fault => rfl
      | ok y =>
        simp only [Except.map, ok_bind]
        rw [outcome_run_singleton, outcome_execute_operator]
        rfl

theorem outcome_execute_above {stack reached : List Rat} {token : Token}
    (h : (execute calculator stack token).outcome = .ok reached) (below : List Rat) :
    (execute calculator (stack ++ below) token).outcome = .ok (reached ++ below) := by
  rcases outcome_execute_eq_ok h with ⟨v, rfl, rfl⟩ | ⟨name, x, v, rest, rfl, rfl, hv, rfl⟩ |
    ⟨symbol, x, y, v, rest, rfl, rfl, hv, rfl⟩
  · rfl
  · rw [List.cons_append, outcome_execute_function, hv]
    rfl
  · rw [List.cons_append, List.cons_append, outcome_execute_operator, hv]
    rfl

/-- A run that succeeds does not look at the stack below the values it uses. -/
theorem outcome_run_above {tokens : List Token} {stack reached : List Rat}
    (h : (run calculator stack tokens).outcome = .ok reached) (below : List Rat) :
    (run calculator (stack ++ below) tokens).outcome = .ok (reached ++ below) := by
  induction tokens generalizing stack with
  | nil => cases h; rfl
  | cons token tokens ih =>
    rw [outcome_run, List.foldlM_cons] at h ⊢
    obtain ⟨middle, hstep, hrest⟩ := bind_eq_ok_iff.mp h
    rw [← outcome_run] at hrest
    rw [outcome_execute_above hstep below, ok_bind, ← outcome_run]
    exact ih hrest

theorem outcome_value_eq_ok_iff {tokens : List Token} {v : Rat} :
    (value calculator tokens).outcome = .ok v ↔ (run calculator [] tokens).outcome = .ok [v] := by
  rw [value, Journaled.outcome_bind]
  cases (run calculator [] tokens).outcome with
  | error fault => simp
  | ok stack =>
    match stack with
    | [] => simp [Journaled.fault]
    | [w] => simp
    | _ :: _ :: _ => simp [Journaled.fault]

theorem outcome_value_eq_error_iff {tokens : List Token} {fault : Fault} :
    (value calculator tokens).outcome = .error fault ↔
      (run calculator [] tokens).outcome = .error fault ∨
        ∃ stack, (run calculator [] tokens).outcome = .ok stack ∧ stack.length ≠ 1 ∧
          fault = .invalidExpression := by
  rw [value, Journaled.outcome_bind]
  cases (run calculator [] tokens).outcome with
  | error fault => simp
  | ok stack =>
    match stack with
    | [] => simp [Journaled.fault, eq_comm]
    | [w] => simp
    | _ :: _ :: _ => simp [Journaled.fault, eq_comm]

end Outcomes

/-- The tokens spell expressions one after another, whose values they leave on the
stack. -/
inductive Leaves (calculator : Calculator) : List Token → List Rat → Prop where
  | nil : Leaves calculator [] []
  | expression {before : List Token} {stack : List Rat} {e : Expr} {v : Rat}
      (h : Leaves calculator before stack) (he : Evaluates calculator e (.ok v)) :
      Leaves calculator (before ++ e.postorder) (v :: stack)

/-- The fault of the first token that cannot be executed, or else the fault that
what is left is not a single value. -/
inductive FirstFault (calculator : Calculator) : List Token → Fault → Prop where
  -- Whatever has been executed leaves a value, so only the first token can lack one.
  | noArgument (name : List Char) (after : List Token) :
      FirstFault calculator (.function name :: after) (.missingOperand (.function name))
  | function {before : List Token} {stack : List Rat} {x : Rat} {name : List Char}
      {fault : Fault} (h : Leaves calculator before (x :: stack))
      (hcall : Calculator.call name x = .error fault) (after : List Token) :
      FirstFault calculator (before ++ Token.function name :: after) fault
  | fewOperands {before : List Token} {stack : List Rat} (symbol : Char)
      (h : Leaves calculator before stack) (hlength : stack.length < 2) (after : List Token) :
      FirstFault calculator (before ++ Token.operator symbol :: after)
        (.missingOperand (.operator symbol))
  | operator {before : List Token} {stack : List Rat} {x y : Rat} {symbol : Char}
      {fault : Fault} (h : Leaves calculator before (y :: x :: stack))
      (hcombine : Combines calculator symbol x y (.error fault)) (after : List Token) :
      FirstFault calculator (before ++ Token.operator symbol :: after) fault
  | parenthesis {before : List Token} {stack : List Rat} {token : Token}
      (h : Leaves calculator before stack) (htoken : token.isParenthesis = true)
      (after : List Token) :
      FirstFault calculator (before ++ token :: after) .invalidExpression
  | leftover {tokens : List Token} {stack : List Rat} (h : Leaves calculator tokens stack)
      (hlength : stack.length ≠ 1) : FirstFault calculator tokens .invalidExpression

section Spelling
variable {calculator : Calculator}

theorem Leaves.eq_nil {tokens : List Token} (h : Leaves calculator tokens []) : tokens = [] := by
  cases h
  rfl

theorem Leaves.eq_append {tokens : List Token} {v : Rat} {stack : List Rat}
    (h : Leaves calculator tokens (v :: stack)) :
    ∃ (before : List Token) (e : Expr), tokens = before ++ e.postorder ∧
      Leaves calculator before stack ∧ Evaluates calculator e (.ok v) := by
  cases h with
  | expression h he => exact ⟨_, _, rfl, h, he⟩

theorem Leaves.outcome_run {tokens : List Token} {stack : List Rat}
    (h : Leaves calculator tokens stack) :
    (run calculator [] tokens).outcome = .ok stack := by
  induction h with
  | nil => rfl
  | expression _ he ih =>
    rw [outcome_run_append, ih, ok_bind, outcome_run_postorder, evaluates_iff.mp he]
    rfl

theorem Leaves.execute {before : List Token} {stack reached : List Rat} {token : Token}
    (h : Leaves calculator before stack)
    (hexecute : (execute calculator stack token).outcome = .ok reached) :
    Leaves calculator (before ++ [token]) reached := by
  rcases outcome_execute_eq_ok hexecute with ⟨v, rfl, rfl⟩ |
    ⟨name, x, v, below, rfl, rfl, hv, rfl⟩ | ⟨symbol, x, y, v, below, rfl, rfl, hv, rfl⟩
  · exact .expression h (.number v)
  · obtain ⟨rest, argument, rfl, hrest, hargument⟩ := h.eq_append
    have he : Evaluates calculator (.call name argument) (.ok v) := hv ▸ .call name hargument
    rw [List.append_assoc]
    exact .expression hrest he
  · obtain ⟨upper, right, rfl, hupper, hright⟩ := h.eq_append
    obtain ⟨rest, left, rfl, hrest, hleft⟩ := hupper.eq_append
    have he : Evaluates calculator (.combine symbol left right) (.ok v) :=
      .combine hleft hright (combines_iff.mpr hv)
    rw [List.append_assoc, List.append_assoc, ← List.append_assoc left.postorder]
    exact .expression hrest he

theorem Leaves.run {before tokens : List Token} {stack reached : List Rat}
    (h : Leaves calculator before stack)
    (hrun : (Postfix.run calculator stack tokens).outcome = .ok reached) :
    Leaves calculator (before ++ tokens) reached := by
  induction tokens generalizing before stack with
  | nil =>
    cases hrun
    rwa [List.append_nil]
  | cons token tokens ih =>
    rw [Postfix.outcome_run, List.foldlM_cons] at hrun
    obtain ⟨middle, hstep, hrest⟩ := bind_eq_ok_iff.mp hrun
    rw [← Postfix.outcome_run] at hrest
    rw [List.append_cons]
    exact ih (h.execute hstep) hrest

theorem outcome_run_eq_ok_iff {tokens : List Token} {stack : List Rat} :
    (run calculator [] tokens).outcome = .ok stack ↔ Leaves calculator tokens stack :=
  ⟨Leaves.nil.run, Leaves.outcome_run⟩

theorem Leaves.firstFault {before after : List Token} {stack : List Rat} {token : Token}
    {fault : Fault} (h : Leaves calculator before stack)
    (hexecute : (Postfix.execute calculator stack token).outcome = .error fault) :
    FirstFault calculator (before ++ token :: after) fault := by
  cases token with
  | number value => cases hexecute
  | lparen => cases hexecute; exact .parenthesis h rfl after
  | rparen => cases hexecute; exact .parenthesis h rfl after
  | function name =>
    cases stack with
    | nil =>
      cases hexecute
      rw [h.eq_nil]
      exact .noArgument name after
    | cons x below =>
      rw [outcome_execute_function] at hexecute
      cases hcall : Calculator.call name x with
      | ok v => rw [hcall] at hexecute; cases hexecute
      | error other =>
        rw [hcall] at hexecute
        cases hexecute
        exact .function h hcall after
  | operator symbol =>
    match stack with
    | [] => cases hexecute; exact .fewOperands symbol h (by simp) after
    | [_] => cases hexecute; exact .fewOperands symbol h (by simp) after
    | y :: x :: below =>
      rw [outcome_execute_operator] at hexecute
      cases hcombine : calculator.combine symbol x y with
      | ok v => rw [hcombine] at hexecute; cases hexecute
      | error other =>
        rw [hcombine] at hexecute
        cases hexecute
        exact .operator h (combines_iff.mpr hcombine) after

theorem outcome_value_eq_error_of_execute {before after : List Token} {stack : List Rat}
    {token : Token} {fault : Fault} (h : Leaves calculator before stack)
    (hexecute : (Postfix.execute calculator stack token).outcome = .error fault) :
    (value calculator (before ++ token :: after)).outcome = .error fault := by
  refine outcome_value_eq_error_iff.mpr (.inl ?_)
  rw [outcome_run]
  exact foldlM_append_cons_of_error (outcome_run [] before ▸ h.outcome_run) hexecute

theorem outcome_value_eq_error_iff_firstFault {tokens : List Token} {fault : Fault} :
    (value calculator tokens).outcome = .error fault ↔ FirstFault calculator tokens fault := by
  constructor
  · intro h
    rcases outcome_value_eq_error_iff.mp h with hrun | ⟨stack, hrun, hlength, rfl⟩
    · rw [outcome_run] at hrun
      obtain ⟨before, token, after, stack, rfl, hbefore, hexecute⟩ := foldlM_eq_error_iff.mp hrun
      rw [← outcome_run] at hbefore
      exact (outcome_run_eq_ok_iff.mp hbefore).firstFault hexecute
    · exact .leftover (outcome_run_eq_ok_iff.mp hrun) hlength
  · intro h
    cases h with
    | noArgument name after => exact outcome_value_eq_error_of_execute .nil rfl
    | function h hcall after =>
      refine outcome_value_eq_error_of_execute h ?_
      rw [outcome_execute_function, hcall]
      rfl
    | fewOperands symbol h hlength after =>
      exact outcome_value_eq_error_of_execute h (outcome_execute_operator_of_length_lt hlength)
    | operator h hcombine after =>
      refine outcome_value_eq_error_of_execute h ?_
      rw [outcome_execute_operator, combines_iff.mp hcombine]
      rfl
    | parenthesis h htoken after =>
      exact outcome_value_eq_error_of_execute h (outcome_execute_of_isParenthesis htoken _)
    | leftover h hlength =>
      exact outcome_value_eq_error_iff.mpr (.inr ⟨_, h.outcome_run, hlength, rfl⟩)

theorem outcome_value_postorder (e : Expr) :
    (value calculator e.postorder).outcome = e.value calculator := by
  have hrun : (run calculator [] e.postorder).outcome = (e.value calculator).map (· :: []) :=
    outcome_run_postorder e []
  cases he : e.value calculator with
  | ok v =>
    rw [he] at hrun
    exact outcome_value_eq_ok_iff.mpr hrun
  | error fault =>
    rw [he] at hrun
    exact outcome_value_eq_error_iff.mpr (.inl hrun)

/-- Tokens that have a value are the postfix order of an expression that has it. -/
theorem exists_expr_of_value {tokens : List Token} {v : Rat}
    (h : (value calculator tokens).outcome = .ok v) :
    ∃ e : Expr, e.postorder = tokens ∧ Evaluates calculator e (.ok v) := by
  have hleaves := outcome_run_eq_ok_iff.mp (outcome_value_eq_ok_iff.mp h)
  obtain ⟨before, e, rfl, hbefore, he⟩ := hleaves.eq_append
  exact ⟨e, by rw [hbefore.eq_nil, List.nil_append], he⟩

end Spelling

/-- Postfix tokens have a value exactly if they are the postfix order of an
expression, which is then the only one, and it has that value. They share the fault
of an expression. Tokens that spell none have the fault of the first of them that
cannot be executed. -/
theorem outcome_value_by_expression (calculator : Calculator) (tokens : List Token) :
    (∀ v, (value calculator tokens).outcome = .ok v ↔
      ∃ e : Expr, e.postorder = tokens ∧ Evaluates calculator e (.ok v) ∧
        ∀ other : Expr, other.postorder = tokens → other = e) ∧
    (∀ (e : Expr) (fault : Fault), e.postorder = tokens →
      Evaluates calculator e (.error fault) →
      (value calculator tokens).outcome = .error fault) ∧
    ((∀ e : Expr, e.postorder ≠ tokens) →
      (∃ fault, (value calculator tokens).outcome = .error fault) ∧
      ∀ fault, (value calculator tokens).outcome = .error fault ↔
        FirstFault calculator tokens fault) := by
  refine ⟨fun v => ⟨fun h => ?_, ?_⟩, ?_, fun hnone => ⟨?_, fun fault => ?_⟩⟩
  · obtain ⟨e, rfl, he⟩ := exists_expr_of_value h
    exact ⟨e, rfl, he, fun other h => Expr.postorder_injective h⟩
  · rintro ⟨e, rfl, he, _⟩
    rw [outcome_value_postorder, evaluates_iff.mp he]
  · rintro e fault rfl he
    rw [outcome_value_postorder, evaluates_iff.mp he]
  · cases h : (value calculator tokens).outcome with
    | error fault => exact ⟨fault, rfl⟩
    | ok v =>
      obtain ⟨e, he, _⟩ := exists_expr_of_value h
      exact absurd he (hnone e)
  · exact outcome_value_eq_error_iff_firstFault

/-- An operator that finds too few values is the fault, even if it is unknown. -/
theorem outcome_value_missing_operand :
    (∀ e : Expr, e.postorder ≠ [.number 2, .operator '?']) ∧
      (value .standard [.number 2, .operator '?']).outcome =
        .error (.missingOperand (.operator '?')) := by
  have hnone : ∀ e : Expr, e.postorder ≠ [.number 2, .operator '?'] := by
    intro e h
    cases e with
    | number value => cases h
    | call name argument =>
      have hsplit : argument.postorder ++ [Token.function name] =
          [Token.number 2] ++ [Token.operator '?'] := h
      cases (List.append_inj' hsplit rfl).2
    | combine symbol left right =>
      have hsplit : (left.postorder ++ right.postorder) ++ [Token.operator symbol] =
          [Token.number 2] ++ [Token.operator '?'] := h
      have hlength := congrArg List.length (List.append_inj' hsplit rfl).1
      have hleft := List.length_pos_iff.mpr left.postorder_ne_nil
      have hright := List.length_pos_iff.mpr right.postorder_ne_nil
      rw [List.length_append, List.length_singleton] at hlength
      omega
  have hleaves : Leaves .standard ([] ++ [Token.number 2]) [2] := .expression .nil (.number 2)
  have hfirst : FirstFault .standard [.number 2, .operator '?'] (.missingOperand (.operator '?')) :=
    .fewOperands '?' hleaves (by decide) []
  have hfault := (outcome_value_by_expression .standard [.number 2, .operator '?']).2.2 hnone
  exact ⟨hnone, (hfault.2 _).mpr hfirst⟩

end Reckoner.Postfix
