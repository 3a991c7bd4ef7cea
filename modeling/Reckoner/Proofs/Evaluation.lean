import Reckoner.Expr
import Reckoner.Proofs.Outcome

/-! # Evaluation as rules

The outcome of an expression as a relation with one rule for each way in which a
node can come out, and the uniqueness of the expression behind a postfix order. -/

namespace Reckoner
open Outcome

/-- How an operation comes out: all guards are asked in order, then the symbol is
looked up, then its operator is applied. -/
inductive Combines (calculator : Calculator) (symbol : Char) (x y : Rat) :
    Except Fault Rat → Prop where
  | refused {passed rest : List Guard} {guard : Guard} {fault : Fault}
      (hguards : calculator.guards = passed ++ guard :: rest)
      (hpassed : ∀ g ∈ passed, g symbol x y = .ok ())
      (hguard : guard symbol x y = .error fault) : Combines calculator symbol x y (.error fault)
  | unknown (hguards : ∀ g ∈ calculator.guards, g symbol x y = .ok ())
      (hnone : calculator.registry.find? symbol = none) :
      Combines calculator symbol x y (.error (.unknownOperator symbol))
  | applied {op : Operator} (hguards : ∀ g ∈ calculator.guards, g symbol x y = .ok ())
      (hop : calculator.registry.find? symbol = some op) :
      Combines calculator symbol x y (op.apply x y)

inductive Evaluates (calculator : Calculator) : Expr → Except Fault Rat → Prop where
  | number (value : Rat) : Evaluates calculator (.number value) (.ok value)
  | argument (name : List Char) {argument : Expr} {fault : Fault}
      (h : Evaluates calculator argument (.error fault)) :
      Evaluates calculator (.call name argument) (.error fault)
  | call (name : List Char) {argument : Expr} {x : Rat}
      (h : Evaluates calculator argument (.ok x)) :
      Evaluates calculator (.call name argument) (Calculator.call name x)
  | left (symbol : Char) {left : Expr} (right : Expr) {fault : Fault}
      (h : Evaluates calculator left (.error fault)) :
      Evaluates calculator (.combine symbol left right) (.error fault)
  | right (symbol : Char) {left right : Expr} {x : Rat} {fault : Fault}
      (hleft : Evaluates calculator left (.ok x))
      (hright : Evaluates calculator right (.error fault)) :
      Evaluates calculator (.combine symbol left right) (.error fault)
  | combine {symbol : Char} {left right : Expr} {x y : Rat} {outcome : Except Fault Rat}
      (hleft : Evaluates calculator left (.ok x)) (hright : Evaluates calculator right (.ok y))
      (h : Combines calculator symbol x y outcome) :
      Evaluates calculator (.combine symbol left right) outcome

theorem Guard.checkAll_eq_foldlM (guards : List Guard) (symbol : Char) (x y : Rat) :
    Guard.checkAll guards symbol x y = guards.foldlM (fun _ guard => guard symbol x y) () := by
  induction guards with
  | nil => rfl
  | cons guard guards ih => rw [Guard.checkAll, List.foldlM_cons, ih]

theorem Guard.checkAll_eq_ok_iff {guards : List Guard} {symbol : Char} {x y : Rat} :
    Guard.checkAll guards symbol x y = .ok () ↔ ∀ g ∈ guards, g symbol x y = .ok () := by
  induction guards with
  | nil => simp [Guard.checkAll]
  | cons guard guards ih =>
    rw [Guard.checkAll, List.forall_mem_cons, ← ih]
    cases guard symbol x y <;> simp

/-- The guards refuse with the fault of the first one that does. -/
theorem Guard.checkAll_eq_error_iff {guards : List Guard} {symbol : Char} {x y : Rat}
    {fault : Fault} :
    Guard.checkAll guards symbol x y = .error fault ↔
      ∃ passed guard rest, guards = passed ++ guard :: rest ∧
        (∀ g ∈ passed, g symbol x y = .ok ()) ∧ guard symbol x y = .error fault := by
  simp only [← Guard.checkAll_eq_ok_iff, Guard.checkAll_eq_foldlM, foldlM_eq_error_iff]
  constructor
  · rintro ⟨passed, guard, rest, _, hguards, hpassed, hguard⟩
    exact ⟨passed, guard, rest, hguards, hpassed, hguard⟩
  · rintro ⟨passed, guard, rest, hguards, hpassed, hguard⟩
    exact ⟨passed, guard, rest, (), hguards, hpassed, hguard⟩

theorem combines_iff {calculator : Calculator} {symbol : Char} {x y : Rat}
    {outcome : Except Fault Rat} :
    Combines calculator symbol x y outcome ↔ calculator.combine symbol x y = outcome := by
  constructor
  · intro h
    cases h with
    | refused hguards hpassed hguard =>
      have hcheck := Guard.checkAll_eq_error_iff.mpr ⟨_, _, _, hguards, hpassed, hguard⟩
      rw [Calculator.combine, hcheck, error_bind]
    | unknown hguards hnone =>
      rw [Calculator.combine, Guard.checkAll_eq_ok_iff.mpr hguards, ok_bind,
        Registry.operator_eq_error_iff.mpr ⟨hnone, rfl⟩, error_bind]
    | applied hguards hop =>
      rw [Calculator.combine, Guard.checkAll_eq_ok_iff.mpr hguards, ok_bind,
        Registry.operator_eq_ok_iff.mpr hop, ok_bind]
  · rintro rfl
    rw [Calculator.combine]
    cases hcheck : Guard.checkAll calculator.guards symbol x y with
    | error fault =>
      obtain ⟨_, _, _, hguards, hpassed, hguard⟩ := Guard.checkAll_eq_error_iff.mp hcheck
      exact .refused hguards hpassed hguard
    | ok =>
      have hguards := Guard.checkAll_eq_ok_iff.mp hcheck
      cases hop : calculator.registry.find? symbol with
      | none =>
        rw [ok_bind, Registry.operator_eq_error_iff.mpr ⟨hop, rfl⟩, error_bind]
        exact .unknown hguards hop
      | some op =>
        rw [ok_bind, Registry.operator_eq_ok_iff.mpr hop, ok_bind]
        exact .applied hguards hop

/-- The rules give every expression exactly the outcome that is computed. -/
theorem evaluates_iff {calculator : Calculator} {e : Expr} {outcome : Except Fault Rat} :
    Evaluates calculator e outcome ↔ e.value calculator = outcome := by
  constructor
  · intro h
    induction h with
    | number value => rfl
    | argument name _ ih => rw [Expr.value, ih, error_bind]
    | call name _ ih => rw [Expr.value, ih, ok_bind]
    | left symbol right _ ih => rw [Expr.value, ih, error_bind]
    | right symbol _ _ ihl ihr => rw [Expr.value, ihl, ok_bind, ihr, error_bind]
    | combine _ _ h ihl ihr => rw [Expr.value, ihl, ok_bind, ihr, ok_bind, combines_iff.mp h]
  · rintro rfl
    induction e with
    | number value => exact .number value
    | call name argument ih =>
      rw [Expr.value]
      cases hx : argument.value calculator with
      | error fault => exact .argument name (hx ▸ ih)
      | ok x => exact .call name (hx ▸ ih)
    | combine symbol left right ihl ihr =>
      rw [Expr.value]
      cases hx : left.value calculator with
      | error fault => exact .left symbol right (hx ▸ ihl)
      | ok x =>
        cases hy : right.value calculator with
        | error fault => exact .right symbol (hx ▸ ihl) (hy ▸ ihr)
        | ok y => exact .combine (hx ▸ ihl) (hy ▸ ihr) (combines_iff.mpr rfl)

theorem Expr.postorder_ne_nil (e : Expr) : e.postorder ≠ [] := by
  cases e <;> simp [Expr.postorder]

/-- Read from its end, a postfix order tells where the expression begins. -/
theorem Expr.append_postorder_inj {e f : Expr} {before after : List Token}
    (h : before ++ e.postorder = after ++ f.postorder) : before = after ∧ e = f := by
  induction e generalizing f before after with
  | number value =>
    cases f <;> simp only [Expr.postorder, ← List.append_assoc] at h <;>
      have hlast := List.append_inj' h rfl <;> simp_all
  | call name argument ih =>
    cases f <;> simp only [Expr.postorder, ← List.append_assoc] at h <;>
      have hlast := List.append_inj' h rfl <;> simp only [List.cons.injEq, reduceCtorEq,
        and_false, Token.function.injEq, and_true] at hlast
    obtain ⟨hrest, rfl⟩ := hlast
    obtain ⟨rfl, rfl⟩ := ih hrest
    exact ⟨rfl, rfl⟩
  | combine symbol left right ihl ihr =>
    cases f <;> simp only [Expr.postorder, ← List.append_assoc] at h <;>
      have hlast := List.append_inj' h rfl <;> simp only [List.cons.injEq, reduceCtorEq,
        and_false, Token.operator.injEq, and_true] at hlast
    obtain ⟨houter, rfl⟩ := hlast
    obtain ⟨hinner, rfl⟩ := ihr houter
    obtain ⟨rfl, rfl⟩ := ihl hinner
    exact ⟨rfl, rfl⟩

theorem Expr.postorder_injective : Function.Injective Expr.postorder := by
  intro e f h
  have happend : [] ++ e.postorder = [] ++ f.postorder := h
  exact (Expr.append_postorder_inj happend).2

end Reckoner
