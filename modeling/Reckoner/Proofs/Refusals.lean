import Reckoner.Proofs.Entry

/-! # What further guards can do

A calculator is compared with one that asks the same guards and more, in any order and
any number of times. The two keep in step, value by value and note by note, up to an
operation that one of them does not carry out. So the further guards can end the work on
an entry, with a fault of their own, but they cannot make it come out otherwise. -/

namespace Reckoner
open Outcome

def Guard.forbid (symbol : Char) : Guard := fun other _ _ =>
  if other = symbol then .error (.domain (.refused "opération interdite")) else .ok ()

/-- The first work is the second one, or it ends where the second carries out an operation
that a further guard refuses, or both end in the same place with faults of their own. -/
inductive Curbed (further : Guard → Prop) {α : Type} : Journaled α → Journaled α → Prop where
  | same (work : Journaled α) : Curbed further work work
  | refused {guard : Guard} {symbol : Char} {x y : Rat} {fault : Fault}
      (hfurther : further guard) (hguard : guard symbol x y = .error fault)
      (before : List Record) (v : Rat) (later : Journaled α) :
      Curbed further ⟨before, .error fault⟩
        ⟨before ++ Record.combined symbol x y v :: later.records, later.outcome⟩
  | ended (before : List Record) (fault other : Fault) :
      Curbed further ⟨before, .error fault⟩ ⟨before, .error other⟩

namespace Curbed
variable {further : Guard → Prop} {α β : Type}

theorem prepend {first second : Journaled α} (h : Curbed further first second)
    (before : List Record) :
    Curbed further ⟨before ++ first.records, first.outcome⟩
      ⟨before ++ second.records, second.outcome⟩ := by
  cases h with
  | same => exact .same _
  | refused hfurther hguard earlier v later =>
    rw [← List.append_assoc]
    exact .refused hfurther hguard (before ++ earlier) v later
  | ended earlier fault other => exact .ended (before ++ earlier) fault other

theorem bind {first second : Journaled α} (h : Curbed further first second)
    {f g : α → Journaled β} (hnext : ∀ a, Curbed further (f a) (g a)) :
    Curbed further (first >>= f) (second >>= g) := by
  cases h with
  | same =>
    cases houtcome : first.outcome with
    | ok a =>
      rw [Journaled.bind_of_ok houtcome, Journaled.bind_of_ok houtcome]
      exact (hnext a).prepend first.records
    | error fault =>
      rw [Journaled.bind_of_error houtcome, Journaled.bind_of_error houtcome]
      exact .same _
  | @refused guard symbol x y fault hfurther hguard before v later =>
    have hrest : (⟨before ++ Record.combined symbol x y v :: later.records, later.outcome⟩ :
        Journaled α) >>= g =
        ⟨before ++ Record.combined symbol x y v :: (later >>= g).records, (later >>= g).outcome⟩ := by
      cases houtcome : later.outcome with
      | ok a =>
        rw [Journaled.bind_of_ok houtcome, Journaled.bind_of_ok rfl]
        simp
      | error other =>
        rw [Journaled.bind_of_error houtcome, Journaled.bind_of_error rfl]
    rw [hrest]
    exact .refused hfurther hguard before v (later >>= g)
  | ended before fault other => exact .ended before fault other

theorem bind_same {f g : α → Journaled β} (work : Journaled α)
    (hnext : ∀ a, Curbed further (f a) (g a)) : Curbed further (work >>= f) (work >>= g) :=
  (Curbed.same work).bind hnext

theorem eq_of_ok {first second : Journaled α} (h : Curbed further first second) {a : α}
    (hok : first.outcome = .ok a) : first = second := by
  cases h with
  | same => rfl
  | refused => cases hok
  | ended => cases hok

end Curbed

def Guard.Further (few many : List Guard) (guard : Guard) : Prop := guard ∈ many ∧ guard ∉ few

section Stages
variable {registry : Registry} {few many : List Guard}

/-- More guards leave an operation as it is or one of them refuses it. -/
theorem Calculator.combine_of_subset (h : few ⊆ many) (symbol : Char) (x y : Rat) :
    combine ⟨registry, many⟩ symbol x y = combine ⟨registry, few⟩ symbol x y ∨
      ∃ guard ∈ many, ∃ fault, guard symbol x y = .error fault ∧
        combine ⟨registry, many⟩ symbol x y = .error fault := by
  rw [combine, combine]
  cases hcheck : Guard.checkAll many symbol x y with
  | ok =>
    have hmany := Guard.checkAll_eq_ok_iff.mp hcheck
    have hfew : Guard.checkAll few symbol x y = .ok () :=
      Guard.checkAll_eq_ok_iff.mpr fun guard hguard => hmany guard (h hguard)
    rw [hfew]
    exact .inl rfl
  | error fault =>
    obtain ⟨passed, guard, rest, rfl, -, hguard⟩ := Guard.checkAll_eq_error_iff.mp hcheck
    exact .inr ⟨guard, by simp, fault, hguard, rfl⟩

theorem Calculator.guards_of_combine {calculator : Calculator} {symbol : Char} {x y v : Rat}
    (h : calculator.combine symbol x y = .ok v) :
    ∀ guard ∈ calculator.guards, guard symbol x y = .ok () := by
  rw [combine] at h
  obtain ⟨_, hcheck, _⟩ := bind_eq_ok_iff.mp h
  exact Guard.checkAll_eq_ok_iff.mp hcheck

namespace Postfix

theorem execute_curbed (h : few ⊆ many) (stack : List Rat) (token : Token) :
    Curbed (Guard.Further few many) (execute ⟨registry, many⟩ stack token)
      (execute ⟨registry, few⟩ stack token) := by
  cases token with
  | number value => exact .same _
  | function name => exact .same _
  | lparen => exact .same _
  | rparen => exact .same _
  | operator symbol =>
    match stack with
    | [] => exact .same _
    | [_] => exact .same _
    | y :: x :: below =>
      rcases Calculator.combine_of_subset h symbol x y with heq | ⟨guard, hmem, fault, hguard, hmany⟩
      · rw [execute, heq]
        exact .same _
      · rw [execute, execute, hmany]
        cases hfew : Calculator.combine ⟨registry, few⟩ symbol x y with
        | error other => exact .ended [] fault other
        | ok v =>
          have hpassed := Calculator.guards_of_combine hfew
          have hnot : guard ∉ few := by
            intro hin
            have hok : guard symbol x y = .ok () := hpassed guard hin
            rw [hok] at hguard
            cases hguard
          exact .refused ⟨hmem, hnot⟩ hguard [] v (pure (v :: below))

theorem run_curbed (h : few ⊆ many) (stack : List Rat) (tokens : List Token) :
    Curbed (Guard.Further few many) (run ⟨registry, many⟩ stack tokens)
      (run ⟨registry, few⟩ stack tokens) := by
  induction tokens generalizing stack with
  | nil => exact .same _
  | cons token tokens ih =>
    simp only [run, List.foldlM_cons] at ih ⊢
    exact (execute_curbed h stack token).bind ih

theorem value_curbed (h : few ⊆ many) (tokens : List Token) :
    Curbed (Guard.Further few many) (value ⟨registry, many⟩ tokens)
      (value ⟨registry, few⟩ tokens) := by
  rw [value, value]
  exact (run_curbed h [] tokens).bind fun _ => .same _

end Postfix

namespace Calculator

theorem work_curbed (h : few ⊆ many) (entry : List Char) :
    Curbed (Guard.Further few many) (work ⟨registry, many⟩ entry) (work ⟨registry, few⟩ entry) := by
  rw [work, work]
  split
  · exact .same _
  · refine .bind_same _ fun tokens => ?_
    refine .bind_same _ fun arranged => ?_
    exact (Postfix.value_curbed h arranged).bind fun _ => .same _

/-- Guards can refuse and do nothing else. What comes out under many guards comes out the
same under few of them. What comes out under few comes out the same under many, or a guard
that is not among the few refuses an operation that is carried out under the few; the
fault is that guard's, and up to that operation the same is noted. -/
theorem work_of_guards_subset (h : few ⊆ many) (entry : List Char) :
    (∀ found, (work ⟨registry, many⟩ entry).outcome = .ok found →
        (work ⟨registry, few⟩ entry).outcome = .ok found) ∧
      ∀ found, (work ⟨registry, few⟩ entry).outcome = .ok found →
        (work ⟨registry, many⟩ entry).outcome = .ok found ∨
          ∃ guard ∈ many, guard ∉ few ∧ ∃ symbol x y fault, guard symbol x y = .error fault ∧
            (work ⟨registry, many⟩ entry).outcome = .error fault ∧
            ∃ v later, (work ⟨registry, few⟩ entry).records =
              (work ⟨registry, many⟩ entry).records ++ Record.combined symbol x y v :: later := by
  have hcurbed : Curbed (Guard.Further few many) (work ⟨registry, many⟩ entry)
      (work ⟨registry, few⟩ entry) := work_curbed h entry
  constructor
  · intro found hmany
    rw [← hcurbed.eq_of_ok hmany]
    exact hmany
  · intro found hfew
    generalize work ⟨registry, many⟩ entry = first at hcurbed ⊢
    generalize work ⟨registry, few⟩ entry = second at hcurbed hfew ⊢
    cases hcurbed with
    | same => exact .inl hfew
    | ended => cases hfew
    | @refused guard symbol x y fault hfurther hguard before v later =>
      exact .inr ⟨guard, hfurther.1, hfurther.2, symbol, x, y, fault, hguard, rfl, v,
        later.records, rfl⟩

/-- The guard that forbids sums lets a product pass and ends the work at the sum, after
the product in it has been noted. -/
theorem work_of_guards_subset_forbidden_sum :
    [Guard.divisionByZero] ⊆ [Guard.divisionByZero, Guard.forbid '+', Guard.divisionByZero] ∧
      (work ⟨.standard, [Guard.divisionByZero]⟩ ['2', '*', '3']).outcome =
        .ok (6, ⟨['2', ' ', '*', ' ', '3'], ['2', ' ', '3', ' ', '*']⟩) ∧
      ∃ guard ∈ [Guard.divisionByZero, Guard.forbid '+', Guard.divisionByZero],
        guard ∉ [Guard.divisionByZero] ∧ ∃ symbol x y fault, guard symbol x y = .error fault ∧
          (work ⟨.standard, [Guard.divisionByZero, Guard.forbid '+', Guard.divisionByZero]⟩
            ['1', '+', '2', '*', '3']).outcome = .error fault ∧
          ∃ v later, (work ⟨.standard, [Guard.divisionByZero]⟩ ['1', '+', '2', '*', '3']).records =
            (work ⟨.standard, [Guard.divisionByZero, Guard.forbid '+', Guard.divisionByZero]⟩
              ['1', '+', '2', '*', '3']).records ++ Record.combined symbol x y v :: later := by
  have hsubset : [Guard.divisionByZero] ⊆
      [Guard.divisionByZero, Guard.forbid '+', Guard.divisionByZero] := by simp
  have hproduct : (work ⟨.standard, [Guard.divisionByZero, Guard.forbid '+', Guard.divisionByZero]⟩
      ['2', '*', '3']).outcome =
        .ok (6, ⟨['2', ' ', '*', ' ', '3'], ['2', ' ', '3', ' ', '*']⟩) := by
    decide +kernel
  have hsum : (work ⟨.standard, [Guard.divisionByZero]⟩ ['1', '+', '2', '*', '3']).outcome =
      .ok (7, ⟨['1', ' ', '+', ' ', '2', ' ', '*', ' ', '3'],
        ['1', ' ', '2', ' ', '3', ' ', '*', ' ', '+']⟩) := by
    decide +kernel
  have hforbidden : (work ⟨.standard, [Guard.divisionByZero, Guard.forbid '+',
      Guard.divisionByZero]⟩ ['1', '+', '2', '*', '3']).outcome =
        .error (.domain (.refused "opération interdite")) := by
    decide +kernel
  refine ⟨hsubset, ?_, ?_⟩
  · exact (work_of_guards_subset hsubset ['2', '*', '3']).1 _ hproduct
  · rcases (work_of_guards_subset hsubset ['1', '+', '2', '*', '3']).2 _ hsum with hok | hrefused
    · rw [hforbidden] at hok
      cases hok
    · exact hrefused

end Calculator

end Stages

end Reckoner
