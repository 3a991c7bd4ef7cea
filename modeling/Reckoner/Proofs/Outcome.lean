import Reckoner.Fault

/-! # Outcomes in sequence

How a sequence of steps that may fail comes out. A fold fails exactly when some
step fails after all steps before it have succeeded, and with the fault of that
step. -/

namespace Reckoner.Outcome

variable {ε α β : Type}

@[simp] theorem ok_bind (a : α) (f : α → Except ε β) : (Except.ok a >>= f) = f a := rfl

@[simp] theorem error_bind (e : ε) (f : α → Except ε β) :
    ((Except.error e : Except ε α) >>= f) = .error e := rfl

@[simp] theorem pure_eq_ok (a : α) : (pure a : Except ε α) = .ok a := rfl

theorem bind_eq_ok_iff {x : Except ε α} {f : α → Except ε β} {b : β} :
    x >>= f = .ok b ↔ ∃ a, x = .ok a ∧ f a = .ok b := by
  cases x <;> simp

theorem bind_eq_error_iff {x : Except ε α} {f : α → Except ε β} {e : ε} :
    x >>= f = .error e ↔ x = .error e ∨ ∃ a, x = .ok a ∧ f a = .error e := by
  cases x <;> simp

theorem map_eq_ok_iff {x : Except ε α} {f : α → β} {b : β} :
    x.map f = .ok b ↔ ∃ a, x = .ok a ∧ f a = b := by
  cases x <;> simp [Except.map]

theorem mapError_eq_error_iff {ε' : Type} {x : Except ε α} {f : ε → ε'} {e : ε'} :
    x.mapError f = .error e ↔ ∃ cause, x = .error cause ∧ f cause = e := by
  constructor
  · intro h
    cases x with
    | error cause =>
      cases h
      exact ⟨cause, rfl, rfl⟩
    | ok a => cases h
  · rintro ⟨cause, rfl, rfl⟩
    rfl

theorem mapError_eq_ok_iff {ε' : Type} {x : Except ε α} {f : ε → ε'} {a : α} :
    x.mapError f = .ok a ↔ x = .ok a := by
  cases x with
  | error e => exact ⟨nofun, nofun⟩
  | ok b =>
    change Except.ok b = Except.ok a ↔ _
    simp

theorem foldlM_append_cons_of_error {step : β → α → Except ε β} {before after : List α}
    {a : α} {start reached : β} {e : ε} (hbefore : before.foldlM step start = .ok reached)
    (hstep : step reached a = .error e) :
    (before ++ a :: after).foldlM step start = .error e := by
  rw [List.foldlM_append, hbefore, ok_bind, List.foldlM_cons, hstep, error_bind]

/-- The fault of a fold is that of the first step that fails. -/
theorem foldlM_eq_error_iff {step : β → α → Except ε β} {list : List α} {start : β} {e : ε} :
    list.foldlM step start = .error e ↔
      ∃ before a after reached, list = before ++ a :: after ∧
        before.foldlM step start = .ok reached ∧ step reached a = .error e := by
  constructor
  · intro h
    induction list generalizing start with
    | nil => cases h
    | cons a after ih =>
      rw [List.foldlM_cons] at h
      cases hstep : step start a with
      | error fault =>
        rw [hstep] at h
        cases h
        exact ⟨[], a, after, start, rfl, rfl, hstep⟩
      | ok next =>
        rw [hstep] at h
        obtain ⟨before, b, rest, reached, rfl, hbefore, hb⟩ := ih h
        refine ⟨a :: before, b, rest, reached, rfl, ?_, hb⟩
        rw [List.foldlM_cons, hstep, ok_bind, hbefore]
  · rintro ⟨before, a, after, reached, rfl, hbefore, hstep⟩
    exact foldlM_append_cons_of_error hbefore hstep

end Reckoner.Outcome
