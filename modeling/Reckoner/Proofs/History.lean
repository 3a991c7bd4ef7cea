import Reckoner.Proofs.Entry
import Reckoner.Window

/-! # What a panel tells of its past

Each thing that a panel shows, read off the events since its start without looking at
any panel in between. A history holds the events latest first, so that the first event
that bears on a thing decides it. Every step keeps the panel in agreement with its
history, and so does every run. -/

namespace Reckoner.Panel

def entryAfter : List Event → List Char
  | [] => []
  | .edit entry :: _ => entry
  | .clearEntry :: _ => []
  | .reset :: _ => []
  | _ :: earlier => entryAfter earlier

def placesAfter : List Event → Nat
  | [] => 28
  | .setPlaces places :: _ => min places 60
  | .reset :: _ => 28
  | _ :: earlier => placesAfter earlier

/-- What came of each evaluation since the results were last cleared, latest first. -/
def outcomesAfter (calculator : Calculator) : List Event → List (Except Fault (Rat × Working))
  | [] => []
  | .evaluate :: earlier =>
    (calculator.work (entryAfter earlier)).outcome :: outcomesAfter calculator earlier
  | .clearResults :: _ => []
  | .reset :: _ => []
  | _ :: earlier => outcomesAfter calculator earlier

/-- The value of the first of the outcomes that has one. -/
def latestValue : List (Except Fault (Rat × Working)) → Option Rat
  | [] => none
  | .ok (value, _) :: _ => some value
  | .error _ :: earlier => latestValue earlier

def latestMessage : List (Except Fault (Rat × Working)) → String
  | .error fault :: _ => fault.message
  | _ => ""

def latestWorking : List (Except Fault (Rat × Working)) → Working
  | .ok (_, working) :: _ => working
  | _ => Working.none

/-- All that the panel shows is what its history says. -/
structure Agrees (calculator : Calculator) (history : List Event) (panel : Panel) : Prop where
  calculator_eq : panel.calculator = calculator
  entry_eq : panel.entry = entryAfter history
  value_eq : panel.value = latestValue (outcomesAfter calculator history)
  result_eq : panel.result = (panel.value.map (Decimal.write panel.places)).getD []
  places_eq : panel.places = placesAfter history
  fault_eq : panel.fault = latestMessage (outcomesAfter calculator history)
  working_eq : panel.working = latestWorking (outcomesAfter calculator history)

theorem exists_work_of_mem_outcomesAfter {calculator : Calculator} {history : List Event}
    {outcome : Except Fault (Rat × Working)} (h : outcome ∈ outcomesAfter calculator history) :
    ∃ entry, (calculator.work entry).outcome = outcome := by
  induction history with
  | nil => cases h
  | cons event earlier ih =>
    cases event with
    | edit entry => exact ih h
    | evaluate =>
      rcases List.mem_cons.mp h with rfl | h
      · exact ⟨entryAfter earlier, rfl⟩
      · exact ih h
    | clearEntry => exact ih h
    | clearResults => cases h
    | reset => cases h
    | setPlaces places => exact ih h

namespace Agrees
variable {calculator : Calculator} {history : List Event} {panel : Panel}

theorem start (calculator : Calculator) : Agrees calculator [] (Panel.start calculator) :=
  ⟨rfl, rfl, rfl, rfl, rfl, rfl, rfl⟩

theorem evaluate (h : Agrees calculator history panel) :
    Agrees calculator (.evaluate :: history) panel.evaluate := by
  have houtcome : (panel.calculator.answer panel.entry).outcome =
      (calculator.work (entryAfter history)).outcome := by
    rw [Calculator.outcome_answer, h.calculator_eq, h.entry_eq]
  have hafter : outcomesAfter calculator (.evaluate :: history) =
      (calculator.work (entryAfter history)).outcome :: outcomesAfter calculator history := rfl
  rw [Panel.evaluate, houtcome]
  cases hwork : (calculator.work (entryAfter history)).outcome with
  | ok found =>
    rw [hwork] at hafter
    refine ⟨h.calculator_eq, h.entry_eq, ?_, rfl, h.places_eq, ?_, ?_⟩
    · rw [hafter]
      rfl
    · rw [hafter]
      rfl
    · rw [hafter]
      rfl
  | error fault =>
    rw [hwork] at hafter
    refine ⟨h.calculator_eq, h.entry_eq, ?_, h.result_eq, h.places_eq, ?_, ?_⟩
    · rw [hafter]
      exact h.value_eq
    · rw [hafter]
      rfl
    · rw [hafter]
      rfl

theorem setPlaces (h : Agrees calculator history panel) (places : Nat) :
    Agrees calculator (.setPlaces places :: history) (panel.setPlaces places) where
  calculator_eq := h.calculator_eq
  entry_eq := h.entry_eq
  value_eq := h.value_eq
  result_eq := by
    have hresult := h.result_eq
    unfold Panel.setPlaces
    cases hvalue : panel.value with
    | none =>
      rw [hvalue] at hresult
      exact hresult
    | some value => rfl
  places_eq := rfl
  fault_eq := h.fault_eq
  working_eq := h.working_eq

theorem step (h : Agrees calculator history panel) (event : Event) :
    Agrees calculator (event :: history) (panel.step event) := by
  have ⟨hcalculator, hentry, hvalue, hresult, hplaces, hfault, hworking⟩ := h
  cases event with
  | edit entry => exact ⟨hcalculator, rfl, hvalue, hresult, hplaces, hfault, hworking⟩
  | evaluate => exact h.evaluate
  | clearEntry => exact ⟨hcalculator, rfl, hvalue, hresult, hplaces, hfault, hworking⟩
  | clearResults => exact ⟨hcalculator, hentry, rfl, rfl, hplaces, rfl, rfl⟩
  | reset => exact ⟨hcalculator, rfl, rfl, rfl, rfl, rfl, rfl⟩
  | setPlaces places => exact h.setPlaces places

theorem run (h : Agrees calculator history panel) (events : List Event) :
    Agrees calculator (events.reverse ++ history) (panel.run events) := by
  induction events generalizing history panel with
  | nil => exact h
  | cons event events ih =>
    rw [List.reverse_cons, List.append_assoc]
    exact ih (h.step event)

/-- A working is shown beside the value that it led to and beside no fault. -/
theorem working_or (h : Agrees calculator history panel) :
    panel.working = Working.none ∨
      panel.fault = "" ∧ ∃ entry value, panel.value = some value ∧
        (calculator.work entry).outcome = .ok (value, panel.working) := by
  rw [h.working_eq, h.fault_eq, h.value_eq]
  cases houtcomes : outcomesAfter calculator history with
  | nil => exact .inl rfl
  | cons latest before =>
    cases latest with
    | error fault => exact .inl rfl
    | ok found =>
      have hlatest : Except.ok found ∈ outcomesAfter calculator history := by simp [houtcomes]
      obtain ⟨entry, hentry⟩ := exists_work_of_mem_outcomesAfter hlatest
      exact .inr ⟨rfl, entry, found.1, rfl, hentry⟩

end Agrees

/-- After any run a panel shows what its history says: the value of the latest evaluation
that has one, its text for the present number of places, the fault or the working of the
latest evaluation. Clearing the entry, by its button or by Escape, changes the entry alone. -/
theorem run_start_agrees (calculator : Calculator) (events : List Event) :
    let panel := (Panel.start calculator).run events
    Agrees calculator events.reverse panel ∧
      (panel.working = Working.none ∨
        panel.fault = "" ∧ ∃ entry value, panel.value = some value ∧
          (calculator.work entry).outcome = .ok (value, panel.working)) ∧
      panel.press .clearEntry = { panel with entry := [], wantsFocus := true } ∧
      ∀ focused, (Window.step ⟨panel, focused⟩ .escape).panel =
        { panel with entry := [], wantsFocus := false } := by
  have hagrees := (Agrees.start calculator).run events
  rw [List.append_nil] at hagrees
  exact ⟨hagrees, hagrees.working_or, rfl, fun _ => rfl⟩

end Reckoner.Panel
