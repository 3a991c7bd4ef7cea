import Reckoner.Proofs.History

/-! # Enter and the equals button

Whatever has been done to a window, its panel agrees with some history of a panel alone.
So evaluating the entry leaves the display as it is exactly if the display already tells
the outcome of the entry, and no other time does Enter, which never evaluates, do the
same as the equals button. Enter with Control always does. -/

namespace Reckoner

namespace Panel

/-- Two panels show the same, whatever comes next. -/
structure SameDisplay (first second : Panel) : Prop where
  entry_eq : first.entry = second.entry
  value_eq : first.value = second.value
  result_eq : first.result = second.result
  fault_eq : first.fault = second.fault
  working_eq : first.working = second.working

/-- The display tells this outcome, as it would had it just been found. -/
def Tells (panel : Panel) : Except Fault (Rat × Working) → Prop
  | .ok (value, working) => panel.value = some value ∧ panel.working = working ∧ panel.fault = ""
  | .error fault => panel.fault = fault.message ∧ panel.working = Working.none

section Agreeing
variable {calculator : Calculator} {history : List Event} {panel : Panel}

theorem Agrees.withFocus (h : Agrees calculator history panel) (wantsFocus : Bool) :
    Agrees calculator history { panel with wantsFocus } :=
  ⟨h.calculator_eq, h.entry_eq, h.value_eq, h.result_eq, h.places_eq, h.fault_eq, h.working_eq⟩

theorem Agrees.press (h : Agrees calculator history panel) (button : Button) :
    ∃ event, Agrees calculator (event :: history) (panel.press button) := by
  cases button with
  | insert piece =>
    exact ⟨.edit (panel.entry ++ piece.text), (h.step (.edit _)).withFocus true⟩
  | delete => exact ⟨.edit (withoutLast panel.entry), (h.step (.edit _)).withFocus true⟩
  | evaluate => exact ⟨.evaluate, h.step .evaluate⟩
  | clearEntry => exact ⟨.clearEntry, h.step .clearEntry⟩
  | clearResults => exact ⟨.clearResults, h.step .clearResults⟩
  | reset => exact ⟨.reset, h.step .reset⟩

theorem sameDisplay_evaluate_iff (h : Agrees calculator history panel) :
    SameDisplay panel panel.evaluate ↔ panel.Tells (calculator.work panel.entry).outcome := by
  have houtcome : (panel.calculator.answer panel.entry).outcome =
      (calculator.work panel.entry).outcome := by
    rw [Calculator.outcome_answer, h.calculator_eq]
  rw [Panel.evaluate, houtcome]
  cases (calculator.work panel.entry).outcome with
  | ok found =>
    obtain ⟨value, working⟩ := found
    constructor
    · intro hsame
      exact ⟨hsame.value_eq, hsame.working_eq, hsame.fault_eq⟩
    · intro htells
      obtain ⟨hvalue, hworking, hfault⟩ := htells
      have hresult := h.result_eq
      rw [hvalue] at hresult
      exact ⟨rfl, hvalue, hresult, hfault, hworking⟩
  | error fault =>
    constructor
    · intro hsame
      exact ⟨hsame.fault_eq, hsame.working_eq⟩
    · intro htells
      exact ⟨rfl, rfl, rfl, htells.1, htells.2⟩

end Agreeing

end Panel

namespace Window
open Panel

section Reached
variable {calculator : Calculator} {history : List Panel.Event} {window : Window}

theorem exists_agrees_step (h : Agrees calculator history window.panel) (event : Event) :
    ∃ later, Agrees calculator later (window.step event).panel := by
  cases event with
  | edit entry => exact ⟨_, h.step (.edit entry)⟩
  | press button =>
    obtain ⟨event, hpress⟩ := h.press button
    exact ⟨_, hpress.withFocus false⟩
  | setPlaces places =>
    rw [step]
    split
    · exact ⟨history, h⟩
    · exact ⟨_, (h.setPlaces (placesOf places)).withFocus false⟩
  | escape => exact ⟨_, (h.step .clearEntry).withFocus false⟩
  | enter => exact ⟨history, h⟩
  | controlEnter =>
    rw [step]
    split
    · exact ⟨_, h.evaluate.withFocus false⟩
    · exact ⟨history, h⟩

theorem exists_agrees_run (h : Agrees calculator history window.panel) (events : List Event) :
    ∃ later, Agrees calculator later (window.run events).panel := by
  induction events generalizing history window with
  | nil => exact ⟨history, h⟩
  | cons event events ih =>
    obtain ⟨later, hstep⟩ := exists_agrees_step h event
    exact ih hstep

theorem exists_agrees_start (calculator : Calculator) :
    ∃ history, Agrees calculator history (start calculator).panel :=
  ⟨[], (Agrees.start calculator).withFocus false⟩

end Reached

/-- In a window that has the keyboard on its entry Enter does what the equals button does
exactly if the display already tells the outcome of the entry. Enter with Control always
does so; after Enter it does nothing. -/
theorem enter_same_evaluate_iff (calculator : Calculator) (events : List Event)
    (hfocused : ((start calculator).run events).focused = true) :
    let window := (start calculator).run events
    (SameDisplay (window.step .enter).panel (window.step (.press .evaluate)).panel ↔
        window.panel.Tells (calculator.work window.panel.entry).outcome) ∧
      window.step .controlEnter = window.step (.press .evaluate) ∧
      (window.step .enter).step .controlEnter = window.step .enter := by
  intro window
  obtain ⟨history, hstart⟩ := exists_agrees_start calculator
  obtain ⟨later, hagrees⟩ := exists_agrees_run hstart events
  refine ⟨?_, ?_, rfl⟩
  · rw [← sameDisplay_evaluate_iff hagrees]
    constructor
    · intro h
      exact ⟨h.entry_eq, h.value_eq, h.result_eq, h.fault_eq, h.working_eq⟩
    · intro h
      exact ⟨h.entry_eq, h.value_eq, h.result_eq, h.fault_eq, h.working_eq⟩
  · exact if_pos hfocused

theorem enter_same_evaluate_iff_pressed :
    ((start .standard).run [.edit ['2'], .press .evaluate]).focused = true ∧
      SameDisplay (((start .standard).run [.edit ['2'], .press .evaluate]).step .enter).panel
        (((start .standard).run [.edit ['2'], .press .evaluate]).step (.press .evaluate)).panel := by
  have hiff := (enter_same_evaluate_iff .standard [.edit ['2'], .press .evaluate] rfl).1
  have houtcome : (Calculator.standard.work
      ((start .standard).run [.edit ['2'], .press .evaluate]).panel.entry).outcome =
        .ok (2, ⟨['2'], ['2']⟩) := by
    decide +kernel
  refine ⟨rfl, hiff.mpr ?_⟩
  rw [houtcome]
  unfold Tells
  decide +kernel

/-- Enter on an entry that has the keyboard does not do what the equals button does. -/
theorem enter_leaves_value :
    ¬ ∀ events, ((start .standard).run events).focused = true →
      SameDisplay (((start .standard).run events).step .enter).panel
        (((start .standard).run events).step (.press .evaluate)).panel := by
  intro h
  have hbefore : (((start .standard).run [.edit ['2']]).step .enter).panel.value = none := rfl
  have hafter : (((start .standard).run [.edit ['2']]).step (.press .evaluate)).panel.value =
      some 2 := by
    decide +kernel
  have hvalue := (h [.edit ['2']] rfl).value_eq
  rw [hbefore, hafter] at hvalue
  cases hvalue

end Window

end Reckoner
