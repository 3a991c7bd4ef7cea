import Reckoner.Proofs.Conversation
import Reckoner.Proofs.History
import Reckoner.Proofs.Reasons

/-! # Two hosts, one calculator

The console keeps nothing from one line to the next; the panel keeps the last value beside
a fault, and the places it is shown with. Led through the same entries they show the same,
whatever is cleared in between. The panel shows a fault by its words alone, so this needs
that no fault is without words. -/

namespace Reckoner

namespace Console
open Text
variable {calculator : Calculator}

def said (calculator : Calculator) (entry : List Char) : String :=
  report (calculator.work entry).outcome

/-- The text fits on a line, and is neither blank nor a word that asks to end. -/
structure IsEntry (text : List Char) : Prop where
  newline_not_mem : '\n' ∉ text
  trim_ne_nil : trim text ≠ []
  not_quitWord : ¬ QuitWord (trim text)

theorem IsEntry.answered {text : List Char} (h : IsEntry text) {line : List UInt8}
    (hline : Holds text line) : Answered calculator line (said calculator text) := by
  rcases hline with htext | htext
  · exact answered_of_entry calculator htext (trim_ne_nil_iff.mp h.trim_ne_nil) h.not_quitWord
  · have hspace : ∀ c ∈ ['\n'], isBlank c = true := by
      intro c hc
      rw [List.mem_singleton.mp hc]
      decide
    have htrim : trim (text ++ ['\n']) = trim text := trim_append_of_all hspace text
    have hsaid : said calculator (text ++ ['\n']) = said calculator text := by
      rw [said, ← Calculator.work_trim, htrim, Calculator.work_trim, said]
    have hne : trim (text ++ ['\n']) ≠ [] := htrim ▸ h.trim_ne_nil
    rw [← hsaid]
    exact answered_of_entry calculator htext (trim_ne_nil_iff.mp hne) (htrim ▸ h.not_quitWord)

theorem forall₂_answered {texts : List (List Char)} (htexts : ∀ text ∈ texts, IsEntry text)
    {cut : List (List UInt8)} (hcut : List.Forall₂ Holds texts cut) :
    List.Forall₂ (Answered calculator) cut (texts.map (said calculator)) := by
  induction hcut with
  | nil => exact .nil
  | @cons text line texts cut hline _ ih =>
    obtain ⟨htext, hlater⟩ := List.forall_mem_cons.mp htexts
    exact .cons (htext.answered hline) (ih hlater)

/-- Typed entries are answered one by one, until the input ends. -/
theorem answered_of_typed {texts : List (List Char)} (htexts : ∀ text ∈ texts, IsEntry text)
    {input : List UInt8} (hinput : Typed texts input) :
    List.Forall₂ (Answered calculator) (lines input) (texts.map (said calculator)) := by
  have hplain : ∀ text ∈ texts, text ≠ [] ∧ '\n' ∉ text := by
    intro text htext
    have hentry := htexts text htext
    refine ⟨fun hnil => ?_, hentry.newline_not_mem⟩
    rw [hnil] at hentry
    exact hentry.trim_ne_nil rfl
  exact forall₂_answered htexts (hinput.forall₂_holds hplain)

theorem map_output_of_answered {heard : List (List UInt8)} {replies : List String}
    (h : List.Forall₂ (Answered calculator) heard replies) :
    heard.map (fun line => (turn calculator (some line)).output) =
      replies.map (· ++ "\n\n") := by
  induction h with
  | nil => rfl
  | cons hline _ ih =>
    obtain ⟨records, hturn⟩ := hline.turn
    rw [List.map_cons, List.map_cons, ih, hturn]

end Console

namespace Panel

/-- An evaluation, by the panels right before and right after it. -/
structure Evaluation where
  before : Panel
  after : Panel

def evaluations (panel : Panel) : List Event → List Evaluation
  | [] => []
  | .evaluate :: events => ⟨panel, panel.evaluate⟩ :: panel.evaluate.evaluations events
  | event :: events => (panel.step event).evaluations events

def evaluated (panel : Panel) (events : List Event) : List (List Char) :=
  (panel.evaluations events).map fun evaluation => evaluation.before.entry

/-- The panel asks this calculator and shows as many places as the console. -/
structure Ready (calculator : Calculator) (panel : Panel) : Prop where
  calculator_eq : panel.calculator = calculator
  places_eq : panel.places = 28

namespace Ready
variable {calculator : Calculator} {panel : Panel}

theorem evaluate (h : Ready calculator panel) : Ready calculator panel.evaluate := by
  rw [Panel.evaluate]
  cases (panel.calculator.answer panel.entry).outcome <;> exact ⟨h.1, h.2⟩

theorem step (h : Ready calculator panel) {event : Event}
    (hevent : ∀ places, event ≠ .setPlaces places) : Ready calculator (panel.step event) := by
  cases event with
  | evaluate => exact h.evaluate
  | reset => exact ⟨h.1, rfl⟩
  | setPlaces places => exact absurd rfl (hevent places)
  | _ => exact ⟨h.1, h.2⟩

theorem of_mem_evaluations (h : Ready calculator panel) {events : List Event}
    (hevents : ∀ places, Event.setPlaces places ∉ events) {evaluation : Evaluation}
    (hevaluation : evaluation ∈ panel.evaluations events) :
    ∃ before, Ready calculator before ∧ evaluation = ⟨before, before.evaluate⟩ := by
  induction events generalizing panel with
  | nil => cases hevaluation
  | cons event events ih =>
    have hevent : ∀ places, event ≠ .setPlaces places := by
      intro places heq
      exact hevents places (by simp [heq])
    have hlater : ∀ places, Event.setPlaces places ∉ events := by
      intro places hmem
      exact hevents places (by simp [hmem])
    cases event with
    | evaluate =>
      rcases List.mem_cons.mp hevaluation with rfl | hevaluation
      · exact ⟨panel, h, rfl⟩
      · exact ih h.evaluate hlater hevaluation
    | _ => exact ih (h.step hevent) hlater hevaluation

end Ready

/-- A reply tells what an evaluation shows: its result where there is no fault, or else the
fault, beside which the result of before stands. -/
structure Evaluation.Told (evaluation : Evaluation) (said : String) : Prop where
  value_iff : ∀ shown, said = "= " ++ shown ↔
    evaluation.after.fault = "" ∧ String.ofList evaluation.after.result = shown
  fault_iff : ∀ message, said = "Erreur: " ++ message ↔
    evaluation.after.fault = message ∧ message ≠ ""
  result_kept : evaluation.after.fault ≠ "" → evaluation.after.result = evaluation.before.result

theorem value_ne_fault (shown message : String) : "= " ++ shown ≠ "Erreur: " ++ message := by
  intro h
  have hhead := congrArg (fun text => text.toList.head?) h
  simp at hhead

theorem told_showValue {panel : Panel} (hplaces : panel.places = 28) (v : Rat)
    (working : Working) :
    Evaluation.Told ⟨panel, panel.showValue v working⟩
      ("= " ++ String.ofList (Decimal.write 28 v)) where
  value_iff shown := by
    rw [← hplaces, String.append_right_inj]
    exact (and_iff_right rfl).symm
  fault_iff message := by
    constructor
    · intro h
      exact absurd h (value_ne_fault _ message)
    · intro h
      exact absurd h.1.symm h.2
  result_kept h := absurd rfl h

theorem told_showFault (panel : Panel) {message : String} (hmessage : message ≠ "") :
    Evaluation.Told ⟨panel, panel.showFault message⟩ ("Erreur: " ++ message) where
  value_iff shown := by
    constructor
    · intro h
      exact absurd h.symm (value_ne_fault shown message)
    · intro h
      exact absurd h.1 hmessage
  fault_iff other := by
    rw [String.append_right_inj]
    constructor
    · intro h
      exact ⟨h, h ▸ hmessage⟩
    · intro h
      exact h.1
  result_kept _ := rfl

theorem Ready.told {calculator : Calculator} {panel : Panel} (h : Ready calculator panel)
    (hreasons : calculator.GivesReasons) :
    Evaluation.Told ⟨panel, panel.evaluate⟩ (Console.said calculator panel.entry) := by
  rw [Panel.evaluate, Calculator.outcome_answer, h.calculator_eq, Console.said]
  cases hwork : (calculator.work panel.entry).outcome with
  | ok found => exact told_showValue h.places_eq found.1 found.2
  | error fault => exact told_showFault panel (hreasons.work hwork)

theorem Ready.forall₂_told {calculator : Calculator} {panel : Panel} (h : Ready calculator panel)
    (hreasons : calculator.GivesReasons) {events : List Event}
    (hevents : ∀ places, Event.setPlaces places ∉ events) :
    List.Forall₂ Evaluation.Told (panel.evaluations events)
      ((panel.evaluated events).map (Console.said calculator)) := by
  rw [evaluated, List.map_map, List.forall₂_map_right_iff, List.forall₂_same]
  intro evaluation hevaluation
  obtain ⟨before, hbefore, rfl⟩ := h.of_mem_evaluations hevents hevaluation
  exact hbefore.told hreasons

end Panel

open Console Text

/-- The console and the panel, led through the same entries, show the same: each line brings
one reply, and the reply tells what the evaluation of that entry shows. Between evaluations
the entry may be changed and anything be cleared. The standard calculator has words for all
its faults. -/
theorem hosts_agree {calculator : Calculator} (hreasons : calculator.GivesReasons)
    {texts : List (List Char)} (htexts : ∀ text ∈ texts, IsEntry text)
    {input : List UInt8} (hinput : Typed texts input) {earlier events : List Panel.Event}
    (hplaces : ((Panel.start calculator).run earlier).places = 28)
    (hevents : ∀ places, Panel.Event.setPlaces places ∉ events)
    (hevaluated : ((Panel.start calculator).run earlier).evaluated events = texts) :
    Calculator.standard.GivesReasons ∧
      ∃ replies,
        (lines input).map (fun line => (turn calculator (some line)).output) =
            replies.map (· ++ "\n\n") ∧
          (session calculator input).output = banner ++ (transcript replies ++ "> \n") ∧
          (session calculator input).ending = .endOfInput ∧
          List.Forall₂ Panel.Evaluation.Told
            (((Panel.start calculator).run earlier).evaluations events) replies := by
  have hready : Panel.Ready calculator ((Panel.start calculator).run earlier) :=
    ⟨((Panel.Agrees.start calculator).run earlier).calculator_eq, hplaces⟩
  have hanswered : List.Forall₂ (Answered calculator) (lines input) (texts.map (said calculator)) :=
    answered_of_typed htexts hinput
  have ⟨houtput, hending⟩ := (Says.endOfInput hanswered).converse
  refine ⟨Calculator.givesReasons_standard, texts.map (said calculator),
    map_output_of_answered hanswered, ?_, hending, ?_⟩
  · rw [session, houtput]
  · rw [← hevaluated]
    exact hready.forall₂_told hreasons hevents

/-- The panel has shown three places once. Between the two entries all is reset, so that
nothing stands beside the fault. -/
theorem hosts_agree_division_refused :
    (∀ text ∈ [['1', '/', '3'], [' ', '5', '/', '0']], IsEntry text) ∧
      Typed [['1', '/', '3'], [' ', '5', '/', '0']] [49, 47, 51, 10, 32, 53, 47, 48] ∧
      ((Panel.start .standard).run [.setPlaces 3, .reset]).places = 28 ∧
      ∃ first second,
        (session .standard [49, 47, 51, 10, 32, 53, 47, 48]).output =
            banner ++ (transcript [first, second] ++ "> \n") ∧
          List.Forall₂ Panel.Evaluation.Told
            (((Panel.start .standard).run [.setPlaces 3, .reset]).evaluations
              [.edit ['1', '/', '3'], .evaluate, .reset, .edit [' ', '5', '/', '0'], .evaluate])
            [first, second] := by
  have htexts : ∀ text ∈ [['1', '/', '3'], [' ', '5', '/', '0']], IsEntry text := by
    intro text htext
    have hplain : '\n' ∉ text ∧ trim text ≠ [] ∧ isQuitWord (trim text) = false := by
      revert text
      decide
    refine ⟨hplain.1, hplain.2.1, fun hquit => ?_⟩
    rw [isQuitWord_iff.mpr hquit] at hplain
    cases hplain.2.2
  have hinput : Typed [['1', '/', '3'], [' ', '5', '/', '0']] [49, 47, 51, 10, 32, 53, 47, 48] := by
    have hfirst : Encodes ['1', '/', '3'] [49, 47, 51] := rfl
    exact .ended hfirst (.unended rfl)
  have hevents : ∀ places, Panel.Event.setPlaces places ∉ [.edit ['1', '/', '3'], .evaluate, .reset,
      .edit [' ', '5', '/', '0'], .evaluate] := by
    simp
  have hevaluated : ((Panel.start .standard).run [.setPlaces 3, .reset]).evaluated
      [.edit ['1', '/', '3'], .evaluate, .reset, .edit [' ', '5', '/', '0'], .evaluate] =
        [['1', '/', '3'], [' ', '5', '/', '0']] := by
    decide +kernel
  obtain ⟨_, replies, _, houtput, _, htold⟩ :=
    hosts_agree Calculator.givesReasons_standard htexts hinput rfl hevents hevaluated
  have hlength : replies.length = 2 := htold.length_eq.symm
  obtain ⟨first, second, rfl⟩ := List.length_eq_two.mp hlength
  exact ⟨htexts, hinput, rfl, first, second, houtput, htold⟩

end Reckoner
