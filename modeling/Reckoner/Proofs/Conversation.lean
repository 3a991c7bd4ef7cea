import Reckoner.Console
import Reckoner.Proofs.Entry
import Reckoner.Proofs.Text.Lines

/-! # Conversations

What a conversation says, read off its lines alone. A line is answered or it ends the
conversation, and nothing but the line decides which. So what is said is one reply after
another up to the first line that ends it, and that line and all after it leave no trace
but how it ended. -/

namespace Reckoner.Console
open Text Outcome

def quitWords : List (List (Char × Char)) :=
  [[('e', 'E'), ('x', 'X'), ('i', 'I'), ('t', 'T')], [('q', 'Q')]]

/-- The text is a word in any mix of small letters and capitals. -/
def Spells (word : List (Char × Char)) (text : List Char) : Prop :=
  List.Forall₂ (fun letter c => c = letter.1 ∨ c = letter.2) word text

def QuitWord (entry : List Char) : Prop := ∃ word ∈ quitWords, Spells word entry

/-- How a line ends the conversation. -/
inductive Ends (line : List UInt8) : Ending → Prop where
  | invalidText (h : ∀ text, ¬ Encodes text line) : Ends line .invalidText
  | quit {text : List Char} (htext : Encodes text line) (hquit : QuitWord (trim text)) :
      Ends line .quit

/-- What a line is answered with. -/
inductive Answered (calculator : Calculator) (line : List UInt8) : String → Prop where
  | blank {text : List Char} (htext : Encodes text line) (hblank : ∀ c ∈ text, isBlank c = true) :
      Answered calculator line "Expression vide."
  | value {text : List Char} {v : Rat} (htext : Encodes text line) (hquit : ¬ QuitWord (trim text))
      (hvalue : (calculator.evaluate text).outcome = .ok v) :
      Answered calculator line ("= " ++ String.ofList (Decimal.write 28 v))
  | fault {text : List Char} {fault : Fault} (htext : Encodes text line)
      (hblank : ∃ c ∈ text, isBlank c = false) (hquit : ¬ QuitWord (trim text))
      (hfault : (calculator.evaluate text).outcome = .error fault) :
      Answered calculator line ("Erreur: " ++ fault.message)

section Words

theorem toNat_toLower (c : Char) :
    c.toLower.toNat = if 65 ≤ c.toNat ∧ c.toNat ≤ 90 then c.toNat + 32 else c.toNat := by
  unfold Char.toLower
  split
  · rename_i h
    simp only [ge_iff_le, UInt32.le_iff_toNat_le] at h
    have hrange : 65 ≤ c.toNat ∧ c.toNat ≤ 90 := h
    have hsum : (c.val + 32).toNat = (c.val.toNat + 32) % 2 ^ 32 := UInt32.toNat_add c.val 32
    have hbound : c.val.toNat ≤ 90 := h.2
    rw [if_pos hrange]
    change (c.val + 32).toNat = c.val.toNat + 32
    omega
  · rename_i h
    simp only [ge_iff_le, UInt32.le_iff_toNat_le] at h
    exact (if_neg h).symm

def IsLetterPair (letter : Char × Char) : Prop :=
  97 ≤ letter.1.toNat ∧ letter.1.toNat ≤ 122 ∧ letter.2.toNat + 32 = letter.1.toNat

instance decidableIsLetterPair (letter : Char × Char) : Decidable (IsLetterPair letter) :=
  inferInstanceAs (Decidable (_ ∧ _ ∧ _))

theorem toLower_eq_iff {letter : Char × Char} (h : IsLetterPair letter) (c : Char) :
    c.toLower = letter.1 ↔ c = letter.1 ∨ c = letter.2 := by
  unfold IsLetterPair at h
  rw [← Char.toNat_inj, ← Char.toNat_inj, ← Char.toNat_inj, toNat_toLower]
  split <;> omega

theorem map_toLower_eq_iff {word : List (Char × Char)} (h : ∀ letter ∈ word, IsLetterPair letter)
    (text : List Char) : text.map Char.toLower = word.map Prod.fst ↔ Spells word text := by
  induction word generalizing text with
  | nil => cases text <;> simp [Spells]
  | cons letter word ih =>
    cases text with
    | nil => simp [Spells]
    | cons c text =>
      have hletter := toLower_eq_iff (h letter (by simp)) c
      have htext := ih (fun other hother => h other (by simp [hother])) text
      unfold Spells at htext ⊢
      rw [List.map_cons, List.map_cons, List.cons_eq_cons, hletter, htext, List.forall₂_cons]

theorem isQuitWord_iff {entry : List Char} : isQuitWord entry = true ↔ QuitWord entry := by
  have hletters : ∀ word ∈ quitWords, ∀ letter ∈ word, IsLetterPair letter := by
    decide
  have hexit := map_toLower_eq_iff (hletters [('e', 'E'), ('x', 'X'), ('i', 'I'), ('t', 'T')]
    (by simp [quitWords])) entry
  have hq := map_toLower_eq_iff (hletters [('q', 'Q')] (by simp [quitWords])) entry
  simp only [QuitWord, quitWords, List.mem_cons, List.not_mem_nil, or_false, exists_eq_or_imp,
    exists_eq_left, ← hexit, ← hq]
  simp [isQuitWord]

end Words

section Lines
variable {calculator : Calculator} {line : List UInt8}

theorem reply_of_blank {text : List Char} (h : ∀ c ∈ text, isBlank c = true) :
    reply calculator text = (.display "Expression vide.", []) := by
  rw [reply, trim_eq_nil_iff.mpr h]

theorem reply_of_quitWord {text : List Char} (h : QuitWord (trim text)) :
    reply calculator text = (.quit, []) := by
  have hquit := isQuitWord_iff.mpr h
  rw [reply]
  split
  · rename_i htrim
    rw [htrim] at hquit
    cases hquit
  · rw [if_pos hquit]

theorem reply_of_entry (calculator : Calculator) {text : List Char}
    (hblank : ∃ c ∈ text, isBlank c = false) (hquit : ¬ QuitWord (trim text)) :
    reply calculator text = (.display (report (calculator.work text).outcome),
      (calculator.answer (trim text)).records) := by
  rw [← isQuitWord_iff] at hquit
  rw [reply]
  split
  · rename_i htrim
    exact absurd htrim (trim_ne_nil_iff.mpr hblank)
  · have houtcome : (calculator.answer (trim text)).outcome = (calculator.work text).outcome := by
      rw [Calculator.outcome_answer, Calculator.outcome_work_trim]
    rw [if_neg hquit, ← houtcome]

theorem report_of_value {text : List Char} {v : Rat}
    (h : (calculator.evaluate text).outcome = .ok v) :
    report (calculator.work text).outcome = "= " ++ String.ofList (Decimal.write 28 v) := by
  rw [Calculator.outcome_evaluate_eq_map] at h
  obtain ⟨found, hfound, rfl⟩ := map_eq_ok_iff.mp h
  rw [hfound]
  rfl

theorem report_of_fault {text : List Char} {fault : Fault}
    (h : (calculator.evaluate text).outcome = .error fault) :
    report (calculator.work text).outcome = "Erreur: " ++ fault.message := by
  rw [Calculator.outcome_evaluate_eq_map] at h
  cases hwork : (calculator.work text).outcome with
  | ok found =>
    rw [hwork] at h
    cases h
  | error other =>
    rw [hwork] at h
    cases h
    rfl

theorem exists_not_blank_of_value {text : List Char} {v : Rat}
    (h : (calculator.evaluate text).outcome = .ok v) : ∃ c ∈ text, isBlank c = false := by
  rw [← trim_ne_nil_iff]
  intro htrim
  rw [Calculator.outcome_evaluate, if_pos htrim] at h
  cases h

theorem turn_of_entry {text : List Char} {said : String} (htext : Encodes text line)
    (hblank : ∃ c ∈ text, isBlank c = false) (hquit : ¬ QuitWord (trim text))
    (hsaid : report (calculator.work text).outcome = said) :
    ∃ records, turn calculator (some line) = ⟨said ++ "\n\n", records, none⟩ := by
  refine ⟨(calculator.answer (trim text)).records, ?_⟩
  simp only [turn, decode?_of_encodes htext, reply_of_entry calculator hblank hquit, hsaid]

theorem Answered.turn {said : String} (h : Answered calculator line said) :
    ∃ records, turn calculator (some line) = ⟨said ++ "\n\n", records, none⟩ := by
  cases h with
  | blank htext hblank =>
    refine ⟨[], ?_⟩
    simp only [Console.turn, decode?_of_encodes htext, reply_of_blank hblank]
  | value htext hquit hvalue =>
    exact turn_of_entry htext (exists_not_blank_of_value hvalue) hquit (report_of_value hvalue)
  | fault htext hblank hquit hfault =>
    exact turn_of_entry htext hblank hquit (report_of_fault hfault)

theorem Ends.turn (calculator : Calculator) {ending : Ending} (h : Ends line ending) :
    ∃ records, turn calculator (some line) = ⟨"", records, some ending⟩ := by
  cases h with
  | invalidText h =>
    refine ⟨[], ?_⟩
    simp only [Console.turn, decode?_eq_none_iff.mpr h]
  | quit htext hquit =>
    refine ⟨[.sessionEnded], ?_⟩
    simp only [Console.turn, decode?_of_encodes htext, reply_of_quitWord hquit, List.nil_append]

theorem answered_of_entry (calculator : Calculator) {text : List Char} (htext : Encodes text line)
    (hblank : ∃ c ∈ text, isBlank c = false) (hquit : ¬ QuitWord (trim text)) :
    Answered calculator line (report (calculator.work text).outcome) := by
  cases houtcome : (calculator.evaluate text).outcome with
  | ok v =>
    rw [report_of_value houtcome]
    exact .value htext hquit houtcome
  | error fault =>
    rw [report_of_fault houtcome]
    exact .fault htext hblank hquit houtcome

/-- Whatever a line is, it is answered or it ends the conversation. -/
theorem answered_or_ends (calculator : Calculator) (line : List UInt8) :
    (∃ said, Answered calculator line said) ∨ ∃ ending, Ends line ending := by
  by_cases htext : ∃ text, Encodes text line
  · obtain ⟨text, htext⟩ := htext
    by_cases hblank : ∀ c ∈ text, isBlank c = true
    · exact .inl ⟨_, .blank htext hblank⟩
    · by_cases hquit : QuitWord (trim text)
      · exact .inr ⟨_, .quit htext hquit⟩
      · exact .inl ⟨_, answered_of_entry calculator htext (by simpa using hblank) hquit⟩
  · exact .inr ⟨_, .invalidText (not_exists.mp htext)⟩

theorem Answered.unique {said other : String} (h : Answered calculator line said)
    (hother : Answered calculator line other) : said = other := by
  obtain ⟨records, hturn⟩ := h.turn
  obtain ⟨records', hturn'⟩ := hother.turn
  have houtput := congrArg Turn.output (hturn.symm.trans hturn')
  exact String.append_left_inj _ |>.mp houtput

theorem Ends.unique {ending other : Ending} (h : Ends line ending) (hother : Ends line other) :
    ending = other := by
  obtain ⟨records, hturn⟩ := h.turn .standard
  obtain ⟨records', hturn'⟩ := hother.turn .standard
  exact Option.some.inj (congrArg Turn.ending (hturn.symm.trans hturn'))

theorem Ends.not_answered {ending : Ending} {said : String} (h : Ends line ending) :
    ¬ Answered calculator line said := by
  intro hsaid
  obtain ⟨records, hturn⟩ := h.turn calculator
  obtain ⟨records', hturn'⟩ := hsaid.turn
  cases congrArg Turn.ending (hturn.symm.trans hturn')

end Lines

def transcript (replies : List String) : String :=
  String.join (replies.map fun said => "> " ++ said ++ "\n\n")

/-- All that is said over these lines, and how it ends. -/
inductive Says (calculator : Calculator) : List (List UInt8) → String → Ending → Prop where
  | endOfInput {heard : List (List UInt8)} {replies : List String}
      (hheard : List.Forall₂ (Answered calculator) heard replies) :
      Says calculator heard (transcript replies ++ "> \n") .endOfInput
  | ended {heard : List (List UInt8)} {replies : List String} {line : List UInt8} {ending : Ending}
      (hheard : List.Forall₂ (Answered calculator) heard replies) (hline : Ends line ending)
      (later : List (List UInt8)) :
      Says calculator (heard ++ line :: later) (transcript replies ++ "> ") ending

section Runs
variable {calculator : Calculator}

theorem converse_append {heard : List (List UInt8)} {replies : List String}
    (h : List.Forall₂ (Answered calculator) heard replies) (left : List (List UInt8)) :
    (converse calculator (heard ++ left)).output =
        transcript replies ++ (converse calculator left).output ∧
      (converse calculator (heard ++ left)).ending = (converse calculator left).ending := by
  induction h with
  | nil => simp [transcript]
  | @cons line said heard replies hline _ ih =>
    obtain ⟨records, hturn⟩ := hline.turn
    obtain ⟨houtput, hending⟩ := ih
    simp only [List.cons_append, converse, hturn, houtput, hending, transcript, prompt]
    simp [String.append_assoc]

theorem Says.converse {lines : List (List UInt8)} {output : String} {ending : Ending}
    (h : Says calculator lines output ending) :
    (converse calculator lines).output = output ∧
      (converse calculator lines).ending = ending := by
  cases h with
  | endOfInput hheard =>
    have hrun := converse_append hheard []
    rw [List.append_nil] at hrun
    exact hrun
  | @ended heard replies line ending hheard hline later =>
    have hrun := converse_append hheard (line :: later)
    obtain ⟨records, hturn⟩ := hline.turn calculator
    have hlast : Console.converse calculator (line :: later) = ⟨"> ", records, ending⟩ := by
      rw [Console.converse, hturn]
      rfl
    rw [hlast] at hrun
    exact hrun

theorem exists_says (calculator : Calculator) (lines : List (List UInt8)) :
    ∃ output ending, Says calculator lines output ending := by
  induction lines with
  | nil => exact ⟨_, _, .endOfInput .nil⟩
  | cons line lines ih =>
    rcases answered_or_ends calculator line with ⟨said, hsaid⟩ | ⟨ending, hending⟩
    · obtain ⟨output, ending, hsays⟩ := ih
      cases hsays with
      | endOfInput hheard => exact ⟨_, _, .endOfInput (.cons hsaid hheard)⟩
      | ended hheard hline later => exact ⟨_, _, .ended (.cons hsaid hheard) hline later⟩
    · exact ⟨_, _, .ended .nil hending lines⟩

theorem converse_of_ends {line : List UInt8} {ending : Ending} (h : Ends line ending)
    (heard later other : List (List UInt8)) :
    converse calculator (heard ++ line :: later) =
      converse calculator (heard ++ line :: other) := by
  induction heard with
  | nil =>
    obtain ⟨records, hturn⟩ := h.turn calculator
    rw [List.nil_append, List.nil_append, converse, converse, hturn]
  | cons first heard ih => rw [List.cons_append, List.cons_append, converse, converse, ih]

end Runs

/-- What a session says is the banner and then what is said over its lines: a reply to each
line before the first that ends it. A line alone decides which of the two it is and what
the reply is, and what comes after a line that ends the session changes nothing. -/
theorem session_says_iff (calculator : Calculator) (input : List UInt8) :
    (∀ output ending,
      ((session calculator input).output = output ∧ (session calculator input).ending = ending) ↔
        ∃ lines said, CutInto input lines ∧ Says calculator lines said ending ∧
          output = banner ++ said) ∧
      (∀ line, ((∃! said, Answered calculator line said) ∧ ∀ ending, ¬ Ends line ending) ∨
        (∃! ending, Ends line ending) ∧ ∀ said, ¬ Answered calculator line said) ∧
      ∀ heard line ending later other changed, Ends line ending →
        CutInto input (heard ++ line :: later) → CutInto changed (heard ++ line :: other) →
        session calculator changed = session calculator input := by
  refine ⟨?_, ?_, ?_⟩
  · intro output ending
    constructor
    · intro h
      obtain ⟨houtput, hending⟩ := h
      obtain ⟨said, closing, hsays⟩ := exists_says calculator (lines input)
      obtain ⟨hsaid, hclosing⟩ := hsays.converse
      rw [hclosing.symm.trans hending] at hsays
      refine ⟨lines input, said, cutInto_lines input, hsays, ?_⟩
      rw [← houtput, ← hsaid]
      rfl
    · intro h
      obtain ⟨cut, said, hcut, hsays, rfl⟩ := h
      obtain ⟨hsaid, hending⟩ := hsays.converse
      rw [session, cutInto_iff.mp hcut]
      exact ⟨congrArg (banner ++ ·) hsaid, hending⟩
  · intro line
    rcases answered_or_ends calculator line with ⟨said, hsaid⟩ | ⟨ending, hending⟩
    · exact .inl ⟨⟨said, hsaid, fun other hother => hother.unique hsaid⟩,
        fun ending hending => hending.not_answered hsaid⟩
    · exact .inr ⟨⟨ending, hending, fun other hother => hother.unique hending⟩,
        fun said => hending.not_answered⟩
  · intro heard line ending later other changed hline hinput hchanged
    rw [session, session, cutInto_iff.mp hinput, cutInto_iff.mp hchanged,
      converse_of_ends hline heard other later]

/-- The byte after the quit word would be no text, but nobody reads it. -/
example :
    (session .standard [49, 47, 48, 10, 81, 10, 255]).output =
        banner ++ "> Erreur: Division par zéro interdite.\n\n> " ∧
      (session .standard [49, 47, 48, 10, 81, 10, 255]).ending = .quit := by
  decide +kernel

end Reckoner.Console
