import Reckoner.Proofs.Gap
import Reckoner.Proofs.Keys

/-! # Entries made of pieces

An entry that only buttons and Escape have changed is a stack of pieces. Spaces stand in
it nowhere but beside the pieces that they set off, and a letter only inside a root; so
deleting takes off one whole piece and its spaces, and the scanner reads the pieces as if
there were no spaces at all. -/

namespace Reckoner
open Text Token

namespace Piece

def SetsOff (piece : Piece) (gap : List Char) : Prop :=
  (∀ c ∈ gap, c = ' ') ∧ (piece.isSpaced = false → gap = [])

theorem setsOff_nil (piece : Piece) : SetsOff piece [] := ⟨nofun, fun _ => rfl⟩

theorem SetsOff.isBlank {piece : Piece} {gap : List Char} (h : SetsOff piece gap) :
    ∀ c ∈ gap, isBlank c = true := by
  intro c hc
  rw [h.1 c hc]
  decide

theorem text_eq (piece : Piece) :
    ∃ gap, SetsOff piece gap ∧ piece.text = gap ++ (piece.symbol ++ gap) := by
  unfold text
  split
  · rename_i hspaced
    refine ⟨[' '], ⟨by simp, by simp [hspaced]⟩, by simp⟩
  · exact ⟨[], setsOff_nil piece, by simp⟩

/-- Only the symbol of a root is longer than one character. No other ends in a letter. -/
theorem symbol_cases (piece : Piece) :
    piece = root ∨ ∃ c, piece.symbol = [c] ∧ c ≠ ' ' ∧ c ≠ 't' ∧ (c = '(' → piece = lparen) := by
  cases piece with
  | digit value =>
    have key : ∀ value : Fin 10, value.val.digitChar ≠ ' ' ∧ value.val.digitChar ≠ 't' ∧
        value.val.digitChar ≠ '(' := by decide
    obtain ⟨hspace, hletter, hparen⟩ := key value
    exact .inr ⟨_, rfl, hspace, hletter, fun h => absurd h hparen⟩
  | lparen => exact .inr ⟨'(', rfl, by decide, by decide, fun _ => rfl⟩
  | root => exact .inl rfl
  | _ => exact .inr ⟨_, rfl, by decide, by decide, by decide⟩

theorem space_not_mem_symbol (piece : Piece) : ' ' ∉ piece.symbol := by
  cases piece with
  | digit value =>
    have key : ∀ value : Fin 10, ' ' ∉ (digit value).symbol := by decide
    exact key value
  | _ => decide

theorem symbol_of_isSpaced {piece : Piece} (h : piece.isSpaced = true) :
    ∃ c ∈ operatorSymbols, piece.symbol = [c] := by
  cases piece with
  | plus => exact ⟨'+', by decide, rfl⟩
  | minus => exact ⟨'-', by decide, rfl⟩
  | times => exact ⟨'*', by decide, rfl⟩
  | slash => exact ⟨'/', by decide, rfl⟩
  | _ => cases h

theorem apart_of_isSpaced {piece : Piece} (h : piece.isSpaced = true) :
    (∀ first second, Apart first (piece.symbol ++ second)) ∧
      ∀ first second, Apart (first ++ piece.symbol) second := by
  obtain ⟨c, hc, hsymbol⟩ := symbol_of_isSpaced h
  have hclass := class_of_mem_marks (mem_marks_of_mem_operatorSymbols hc).1
  have hsymbols : operatorSymbols.all (fun c => !inNumeral c) = true := by decide
  have hnumeral : inNumeral c = false := by simpa using List.all_eq_true.mp hsymbols c hc
  rw [hsymbol]
  constructor
  · intro first second d _ e he
    cases he
    simp [hnumeral, hclass.2.2]
  · intro first second d hd e _
    rw [List.getLast?_concat] at hd
    cases hd
    simp [hnumeral, hclass.2.2]

end Piece

namespace Panel

/-- The entry is made of these pieces, the last of which comes first here. -/
inductive Holds : List Piece → List Char → Prop where
  | nil : Holds [] []
  | cons {pieces : List Piece} {entry before after : List Char} (h : Holds pieces entry)
      (piece : Piece) (hbefore : piece.SetsOff before) (hafter : piece.SetsOff after) :
      Holds (piece :: pieces) (entry ++ (before ++ (piece.symbol ++ after)))

def spelled (pieces : List Piece) : List Char := pieces.reverse.flatMap Piece.symbol

@[simp] theorem spelled_cons (piece : Piece) (pieces : List Piece) :
    spelled (piece :: pieces) = spelled pieces ++ piece.symbol := by
  simp [spelled]

theorem dropTrailing_symbol (text : List Char) (piece : Piece) :
    dropTrailing (· == ' ') (text ++ piece.symbol) = text ++ piece.symbol := by
  rcases piece.symbol_cases with rfl | ⟨c, hsymbol, hspace, _⟩
  · have hsplit : text ++ Piece.root.symbol = text ++ Calculator.rootName ++ ['('] := by
      simp [Piece.symbol]
    rw [hsplit, dropTrailing_append_of_neg (p := (· == ' ')) rfl]
  · have hc : (c == ' ') = false := by simpa using hspace
    rw [hsymbol, dropTrailing_append_of_neg (p := (· == ' ')) hc]

namespace Holds
variable {pieces : List Piece} {entry : List Char}

theorem insert (h : Holds pieces entry) (piece : Piece) :
    Holds (piece :: pieces) (entry ++ piece.text) := by
  obtain ⟨gap, hgap, htext⟩ := piece.text_eq
  rw [htext]
  exact .cons h piece hgap hgap

theorem dropTrailing_cons {piece : Piece} {before after : List Char}
    (hafter : piece.SetsOff after) :
    dropTrailing (· == ' ') (entry ++ (before ++ (piece.symbol ++ after))) =
      entry ++ (before ++ piece.symbol) := by
  have hspaces : ∀ c ∈ after, (c == ' ') = true := by simpa using hafter.1
  rw [← List.append_assoc, ← List.append_assoc, dropTrailing_append_of_all hspaces,
    dropTrailing_symbol, List.append_assoc]

theorem dropTrailing (h : Holds pieces entry) : Holds pieces (dropTrailing (· == ' ') entry) := by
  cases h with
  | nil => exact .nil
  | @cons pieces entry before after h piece hbefore hafter =>
    rw [dropTrailing_cons hafter, ← List.append_nil piece.symbol]
    exact .cons h piece hbefore piece.setsOff_nil

theorem not_letter_at_end (h : Holds pieces entry) : 't' ∉ entry.getLast? := by
  cases h with
  | nil => simp
  | @cons pieces entry before after h piece hbefore hafter =>
    obtain ⟨d, hd, hne⟩ : ∃ d, piece.symbol.getLast? = some d ∧ d ≠ 't' := by
      rcases piece.symbol_cases with rfl | ⟨c, hsymbol, _, hc, _⟩
      · exact ⟨'(', rfl, by decide⟩
      · exact ⟨c, by rw [hsymbol]; rfl, hc⟩
    have hlast : (entry ++ (before ++ (piece.symbol ++ after))).getLast? =
        after.getLast?.or (some d) := by
      simp [List.getLast?_append, hd]
    rw [hlast]
    cases hspace : after.getLast? with
    | none => simpa using hne
    | some c => simp [hafter.1 c (List.mem_of_getLast? hspace)]

theorem not_isSuffixOf (h : Holds pieces entry) {piece : Piece} {before : List Char}
    (hbefore : piece.SetsOff before) (hroot : piece ≠ .root) :
    Piece.root.symbol.isSuffixOf (entry ++ (before ++ piece.symbol)) = false := by
  obtain ⟨c, hsymbol, _, _, hparen⟩ := piece.symbol_cases.resolve_left hroot
  rw [Bool.eq_false_iff, ne_eq, List.isSuffixOf_iff_suffix, hsymbol]
  intro hsuffix
  obtain ⟨front, hfront⟩ := hsuffix
  have hsplit : (front ++ Calculator.rootName) ++ ['('] = (entry ++ before) ++ [c] := by
    simpa [Piece.symbol] using hfront
  obtain ⟨hname, hlast⟩ := List.append_inj' hsplit rfl
  have hlparen : piece = .lparen := hparen (List.cons.inj hlast).1.symm
  have hempty : before = [] := hbefore.2 (hlparen ▸ rfl)
  rw [hempty, List.append_nil] at hname
  apply h.not_letter_at_end
  simp [← hname, Calculator.rootName]

theorem withoutLast (h : Holds pieces entry) : Holds pieces.tail (withoutLast entry) := by
  cases h with
  | nil => exact .nil
  | @cons pieces entry before after h piece hbefore hafter =>
    have hspaces : ∀ c ∈ before, (c == ' ') = true := by simpa using hbefore.1
    have hrest : Text.dropTrailing (· == ' ') (entry ++ before) =
        Text.dropTrailing (· == ' ') entry := dropTrailing_append_of_all hspaces entry
    rw [Panel.withoutLast, dropTrailing_cons hafter]
    -- An entry looks as if it ended in a root only if it does, so no piece loses a part.
    by_cases hroot : piece = .root
    · subst piece
      have hsuffix :
          Piece.root.symbol.isSuffixOf (entry ++ (before ++ Piece.root.symbol)) = true := by
        rw [List.isSuffixOf_iff_suffix, ← List.append_assoc]
        exact List.suffix_append _ _
      have hshorter : (entry ++ (before ++ Piece.root.symbol)).take
          ((entry ++ (before ++ Piece.root.symbol)).length - Piece.root.symbol.length) =
            entry ++ before := by
        rw [← List.append_assoc]
        exact List.take_left' (by simp only [List.length_append]; omega)
      simp only [hsuffix, if_true, hshorter, hrest]
      exact h.dropTrailing
    · obtain ⟨c, hsymbol, _⟩ := piece.symbol_cases.resolve_left hroot
      have hshorter : (entry ++ (before ++ piece.symbol)).dropLast = entry ++ before := by
        rw [hsymbol, ← List.append_assoc, List.dropLast_concat]
      simp only [h.not_isSuffixOf hbefore hroot, Bool.false_eq_true, if_false, hshorter, hrest]
      exact h.dropTrailing

theorem filter_eq (h : Holds pieces entry) : entry.filter (· != ' ') = spelled pieces := by
  have hspaces : ∀ gap : List Char, (∀ c ∈ gap, c = ' ') → gap.filter (· != ' ') = [] := by
    intro gap hgap
    rw [List.filter_eq_nil_iff]
    simpa using hgap
  induction h with
  | nil => rfl
  | @cons pieces entry before after h piece hbefore hafter ih =>
    have hsymbol : piece.symbol.filter (· != ' ') = piece.symbol := by
      rw [List.filter_eq_self]
      intro c hc
      rw [bne_iff_ne]
      rintro rfl
      exact piece.space_not_mem_symbol hc
    simp [ih, hspaces before hbefore.1, hspaces after hafter.1, hsymbol]

theorem scanAfter_eq (h : Holds pieces entry) (previous : Option Token) (tail : List Char) :
    scanAfter previous (entry ++ tail) = scanAfter previous (spelled pieces ++ tail) := by
  induction h generalizing tail with
  | nil => rfl
  | @cons pieces entry before after h piece hbefore hafter ih =>
    have hsplit : entry ++ (before ++ (piece.symbol ++ after)) ++ tail =
        entry ++ (before ++ (piece.symbol ++ (after ++ tail))) := by simp
    rw [hsplit, ih, spelled_cons]
    cases hspaced : piece.isSpaced with
    | false =>
      rw [hbefore.2 hspaced, hafter.2 hspaced]
      simp
    | true =>
      obtain ⟨hleft, hright⟩ := piece.apart_of_isSpaced hspaced
      rw [scanAfter_insert_gap hbefore.isBlank (hleft _ _), ← List.append_assoc,
        scanAfter_insert_gap hafter.isBlank (hright _ _)]

end Holds

end Panel

namespace Window
open Panel

/-- What an event other than an edit does to the pieces of the entry. -/
def piecesStep (pieces : List Piece) : Event → List Piece
  | .press (.insert piece) => piece :: pieces
  | .press .delete => pieces.tail
  | .press .clearEntry | .press .reset | .escape => []
  | _ => pieces

/-- The pieces that survive a run of events, the last of which comes first here. -/
def piecesAfter (events : List Event) : List Piece := events.foldl piecesStep []

theorem holds_press {panel : Panel} {pieces : List Piece} (h : Holds pieces panel.entry)
    (button : Button) : Holds (piecesStep pieces (.press button)) (panel.press button).entry := by
  cases button with
  | insert piece => exact h.insert piece
  | delete => exact h.withoutLast
  | evaluate =>
    have hentry : panel.evaluate.entry = panel.entry := by
      rw [evaluate]
      cases (panel.calculator.answer panel.entry).outcome <;> rfl
    rw [Panel.press, hentry]
    exact h
  | clearEntry => exact .nil
  | clearResults => exact h
  | reset => exact .nil

theorem holds_step {window : Window} {pieces : List Piece} (h : Holds pieces window.panel.entry)
    {event : Event} (hevent : ∀ entry, event ≠ .edit entry) :
    Holds (piecesStep pieces event) (window.step event).panel.entry := by
  cases event with
  | edit entry => exact absurd rfl (hevent entry)
  | press button => exact holds_press h button
  | setPlaces places =>
    rw [step]
    split
    · exact h
    · exact h
  | escape => exact .nil
  | enter => exact h
  | controlEnter =>
    rw [step]
    split
    · exact holds_press h .evaluate
    · exact h

theorem holds_run {window : Window} {pieces : List Piece} (h : Holds pieces window.panel.entry)
    {events : List Event} (hevents : ∀ entry, .edit entry ∉ events) :
    Holds (events.foldl piecesStep pieces) (window.run events).panel.entry := by
  induction events generalizing window pieces with
  | nil => exact h
  | cons event events ih =>
    have hevent : ∀ entry, event ≠ .edit entry := by
      intro entry heq
      exact hevents entry (heq ▸ List.mem_cons_self)
    exact ih (holds_step h hevent) fun entry hentry =>
      hevents entry (List.mem_cons_of_mem event hentry)

/-- An entry that only buttons and Escape have changed is what is left on a stack of
pieces: without its spaces it spells them, and it is read, and evaluated, as they are. -/
theorem pieces_evaluate (calculator : Calculator) (events : List Event)
    (hevents : ∀ entry, .edit entry ∉ events) :
    let panel := ((start calculator).run events).panel
    let pieces := spelled (piecesAfter events)
    panel.entry.filter (· != ' ') = pieces ∧ scan panel.entry = scan pieces ∧
      panel.evaluate = panel.showOutcome (calculator.work pieces).outcome := by
  intro panel pieces
  have hholds : Holds (piecesAfter events) panel.entry := holds_run .nil hevents
  have hscan : scan panel.entry = scan pieces := by
    simpa [scan, pieces] using hholds.scanAfter_eq none []
  obtain ⟨history, hstart⟩ := exists_agrees_start calculator
  obtain ⟨later, hagrees⟩ := exists_agrees_run hstart events
  refine ⟨hholds.filter_eq, hscan, ?_⟩
  rw [evaluate, Calculator.outcome_answer, hagrees.calculator_eq,
    Calculator.outcome_work_of_scan_eq calculator hscan]

/-- Two deletions take off the point and the whole root, not the plus before them. -/
theorem pieces_evaluate_deletions :
    (∀ entry, .edit entry ∉ [Event.press (.insert (.digit 1)), .press (.insert .plus),
        .press (.insert .root), .press (.insert .point), .press .delete, .press .delete,
        .setPlaces 3, .press (.insert (.digit 2))]) ∧
      scan ((start .standard).run [.press (.insert (.digit 1)), .press (.insert .plus),
        .press (.insert .root), .press (.insert .point), .press .delete, .press .delete,
        .setPlaces 3, .press (.insert (.digit 2))]).panel.entry = scan ['1', '+', '2'] := by
  constructor
  · simp
  · exact (pieces_evaluate .standard _ (by simp)).2.1

end Window

end Reckoner
