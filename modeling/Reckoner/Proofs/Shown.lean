import Reckoner.Journal
import Reckoner.Proofs.Fraction

/-! # What a note shows

A note is shown as its level and a line. The line for a function or an operator that was
carried out has its name or symbol, its operands from left to right and its value, all in
full, and it can be read in this way only. -/

namespace Reckoner
open Fraction Text

def Record.shown (record : Record) : Level × String := (record.level, record.message)

/-- The line for tokens: their texts with one space between them, after a label. -/
def listed (label : String) (tokens : List Token) : String :=
  label ++ ": " ++ String.ofList ([' '].intercalate (tokens.map Token.text))

/-- What a host shows of an entry besides the work on it: a warning with the entry in quotes
and the message of the fault, if there is one. -/
def warning {α : Type} (entry : List Char) : Except Fault α → List (Level × String)
  | .ok _ => []
  | .error fault =>
    [(.warn, "évaluation refusée pour " ++ String.ofList (quote '"' entry) ++ ": " ++
      fault.message)]

/-- The line reads as the application of a function or an operator to values, with its own
value after that. -/
inductive ReadsAs : String → Applied → List Rat → Rat → Prop where
  | function {name a c : List Char} {x v : Rat} (ha : Denotes a x) (hc : Denotes c v) :
      ReadsAs (String.ofList (name ++ '(' :: a ++ [')', ' ', '=', ' '] ++ c)) (.function name) [x] v
  | operator {symbol : Char} {a b c : List Char} {x y v : Rat} (ha : Denotes a x)
      (hb : Denotes b y) (hc : Denotes c v) :
      ReadsAs (String.ofList (a ++ [' ', symbol, ' '] ++ b ++ [' ', '=', ' '] ++ c))
        (.operator symbol) [x, y] v

/-- The line reads as this and as nothing else. -/
def Shows (line : String) (applied : Applied) (operands : List Rat) (value : Rat) : Prop :=
  ∀ other xs v, ReadsAs line other xs v ↔ other = applied ∧ xs = operands ∧ v = value

namespace ReadsAs
variable {line : String} {applied other : Applied} {operands xs : List Rat} {v w : Rat}
  {name name' a a' b b' c c' : List Char} {symbol symbol' : Char}

theorem not_mark_at_end {tail : List Char} (hne : tail ≠ []) (h : mark (tail.getLast hne) = false)
    (text : List Char) : ∀ d ∈ (text ++ tail).getLast?, mark d = false := by
  intro d hd
  rw [List.getLast?_append_of_ne_nil _ hne, List.getLast?_eq_some_getLast hne] at hd
  cases hd
  exact h

theorem function_line_inj (ha : ∀ d ∈ a, mark d = true) (ha' : ∀ d ∈ a', mark d = true)
    (hc : ∀ d ∈ c, mark d = true) (hc' : ∀ d ∈ c', mark d = true)
    (h : name ++ '(' :: a ++ [')', ' ', '=', ' '] ++ c =
      name' ++ '(' :: a' ++ [')', ' ', '=', ' '] ++ c') : name = name' ∧ a = a' ∧ c = c' := by
  -- The name may be any text, so the line is read from its end.
  have hequals : ∀ text, ∀ d ∈ (text ++ [')', ' ', '=', ' ']).getLast?, mark d = false :=
    not_mark_at_end (by simp) rfl
  have hopening : ∀ text, ∀ d ∈ (text ++ ['(']).getLast?, mark d = false :=
    not_mark_at_end (by simp) rfl
  obtain ⟨hcall, hvalue⟩ := append_inj_of_trailing_runs hc hc' (hequals _) (hequals _) h
  have hopened : name ++ ['('] ++ a = name' ++ ['('] ++ a' := by
    simpa using List.append_cancel_right hcall
  obtain ⟨hname, hargument⟩ :=
    append_inj_of_trailing_runs ha ha' (hopening _) (hopening _) hopened
  exact ⟨List.append_cancel_right hname, hargument, hvalue⟩

theorem operator_line_inj (ha : ∀ d ∈ a, mark d = true) (ha' : ∀ d ∈ a', mark d = true)
    (hb : ∀ d ∈ b, mark d = true) (hb' : ∀ d ∈ b', mark d = true)
    (h : a ++ [' ', symbol, ' '] ++ b ++ [' ', '=', ' '] ++ c =
      a' ++ [' ', symbol', ' '] ++ b' ++ [' ', '=', ' '] ++ c') :
    a = a' ∧ symbol = symbol' ∧ b = b' ∧ c = c' := by
  simp only [List.append_assoc] at h
  obtain ⟨hleft, hrest⟩ := append_inj_of_runs ha ha' (by simp [mark, isDigit])
    (by simp [mark, isDigit]) h
  simp only [List.cons_append, List.nil_append, List.cons.injEq, true_and] at hrest
  obtain ⟨hsymbol, hrest⟩ := hrest
  obtain ⟨hright, hrest⟩ := append_inj_of_runs hb hb' (by simp [mark, isDigit])
    (by simp [mark, isDigit]) hrest
  exact ⟨hleft, hsymbol, hright, by simpa using hrest⟩

/-- A parenthesis stands before the sign of equality in one line and a numeral in the
other. -/
theorem function_line_ne_operator_line (hb : ∀ d ∈ b', mark d = true) (hne : b' ≠ [])
    (hc : ∀ d ∈ c, mark d = true) (hc' : ∀ d ∈ c', mark d = true) :
    name ++ '(' :: a ++ [')', ' ', '=', ' '] ++ c ≠
      a' ++ [' ', symbol, ' '] ++ b' ++ [' ', '=', ' '] ++ c' := by
  intro h
  obtain ⟨happlied, -⟩ := append_inj_of_trailing_runs hc hc' (not_mark_at_end (by simp) rfl _)
    (not_mark_at_end (by simp) rfl _) h
  have hequals : (name ++ '(' :: a ++ [')']) ++ [' ', '=', ' '] =
      a' ++ [' ', symbol, ' '] ++ b' ++ [' ', '=', ' '] := by
    rw [List.append_assoc]
    exact happlied
  have hlast := congrArg List.getLast? (List.append_cancel_right hequals)
  rw [List.getLast?_concat, List.getLast?_append_of_ne_nil _ hne] at hlast
  have hclose : mark ')' = true := hb ')' (List.mem_of_getLast? hlast.symm)
  exact absurd hclose (by decide)

theorem unique (h : ReadsAs line applied operands v) (h' : ReadsAs line other xs w) :
    other = applied ∧ xs = operands ∧ w = v := by
  generalize hline : line = second at h'
  cases h with
  | function ha hc =>
    cases h' with
    | function ha' hc' =>
      obtain ⟨rfl, rfl, rfl⟩ := function_line_inj ha.mark ha'.mark hc.mark hc'.mark
        (String.ofList_injective hline)
      rw [ha.unique ha', hc.unique hc']
      exact ⟨rfl, rfl, rfl⟩
    | operator ha' hb' hc' =>
      exact absurd (String.ofList_injective hline)
        (function_line_ne_operator_line hb'.mark hb'.ne_nil hc.mark hc'.mark)
  | operator ha hb hc =>
    cases h' with
    | function ha' hc' =>
      exact absurd (String.ofList_injective hline.symm)
        (function_line_ne_operator_line hb.mark hb.ne_nil hc'.mark hc.mark)
    | operator ha' hb' hc' =>
      obtain ⟨rfl, rfl, rfl, rfl⟩ := operator_line_inj ha.mark ha'.mark hb.mark hb'.mark
        (String.ofList_injective hline)
      rw [ha.unique ha', hb.unique hb', hc.unique hc']
      exact ⟨rfl, rfl, rfl⟩

theorem shows (h : ReadsAs line applied operands v) : Shows line applied operands v := by
  intro other xs w
  constructor
  · exact h.unique
  · rintro ⟨rfl, rfl, rfl⟩
    exact h

end ReadsAs

theorem shows_called (name : List Char) (x v : Rat) :
    Shows (Record.called name x v).message (.function name) [x] v :=
  (ReadsAs.function (denotes_write x) (denotes_write v)).shows

theorem shows_combined (symbol : Char) (x y v : Rat) :
    Shows (Record.combined symbol x y v).message (.operator symbol) [x, y] v :=
  (ReadsAs.operator (denotes_write x) (denotes_write y) (denotes_write v)).shows

end Reckoner
