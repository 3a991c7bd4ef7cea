import Mathlib.Data.Rat.Defs
import Mathlib.Tactic.FieldSimp
import Mathlib.Tactic.Ring
import Reckoner.Proofs.Text.Runs
import Reckoner.Token.Scan

/-! # Numerals

Decimal literals as they are written and as they are meant: a digit counts as many
units as its place says. The readers give this value, up to the greatest number of
places that they can tell apart. -/

namespace Reckoner
open Number Text

/-- A decimal literal: digits, and maybe a point with digits after it. -/
structure Numeral where
  whole : List Char
  fraction? : Option (List Char)
  isDigit_whole : ∀ c ∈ whole, isDigit c = true
  isDigit_fraction : ∀ c ∈ fraction?.getD [], isDigit c = true
  nonempty : whole ++ fraction?.getD [] ≠ []
  length_fraction : (fraction?.getD []).length < 2 ^ 32

namespace Numeral

def fraction (n : Numeral) : List Char := n.fraction?.getD []

def pointed (n : Numeral) : List Char :=
  match n.fraction? with
  | none => []
  | some fraction => '.' :: fraction

def text (n : Numeral) : List Char := n.whole ++ n.pointed

def digit (c : Char) (h : isDigit c = true) : Numeral where
  whole := [c]
  fraction? := none
  isDigit_whole := by simpa using h
  isDigit_fraction := nofun
  nonempty := by simp
  length_fraction := by decide

def tenths (c : Char) (h : isDigit c = true) : Numeral where
  whole := []
  fraction? := some [c]
  isDigit_whole := by simp
  isDigit_fraction := by simpa using h
  nonempty := by simp
  length_fraction := by simp

def digitValue (c : Char) : Nat := c.toNat - '0'.toNat

/-- The digits before a point, the last of which counts ones. -/
def wholeValue : List Char → Nat
  | [] => 0
  | c :: rest => digitValue c * 10 ^ rest.length + wholeValue rest

/-- The digits after a point, the first of which counts tenths. -/
def fractionValue : List Char → Rat
  | [] => 0
  | c :: rest => (digitValue c + fractionValue rest) / 10

def value (n : Numeral) : Rat := wholeValue n.whole + fractionValue n.fraction

theorem ofDigits_eq_wholeValue (run : List Char) : ofDigits run = wholeValue run := by
  induction run with
  | nil => rfl
  | cons c rest ih =>
    rw [ofDigits, Nat.ofDigitChars_cons, Nat.ofDigitChars_eq_ofDigitChars_zero, wholeValue, ← ih]
    simp only [Nat.mul_zero, Nat.zero_add, digitValue]
    rw [Nat.mul_comm]
    rfl

theorem wholeValue_append (first second : List Char) :
    wholeValue (first ++ second) =
      wholeValue first * 10 ^ second.length + wholeValue second := by
  induction first with
  | nil => simp [wholeValue]
  | cons c rest ih =>
    rw [List.cons_append, wholeValue, ih, wholeValue, List.length_append, pow_add]
    ring

theorem fractionValue_eq (run : List Char) :
    fractionValue run = (wholeValue run : Rat) / 10 ^ run.length := by
  induction run with
  | nil => simp [fractionValue, wholeValue]
  | cons c rest ih =>
    rw [fractionValue, ih, wholeValue, List.length_cons, pow_succ]
    push_cast
    field_simp

theorem value_eq (n : Numeral) :
    n.value = (wholeValue (n.whole ++ n.fraction) : Rat) / 10 ^ n.fraction.length := by
  rw [value, fractionValue_eq, wholeValue_append]
  push_cast
  field_simp

theorem scale_of_lt {places : Nat} (h : places < 2 ^ 32) : Decimal.scale places = 10 ^ places := by
  rw [Decimal.scale, Nat.one_shiftLeft, Nat.mod_eq_of_lt h]
  rfl

theorem drop_pointed (n : Numeral) : n.pointed.drop 1 = n.fraction := by
  unfold pointed fraction
  cases n.fraction? <;> rfl

theorem head?_pointed (n : Numeral) : ∀ c ∈ n.pointed.head?, c = '.' := by
  unfold pointed
  cases n.fraction? <;> simp

theorem ne_point_of_isDigit {c : Char} (h : isDigit c = true) : (c != '.') = true := by
  have hdigit := isDigit_iff.mp h
  rw [bne_iff_ne]
  rintro rfl
  simp at hdigit

theorem read?_text (n : Numeral) : Decimal.read? n.text = some n.value := by
  have hwhole : ∀ c ∈ n.whole, (c != '.') = true :=
    fun c hc => ne_point_of_isDigit (n.isDigit_whole c hc)
  have hpointed : ∀ c ∈ n.pointed.head?, (c != '.') = false := by
    intro c hc
    simp [n.head?_pointed c hc]
  have hdigits : (n.whole ++ n.fraction).all isDigit = true := by
    rw [List.all_append, Bool.and_eq_true, List.all_eq_true, List.all_eq_true]
    exact ⟨n.isDigit_whole, n.isDigit_fraction⟩
  have hnonempty : (n.whole ++ n.fraction).isEmpty = false := by
    simpa [fraction] using n.nonempty
  have htake : n.text.takeWhile (· != '.') = n.whole := takeWhile_run hwhole hpointed
  have hdrop : (n.text.dropWhile (· != '.')).drop 1 = n.fraction := by
    rw [text, dropWhile_run hwhole hpointed, drop_pointed]
  have hlength : n.fraction.length < 2 ^ 32 := n.length_fraction
  simp only [Decimal.read?, htake, hdrop, hdigits, hnonempty]
  rw [scale_of_lt hlength, ofDigits_eq_wholeValue, value_eq, Rat.mkRat_eq_div]
  simp

/-- Nothing that follows the numeral could be a part of it. -/
def Maximal (n : Numeral) (rest : List Char) : Prop :=
  ∀ c ∈ rest.head?, isDigit c = false ∧ (n.fraction? = none → c ≠ '.')

def Ends (rest : List Char) : Prop := ∀ c ∈ rest.head?, isDigit c = false ∧ c ≠ '.'

theorem Ends.maximal {rest : List Char} (h : Ends rest) (n : Numeral) : n.Maximal rest :=
  fun c hc => ⟨(h c hc).1, fun _ => (h c hc).2⟩

theorem splitNumeral_text (n : Numeral) {rest : List Char} (hrest : n.Maximal rest) :
    Token.splitNumeral (n.text ++ rest) = (n.text, rest) := by
  have hhead : ∀ c ∈ (n.pointed ++ rest).head?, isDigit c = false := by
    intro c hc
    cases hp : n.pointed with
    | nil =>
      rw [hp] at hc
      exact (hrest c hc).1
    | cons d tail =>
      rw [hp] at hc
      cases hc
      rw [n.head?_pointed c (by rw [hp]; rfl)]
      rfl
  have hwhole := takeWhile_run n.isDigit_whole hhead
  have htail := dropWhile_run n.isDigit_whole hhead
  simp only [Token.splitNumeral, text, List.append_assoc]
  rw [hwhole, htail]
  cases hfraction : n.fraction? with
  | none =>
    simp only [pointed, hfraction, List.nil_append, List.append_nil]
    split
    · exact absurd rfl ((hrest '.' rfl).2 hfraction)
    · rfl
  | some digits =>
    have hdigits : ∀ c ∈ digits, isDigit c = true := by
      simpa [hfraction] using n.isDigit_fraction
    simp only [pointed, hfraction, List.cons_append]
    rw [takeWhile_run hdigits fun c hc => (hrest c hc).1,
      dropWhile_run hdigits fun c hc => (hrest c hc).1]

theorem readNumeral_text (n : Numeral) {rest : List Char} (hrest : n.Maximal rest) :
    Token.readNumeral (n.text ++ rest) = (some n.value, rest) := by
  rw [Token.readNumeral, n.splitNumeral_text hrest]
  simp only [n.read?_text]

/-- The text begins as a numeral does: with a digit, or with a point and a digit. -/
def Begins (text : List Char) : Prop :=
  ∃ c tail, text = c :: tail ∧ (isDigit c = true ∨ c = '.' ∧ ∃ d ∈ tail.head?, isDigit d = true)

theorem begins_text (n : Numeral) : Begins n.text := by
  have hne := n.nonempty
  unfold text pointed
  cases hwhole : n.whole with
  | cons c rest => exact ⟨c, _, rfl, .inl (n.isDigit_whole c (by simp [hwhole]))⟩
  | nil =>
    cases hfraction : n.fraction? with
    | none => simp [hwhole, hfraction] at hne
    | some digits =>
      rw [hwhole, hfraction] at hne
      obtain ⟨d, rest, rfl⟩ := List.exists_cons_of_ne_nil hne
      have hd : isDigit d = true := n.isDigit_fraction d (by simp [hfraction])
      exact ⟨'.', d :: rest, rfl, .inr ⟨rfl, d, rfl, hd⟩⟩

theorem Begins.append {text : List Char} (h : Begins text) (rest : List Char) :
    Begins (text ++ rest) := by
  obtain ⟨c, tail, rfl, hdigit | ⟨rfl, d, hd, hdigit⟩⟩ := h
  · exact ⟨c, tail ++ rest, rfl, .inl hdigit⟩
  · refine ⟨'.', tail ++ rest, rfl, .inr ⟨rfl, d, ?_, hdigit⟩⟩
    cases tail with
    | nil => cases hd
    | cons e tail => exact hd

theorem begins_iff {text : List Char} :
    Begins text ↔ ∃ (n : Numeral) (rest : List Char), text = n.text ++ rest := by
  constructor
  · rintro ⟨c, tail, rfl, hdigit | ⟨rfl, d, hd, hdigit⟩⟩
    · exact ⟨digit c hdigit, tail, rfl⟩
    · obtain ⟨rest, rfl⟩ := List.head?_eq_some_iff.mp hd
      exact ⟨tenths d hdigit, rest, rfl⟩
  · rintro ⟨n, rest, rfl⟩
    exact n.begins_text.append rest

/-- No point in the text has so many digits after it that their number would not fit
into thirty-two bits. -/
def ShortFractions (text : List Char) : Prop :=
  ∀ run, '.' :: run <:+: text → (∀ c ∈ run, isDigit c = true) → run.length < 2 ^ 32

theorem ShortFractions.of_infix {text whole : List Char} (h : ShortFractions whole)
    (htext : text <:+: whole) : ShortFractions text :=
  fun run hrun => h run (hrun.trans htext)

theorem shortFractions_of_length {text : List Char} (h : text.length < 2 ^ 32) :
    ShortFractions text := by
  intro run hrun _
  have hlength := hrun.length_le
  rw [List.length_cons] at hlength
  omega

theorem Begins.exists_maximal {text : List Char} (h : Begins text) (hshort : ShortFractions text) :
    ∃ (n : Numeral) (rest : List Char), text = n.text ++ rest ∧ n.Maximal rest := by
  have hwhole : ∀ c ∈ text.takeWhile isDigit, isDigit c = true :=
    fun c hc => List.mem_takeWhile_imp hc
  have hsplit := List.takeWhile_append_dropWhile (p := isDigit) (l := text)
  have hhead := head?_dropWhile (p := isDigit) text
  by_cases hpoint : ∃ tail, text.dropWhile isDigit = '.' :: tail
  · obtain ⟨tail, htail⟩ := hpoint
    have hfraction : ∀ c ∈ tail.takeWhile isDigit, isDigit c = true :=
      fun c hc => List.mem_takeWhile_imp hc
    have hnonempty : text.takeWhile isDigit ++ tail.takeWhile isDigit ≠ [] := by
      obtain ⟨c, rest, rfl, hdigit | ⟨rfl, d, hd, hdigit⟩⟩ := h
      · simp [hdigit]
      · obtain ⟨after, rfl⟩ := List.head?_eq_some_iff.mp hd
        have hdot : isDigit '.' = false := rfl
        simp only [List.dropWhile_cons, hdot, Bool.false_eq_true, if_false] at htail
        cases htail
        simp [hdigit]
    have hlength : (tail.takeWhile isDigit).length < 2 ^ 32 := by
      refine hshort _ ?_ hfraction
      refine ⟨text.takeWhile isDigit, tail.dropWhile isDigit, ?_⟩
      rw [List.append_assoc, List.cons_append, List.takeWhile_append_dropWhile, ← htail, hsplit]
    refine ⟨⟨_, some (tail.takeWhile isDigit), hwhole, hfraction, hnonempty, hlength⟩,
      tail.dropWhile isDigit, ?_, ?_⟩
    · simp only [Numeral.text, pointed, List.append_assoc, List.cons_append]
      rw [List.takeWhile_append_dropWhile, ← htail, hsplit]
    · exact fun c hc => ⟨head?_dropWhile tail c hc, nofun⟩
  · have hnonempty : text.takeWhile isDigit ++ [] ≠ [] := by
      obtain ⟨c, rest, rfl, hdigit | ⟨rfl, _⟩⟩ := h
      · simp [hdigit]
      · exact absurd ⟨rest, rfl⟩ hpoint
    refine ⟨⟨_, none, hwhole, nofun, hnonempty, by simp⟩, text.dropWhile isDigit, ?_, ?_⟩
    · simp [Numeral.text, pointed]
    · intro c hc
      refine ⟨hhead c hc, ?_⟩
      rintro _ rfl
      exact hpoint ⟨_, List.cons_head?_tail hc |>.symm⟩

theorem readNumeral_of_not_begins {text : List Char} (h : ¬ Begins text) :
    (Token.readNumeral text).1 = none := by
  cases text with
  | nil => rfl
  | cons c rest =>
    have hdigit : isDigit c = false := by
      cases hc : isDigit c with
      | false => rfl
      | true => exact absurd ⟨c, rest, rfl, .inl hc⟩ h
    by_cases hpoint : c = '.'
    · subst hpoint
      have hrest : rest.takeWhile isDigit = [] := by
        cases rest with
        | nil => rfl
        | cons d rest =>
          cases hd : isDigit d with
          | false => simp [hd]
          | true => exact absurd ⟨'.', d :: rest, rfl, .inr ⟨rfl, d, rfl, hd⟩⟩ h
      simp only [Token.readNumeral, Token.splitNumeral, List.takeWhile_cons, List.dropWhile_cons,
        hdigit, Bool.false_eq_true, if_false, hrest]
      rfl
    · simp only [Token.readNumeral, Token.splitNumeral, List.takeWhile_cons, List.dropWhile_cons,
        hdigit, Bool.false_eq_true, if_false]
      split
      · rename_i heq
        cases heq
        exact absurd rfl hpoint
      · rfl

end Numeral

end Reckoner
