import Reckoner.Proofs.Numeral

/-! # Laws of scanning

What the scanner takes at a character, what it makes of a text that begins with a given
lexeme or with white space, and where a numeral ends. -/

namespace Reckoner.Token
open Text Numeral

/-- What the scanner takes at the character `c`, where `rest` comes after it, and what it
leaves. -/
inductive Takes (previous : Option Token) : Char → List Char → Token → List Char → Prop where
  | lparen (rest : List Char) : Takes previous '(' rest .lparen rest
  | rparen (rest : List Char) : Takes previous ')' rest .rparen rest
  | negative {rest left : List Char} {value : Rat} (hprevious : expectsSign previous = true)
      (hread : readNumeral (rest.dropWhile isBlank) = (some value, left)) :
      Takes previous '-' rest (.number (-value)) left
  | operator {c : Char} (hsymbol : c ∈ operatorSymbols)
      (hminus : ¬ (c = '-' ∧ expectsSign previous = true)) (rest : List Char) :
      Takes previous c rest (.operator c) rest
  | numeral {c : Char} {rest left : List Char} {value : Rat} (hstart : isDigit c = true ∨ c = '.')
      (hread : readNumeral (c :: rest) = (some value, left)) :
      Takes previous c rest (.number value) left
  | word {c : Char} (hletter : isLetter c = true) (rest : List Char) :
      Takes previous c rest (.function (lowercase (c :: rest.takeWhile isLetter)))
        (rest.dropWhile isLetter)

section Lexemes
variable {previous : Option Token} {rest : List Char}

theorem takes_of_lexeme {c : Char} {token : Token} {left : List Char}
    (h : lexeme previous c rest = .ok (token, left)) : Takes previous c rest token left := by
  unfold lexeme at h
  split at h
  · rename_i hc
    subst hc
    cases h
    exact .lparen rest
  split at h
  · rename_i hc
    subst hc
    cases h
    exact .rparen rest
  split at h
  · rename_i hsymbol
    split at h
    · rename_i hminus
      obtain ⟨rfl, hprevious⟩ := hminus
      split at h
      · rename_i hread
        cases h
        exact .negative hprevious hread
      · cases h
    · rename_i hminus
      cases h
      exact .operator hsymbol hminus rest
  split at h
  · rename_i hstart
    split at h
    · rename_i hread
      cases h
      exact .numeral hstart hread
    · cases h
  split at h
  · rename_i hletter
    cases h
    exact .word hletter rest
  · cases h

theorem scanAfter_cons {c : Char} (hc : isBlank c = false) {token : Token} {tail : List Char}
    (h : lexeme previous c rest = .ok (token, tail)) :
    scanAfter previous (c :: rest) = (scanAfter (some token) tail).map (token :: ·) := by
  have hdrop : (c :: rest).dropWhile isBlank = c :: rest := by simp [hc]
  rw [scanAfter_eq, hdrop]
  simp only [h]

theorem scanAfter_lparen :
    scanAfter previous ('(' :: rest) = (scanAfter (some lparen) rest).map (lparen :: ·) :=
  scanAfter_cons (by decide) (by simp [lexeme])

theorem scanAfter_rparen :
    scanAfter previous (')' :: rest) = (scanAfter (some rparen) rest).map (rparen :: ·) :=
  scanAfter_cons (by decide) (by simp [lexeme])

theorem mem_marks_of_mem_operatorSymbols {c : Char} (h : c ∈ operatorSymbols) :
    c ∈ marks ∧ c ≠ '(' ∧ c ≠ ')' := by
  have key : operatorSymbols.all (fun c => c ∈ marks ∧ c ≠ '(' ∧ c ≠ ')') = true := by decide
  simpa using List.all_eq_true.mp key c h

/-- After an operand every operator is one, also a minus. -/
theorem scanAfter_operator {c : Char} (hc : c ∈ operatorSymbols)
    (hprevious : expectsSign previous = false) :
    scanAfter previous (c :: rest) =
      (scanAfter (some (operator c)) rest).map (operator c :: ·) := by
  obtain ⟨hmark, hleft, hright⟩ := mem_marks_of_mem_operatorSymbols hc
  apply scanAfter_cons (class_of_mem_marks hmark).1
  simp [lexeme, hleft, hright, hc, hprevious]

theorem dropWhile_isBlank_text (n : Numeral) (rest : List Char) :
    (n.text ++ rest).dropWhile isBlank = n.text ++ rest := by
  obtain ⟨c, tail, htext, hstart⟩ := n.begins_text
  have hblank : isBlank c = false := by
    rcases hstart with hdigit | ⟨rfl, _⟩
    · exact isBlank_of_isDigit hdigit
    · decide
  simp [htext, hblank]

theorem scanAfter_numeral (n : Numeral) (hrest : n.Maximal rest) :
    scanAfter previous (n.text ++ rest) =
      (scanAfter (some (number n.value)) rest).map (number n.value :: ·) := by
  have hread := n.readNumeral_text hrest
  obtain ⟨c, tail, htext, hstart⟩ := n.begins_text
  rw [htext, List.cons_append] at hread ⊢
  have hclass : isBlank c = false ∧ c ≠ '(' ∧ c ≠ ')' ∧ c ∉ operatorSymbols := by
    rcases hstart with hdigit | ⟨rfl, _⟩
    · refine ⟨isBlank_of_isDigit hdigit, ?_, ?_, ?_⟩ <;> intro hc
      · simp [hc, isDigit] at hdigit
      · simp [hc, isDigit] at hdigit
      · have hmark := (mem_marks_of_mem_operatorSymbols hc).1
        simp [(class_of_mem_marks hmark).2.1] at hdigit
    · decide
  obtain ⟨hblank, hleft, hright, hsymbol⟩ := hclass
  have hnumeral : isDigit c = true ∨ c = '.' := hstart.imp_right And.left
  apply scanAfter_cons hblank
  simp [lexeme, hleft, hright, hsymbol, hnumeral, hread]

/-- Where an operand may begin, a minus is the sign of the number after it. -/
theorem scanAfter_negative (hprevious : expectsSign previous = true) {gap : List Char}
    (hgap : ∀ c ∈ gap, isBlank c = true) (n : Numeral) (hrest : n.Maximal rest) :
    scanAfter previous ('-' :: gap ++ n.text ++ rest) =
      (scanAfter (some (number (-n.value))) rest).map (number (-n.value) :: ·) := by
  have hskip : (gap ++ (n.text ++ rest)).dropWhile isBlank = n.text ++ rest := by
    rw [List.dropWhile_append_of_pos hgap, dropWhile_isBlank_text]
  have hread := n.readNumeral_text hrest
  rw [List.cons_append, List.cons_append, List.append_assoc]
  apply scanAfter_cons (by decide)
  simp [lexeme, operatorSymbols, hprevious, hskip, hread]

theorem scanAfter_word {word : List Char} (hne : word ≠ [])
    (hletters : ∀ c ∈ word, isLetter c = true) (hrest : ∀ c ∈ rest.head?, isLetter c = false) :
    scanAfter previous (word ++ rest) =
      (scanAfter (some (function (lowercase word))) rest).map
        (function (lowercase word) :: ·) := by
  obtain ⟨c, tail, rfl⟩ := List.exists_cons_of_ne_nil hne
  obtain ⟨hc, htail⟩ := List.forall_mem_cons.mp hletters
  have hmarks : ∀ d ∈ marks, c ≠ d := by
    rintro d hd rfl
    simp [(class_of_mem_marks hd).2.2] at hc
  have hsymbol : c ∉ operatorSymbols := fun h =>
    hmarks c (mem_marks_of_mem_operatorSymbols h).1 rfl
  have hleft : c ≠ '(' := hmarks '(' (by decide)
  have hright : c ≠ ')' := hmarks ')' (by decide)
  have hpoint : c ≠ '.' := hmarks '.' (by decide)
  rw [List.cons_append]
  apply scanAfter_cons (isBlank_of_isLetter hc)
  simp [lexeme, hleft, hright, hsymbol, hpoint, isDigit_of_isLetter hc, hc,
    takeWhile_run htail hrest, dropWhile_run htail hrest]

end Lexemes

section Gaps
variable {gap : List Char}

theorem scanAfter_gap (hgap : ∀ c ∈ gap, isBlank c = true) (previous : Option Token)
    (rest : List Char) : scanAfter previous (gap ++ rest) = scanAfter previous rest := by
  rw [scanAfter_eq, scanAfter_eq, List.dropWhile_append_of_pos hgap]

theorem splitNumeral_append_of_ends {tail : List Char} (htail : Ends tail) (text : List Char) :
    splitNumeral (text ++ tail) = ((splitNumeral text).1, (splitNumeral text).2 ++ tail) := by
  have hdigits : ∀ c ∈ tail.head?, isDigit c = false := fun c hc => (htail c hc).1
  have htake := takeWhile_append_of_head? hdigits
  have hdrop := dropWhile_append_of_head? hdigits
  simp only [splitNumeral, htake, hdrop]
  cases hrest : text.dropWhile isDigit with
  | cons c rest =>
    rw [List.cons_append]
    by_cases hc : c = '.'
    · subst hc
      simp only [htake, hdrop]
    · split
      · rename_i heq
        cases heq
        exact absurd rfl hc
      · split
        · rename_i heq
          cases heq
          exact absurd rfl hc
        · rfl
  | nil =>
    rw [List.nil_append]
    cases tail with
    | nil => rfl
    | cons c rest =>
      have hc : c ≠ '.' := (htail c rfl).2
      split
      · rename_i heq
        cases heq
        exact absurd rfl hc
      · rfl

theorem ends_mark {c : Char} (hc : c ∈ marks) (hpoint : c ≠ '.') (rest : List Char) :
    Ends (c :: rest) := by
  intro d hd
  cases hd
  exact ⟨(class_of_mem_marks hc).2.1, hpoint⟩

theorem ends_gap (hgap : ∀ c ∈ gap, isBlank c = true) {rest : List Char} (hrest : Ends rest) :
    Ends (gap ++ rest) := by
  cases gap with
  | nil => exact hrest
  | cons d gap =>
    intro c hc
    cases hc
    have hblank : isBlank d = true := hgap d (by simp)
    refine ⟨isDigit_of_isBlank hblank, ?_⟩
    rintro rfl
    revert hblank
    decide

end Gaps

end Reckoner.Token
