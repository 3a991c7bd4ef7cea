import Reckoner.Proofs.Entry
import Reckoner.Proofs.Lexeme
import Reckoner.Proofs.Writing

/-! # Tokens typed back

The line of tokens that is shown for an entry is an entry with the same tokens. The
scanner puts a negative number only where a minus is a sign, and a minus only where it is
none; tokens in such an order are read back from their line one by one. -/

namespace Reckoner

namespace Text

def IsBasicLetter (c : Char) : Prop := isLetter c = true ∧ c.toNat < 128

theorem IsBasicLetter.small {c : Char} (h : IsBasicLetter c) :
    c ≠ 'Σ' ∧ small c = [c.toLower] ∧ IsBasicLetter c.toLower ∧ c.toLower.toLower = c.toLower := by
  have key : ∀ n ∈ List.range' 65 26 ++ List.range' 97 26, Char.ofNat n ≠ 'Σ' ∧
      Text.small (Char.ofNat n) = [(Char.ofNat n).toLower] ∧
        (isLetter (Char.ofNat n).toLower = true ∧ (Char.ofNat n).toLower.toNat < 128) ∧
        (Char.ofNat n).toLower.toLower = (Char.ofNat n).toLower := by
    decide +kernel
  have hplace : c.toNat ∈ List.range' 65 26 ++ List.range' 97 26 := by
    rw [List.mem_append, List.mem_range'_1, List.mem_range'_1]
    have hrange := toNat_of_isLetter h.1 h.2
    omega
  have hc := key c.toNat hplace
  rw [Char.ofNat_toNat] at hc
  exact hc

theorem lowercaseAfter_eq_flatMap {text : List Char} (h : 'Σ' ∉ text) (before : List Char) :
    lowercaseAfter before text = text.flatMap small := by
  induction text generalizing before with
  | nil => rfl
  | cons c text ih =>
    obtain ⟨hc, htext⟩ := not_or.mp (mt List.mem_cons.mpr h)
    rw [lowercaseAfter, if_neg (Ne.symm hc), ih htext, List.flatMap_cons]

theorem lowercase_eq_map {word : List Char} (h : ∀ c ∈ word, IsBasicLetter c) :
    lowercase word = word.map Char.toLower := by
  have hsigma : 'Σ' ∉ word := fun hmem => (h 'Σ' hmem).small.1 rfl
  rw [lowercase, lowercaseAfter_eq_flatMap hsigma, List.map_eq_flatMap, List.flatMap_congr]
  intro c hc
  exact (h c hc).small.2.1

structure IsName (name : List Char) : Prop where
  ne_nil : name ≠ []
  isLetter : ∀ c ∈ name, isLetter c = true
  lowercase_eq : lowercase name = name

theorem isName_lowercase {word : List Char} (hne : word ≠ []) (h : ∀ c ∈ word, IsBasicLetter c) :
    IsName (lowercase word) := by
  have hbasic : ∀ c ∈ word.map Char.toLower, IsBasicLetter c := by
    intro c hc
    obtain ⟨d, hd, rfl⟩ := List.mem_map.mp hc
    exact (h d hd).small.2.2.1
  rw [lowercase_eq_map h]
  refine ⟨by simpa using hne, fun c hc => (hbasic c hc).1, ?_⟩
  rw [lowercase_eq_map hbasic, List.map_map]
  apply List.map_congr_left
  intro c hc
  exact (h c hc).small.2.2.2

end Text

namespace Token
open Text Numeral Outcome

/-- The number is a whole number of units of the last place that a token shows. -/
def Shown (value : Rat) : Prop := ∃ units : Int, value * 10 ^ Decimal.defaultPlaces = units

/-- The token can be told from its text where it comes after `previous`. -/
inductive Follows (previous : Option Token) : Token → Prop where
  | number {value : Rat} (hshown : Shown value) (hsign : value < 0 → BeforeSign previous) :
      Follows previous (.number value)
  | operator {symbol : Char} (hsymbol : symbol ∈ operatorSymbols)
      (hminus : symbol = '-' → ¬ BeforeSign previous) : Follows previous (.operator symbol)
  | lparen : Follows previous .lparen
  | rparen : Follows previous .rparen
  | function {name : List Char} (hname : IsName name) : Follows previous (.function name)

inductive InOrder : Option Token → List Token → Prop where
  | nil (previous : Option Token) : InOrder previous []
  | cons {previous : Option Token} {token : Token} {tokens : List Token}
      (htoken : Follows previous token) (h : InOrder (some token) tokens) :
      InOrder previous (token :: tokens)

section Reading
variable {previous : Option Token}

theorem Follows.lexeme {token : Token} (h : Follows previous token) {rest : List Char}
    (hrest : ∀ c ∈ rest.head?, c = ' ') : Lexeme previous token.text rest token := by
  have hends : Ends rest := by
    intro c hc
    rw [hrest c hc]
    decide
  cases h with
  | @number value hshown hsign =>
    obtain ⟨units, hunits⟩ := hshown
    obtain ⟨n, hvalue, htext⟩ := exists_write_eq (by decide) hunits
    rw [text, htext]
    by_cases hneg : value < 0
    · have hnone : ∀ c ∈ ([] : List Char), isBlank c = true := by simp
      have hlexeme := Lexeme.negative (hsign hneg) hnone n (hends.maximal n)
      rw [hvalue, abs_of_neg hneg, neg_neg] at hlexeme
      rw [if_pos hneg]
      exact hlexeme
    · have hlexeme : Lexeme previous n.text rest _ := .numeral n (hends.maximal n)
      rw [hvalue, abs_of_nonneg (not_lt.mp hneg)] at hlexeme
      rw [if_neg hneg]
      exact hlexeme
  | operator hsymbol hminus => exact .operator hsymbol hminus rest
  | lparen => exact .lparen rest
  | rparen => exact .rparen rest
  | @function name hname =>
    have hspace : ∀ c ∈ rest.head?, isLetter c = false := by
      intro c hc
      rw [hrest c hc]
      exact isLetter_of_isBlank (by decide)
    have hlexeme : Lexeme previous name rest _ :=
      .word hname.ne_nil hname.isLetter hspace
    rw [hname.lowercase_eq] at hlexeme
    exact hlexeme

theorem line_cons (token : Token) (tokens : List Token) :
    ∃ rest, line (token :: tokens) = token.text ++ rest ∧ (∀ c ∈ rest.head?, c = ' ') ∧
      ∀ previous, scanAfter previous rest = scanAfter previous (line tokens) := by
  cases tokens with
  | nil => exact ⟨[], by simp [line, List.intercalate], by simp, fun _ => rfl⟩
  | cons next tokens =>
    refine ⟨[' '] ++ line (next :: tokens), ?_, by simp, ?_⟩
    · simp [line, List.intercalate]
    · intro previous
      exact scanAfter_gap (List.all_eq_true.mp rfl) previous _

theorem InOrder.scanAfter_line {tokens : List Token} (h : InOrder previous tokens) :
    scanAfter previous (line tokens) = .ok tokens := by
  induction h with
  | nil previous => rw [scanAfter_eq]; rfl
  | @cons previous token tokens htoken _ ih =>
    obtain ⟨rest, hline, hspace, hrest⟩ := line_cons token tokens
    rw [hline, (htoken.lexeme hspace).scanAfter, hrest, ih]
    rfl

end Reading

section Scanned
variable {previous : Option Token}

theorem nonneg_of_readNumeral {text left : List Char} {value : Rat}
    (h : readNumeral text = (some value, left)) : 0 ≤ value := by
  have hread : Decimal.read? (splitNumeral text).1 = some value := congrArg Prod.fst h
  rw [Decimal.read?] at hread
  split at hread
  · cases hread
  · cases hread
    exact Rat.mkRat_nonneg (Int.natCast_nonneg _) _

theorem follows_of_lexeme {c : Char} {rest left : List Char} {token : Token}
    (hletters : ∀ d ∈ c :: rest, isLetter d = true → d.toNat < 128)
    (hshown : ∀ value, token = .number value → Shown value)
    (h : lexeme previous c rest = .ok (token, left)) : Follows previous token := by
  cases takes_of_lexeme h with
  | lparen => exact .lparen
  | rparen => exact .rparen
  | negative hprevious _ => exact .number (hshown _ rfl) fun _ => expectsSign_iff.mp hprevious
  | operator hsymbol hminus =>
    refine .operator hsymbol ?_
    intro hc hbefore
    exact hminus ⟨hc, expectsSign_iff.mpr hbefore⟩
  | numeral _ hread =>
    -- A numeral has no sign of its own, so this number may stand anywhere.
    refine .number (hshown _ rfl) ?_
    intro hneg
    exact absurd (nonneg_of_readNumeral hread) hneg.not_ge
  | word hletter =>
    refine .function (isName_lowercase (by simp) ?_)
    intro d hd
    rcases List.mem_cons.mp hd with rfl | hd
    · exact ⟨hletter, hletters d (by simp) hletter⟩
    · have hdletter := List.mem_takeWhile_imp hd
      have hdmem := (List.takeWhile_prefix isLetter).subset hd
      exact ⟨hdletter, hletters d (List.mem_cons_of_mem c hdmem) hdletter⟩

theorem inOrder_of_scanAfter {text : List Char} {tokens : List Token}
    (hletters : ∀ c ∈ text, isLetter c = true → c.toNat < 128)
    (hshown : ∀ value, .number value ∈ tokens → Shown value)
    (h : scanAfter previous text = .ok tokens) : InOrder previous tokens := by
  fun_induction scanAfter previous text generalizing tokens with
  | case1 previous text htext =>
    cases h
    exact .nil previous
  | case2 previous text c rest htext token left hlexeme ih =>
    obtain ⟨more, hmore, rfl⟩ := map_eq_ok_iff.mp h
    have hsuffix : c :: rest <:+ text := htext ▸ List.dropWhile_suffix isBlank
    refine .cons (follows_of_lexeme ?_ ?_ hlexeme) (ih ?_ ?_ hmore)
    · intro d hd
      exact hletters d (hsuffix.subset hd)
    · rintro value rfl
      exact hshown value (by simp)
    · intro d hd
      exact hletters d (hsuffix.subset ((suffix_of_lexeme hlexeme).subset hd))
    · intro value hvalue
      exact hshown value (List.mem_cons_of_mem token hvalue)
  | case3 => cases h

end Scanned

/-- The line of tokens of an entry reads as the same tokens, and so it is worked on with
the same outcome, if the letters of the entry are basic and its numbers are shown in full. -/
theorem scan_line {text : List Char} {tokens : List Token}
    (hletters : ∀ c ∈ text, isLetter c = true → c.toNat < 128)
    (hshown : ∀ value : Rat, .number value ∈ tokens → ∃ units : Int, value * 10 ^ 28 = units)
    (hscan : scan text = .ok tokens) :
    scan (line tokens) = .ok tokens ∧
      ∀ (calculator : Calculator) (value : Rat) (working : Working),
        (calculator.work text).outcome = .ok (value, working) →
          (calculator.work working.tokens).outcome = .ok (value, working) := by
  have hline : scan (line tokens) = .ok tokens :=
    (inOrder_of_scanAfter hletters hshown hscan).scanAfter_line
  refine ⟨hline, ?_⟩
  intro calculator value working hwork
  rw [Calculator.tokens_of_work hscan hwork, ← hwork]
  exact Calculator.outcome_work_of_scan_eq calculator (hline.trans hscan.symm)

/-- The sign of a number and the minus in front of it stay what they are. -/
theorem scan_line_signs :
    (∀ c ∈ ['F', '(', '2', '-', '-', '.', '5', ')'], isLetter c = true → c.toNat < 128) ∧
    (∀ value : Rat, .number value ∈
      [Token.function ['f'], .lparen, .number 2, .operator '-', .number (-(1 / 2)), .rparen] →
        ∃ units : Int, value * 10 ^ 28 = units) ∧
    scan ['F', '(', '2', '-', '-', '.', '5', ')'] =
      .ok [.function ['f'], .lparen, .number 2, .operator '-', .number (-(1 / 2)), .rparen] ∧
    scan ['f', ' ', '(', ' ', '2', ' ', '-', ' ', '-', '0', '.', '5', ' ', ')'] =
      .ok [.function ['f'], .lparen, .number 2, .operator '-', .number (-(1 / 2)), .rparen] := by
  have hbasic : ['F', '(', '2', '-', '-', '.', '5', ')'].all (fun c => c.toNat < 128) = true := rfl
  have hletters : ∀ c ∈ ['F', '(', '2', '-', '-', '.', '5', ')'],
      isLetter c = true → c.toNat < 128 :=
    fun c hc _ => of_decide_eq_true (List.all_eq_true.mp hbasic c hc)
  have hshown : ∀ value : Rat, .number value ∈
      [Token.function ['f'], .lparen, .number 2, .operator '-', .number (-(1 / 2)), .rparen] →
        ∃ units : Int, value * 10 ^ 28 = units := by
    intro value hvalue
    simp only [List.mem_cons, List.not_mem_nil, reduceCtorEq, number.injEq, false_or,
      or_false] at hvalue
    rcases hvalue with rfl | rfl
    · exact ⟨2 * 10 ^ 28, by norm_num⟩
    · exact ⟨-5 * 10 ^ 27, by norm_num⟩
  have hscan : scan ['F', '(', '2', '-', '-', '.', '5', ')'] =
      .ok [.function ['f'], .lparen, .number 2, .operator '-', .number (-(1 / 2)), .rparen] := by
    decide +kernel
  have hline : line
      [.function ['f'], .lparen, .number 2, .operator '-', .number (-(1 / 2)), .rparen] =
        ['f', ' ', '(', ' ', '2', ' ', '-', ' ', '-', '0', '.', '5', ' ', ')'] := by
    decide +kernel
  have hback := (scan_line hletters hshown hscan).1
  rw [hline] at hback
  exact ⟨hletters, hshown, hscan, hback⟩

end Token

end Reckoner
