import Reckoner.Proofs.Scan

/-! # The lexical grammar

What a lexeme is, said without the scanner: each is the longest of its kind in front
of what follows it, and only a minus looks back, at the token before it. Every text is
either split into lexemes to its end or stuck at a first place where none begins, and
the scanner does what this grammar says. Since some derivation exists for every text
and the scanner follows each of them, the split into tokens is also the only one. -/

namespace Reckoner.Token
open Text Numeral

inductive BeforeSign : Option Token → Prop where
  | start : BeforeSign none
  | operator (symbol : Char) : BeforeSign (some (.operator symbol))
  | lparen : BeforeSign (some .lparen)
  | function (name : List Char) : BeforeSign (some (.function name))

theorem expectsSign_iff {previous : Option Token} :
    expectsSign previous = true ↔ BeforeSign previous := by
  constructor
  · intro h
    match previous, h with
    | none, _ => exact .start
    | some (.operator symbol), _ => exact .operator symbol
    | some .lparen, _ => exact .lparen
    | some (.function name), _ => exact .function name
  · intro h
    cases h <;> rfl

/-- The piece of text is a lexeme that comes after `previous` and in front of `rest`. -/
inductive Lexeme (previous : Option Token) : List Char → List Char → Token → Prop where
  | lparen (rest : List Char) : Lexeme previous ['('] rest .lparen
  | rparen (rest : List Char) : Lexeme previous [')'] rest .rparen
  | word {word rest : List Char} (hne : word ≠ []) (hword : ∀ c ∈ word, isLetter c = true)
      (hrest : ∀ c ∈ rest.head?, isLetter c = false) :
      Lexeme previous word rest (.function (lowercase word))
  | numeral (n : Numeral) {rest : List Char} (hrest : n.Maximal rest) :
      Lexeme previous n.text rest (.number n.value)
  | negative (hprevious : BeforeSign previous) {gap : List Char}
      (hgap : ∀ c ∈ gap, isBlank c = true) (n : Numeral) {rest : List Char}
      (hrest : n.Maximal rest) : Lexeme previous ('-' :: gap ++ n.text) rest (.number (-n.value))
  | operator {symbol : Char} (hsymbol : symbol ∈ ['+', '-', '*', '/', '^'])
      (hprevious : symbol = '-' → ¬ BeforeSign previous) (rest : List Char) :
      Lexeme previous [symbol] rest (.operator symbol)

/-- No lexeme begins here, for the reason that the message gives. -/
inductive Stuck (previous : Option Token) : List Char → String → Prop where
  | character {c : Char} (hblank : isBlank c = false) (hletter : isLetter c = false)
      (hdigit : isDigit c = false) (hmark : c ∉ marks) (rest : List Char) :
      Stuck previous (c :: rest) ("Caractère invalide: '" ++ String.singleton c ++ "'.")
  | point {rest : List Char} (hrest : ∀ c ∈ rest.head?, isDigit c = false) :
      Stuck previous ('.' :: rest) "Nombre mal formé."
  | sign (hprevious : BeforeSign previous) {rest : List Char}
      (hrest : ∀ (gap : List Char) (n : Numeral) (tail : List Char),
        (∀ c ∈ gap, isBlank c = true) → rest ≠ gap ++ (n.text ++ tail)) :
      Stuck previous ('-' :: rest) "Un nombre négatif est mal formé."

/-- The text after `previous` begins with lexemes for these tokens, with white space
in front of each. What remains of it comes after `last`. -/
inductive Splits : Option Token → List Char → List Token → Option Token → List Char → Prop where
  | nil (previous : Option Token) (text : List Char) : Splits previous text [] previous text
  | cons {previous last : Option Token} {gap piece rest left : List Char} {token : Token}
      {tokens : List Token} (hgap : ∀ c ∈ gap, isBlank c = true)
      (hlexeme : Lexeme previous piece rest token)
      (h : Splits (some token) rest tokens last left) :
      Splits previous (gap ++ (piece ++ rest)) (token :: tokens) last left

theorem Lexeme.piece_ne_nil {previous : Option Token} {piece rest : List Char} {token : Token}
    (h : Lexeme previous piece rest token) : piece ≠ [] := by
  cases h with
  | word hne _ _ => exact hne
  | numeral n _ =>
    obtain ⟨c, tail, htext, _⟩ := n.begins_text
    rw [htext]
    exact List.cons_ne_nil c tail
  | _ => simp

section Following
variable {previous : Option Token} {rest : List Char}

theorem Lexeme.scanAfter {piece : List Char} {token : Token}
    (h : Lexeme previous piece rest token) :
    Token.scanAfter previous (piece ++ rest) =
      (Token.scanAfter (some token) rest).map (token :: ·) := by
  cases h with
  | lparen => exact scanAfter_lparen
  | rparen => exact scanAfter_rparen
  | word hne hword hrest => exact scanAfter_word hne hword hrest
  | numeral n hrest => exact scanAfter_numeral n hrest
  | negative hprevious hgap n hrest =>
    exact scanAfter_negative (expectsSign_iff.mpr hprevious) hgap n hrest
  | @operator symbol hsymbol hprevious =>
    have hclass := class_of_mem_marks (mem_marks_of_mem_operatorSymbols hsymbol).1
    have hparens := (mem_marks_of_mem_operatorSymbols hsymbol).2
    have hsign : ¬ (symbol = '-' ∧ expectsSign previous = true) :=
      fun h => hprevious h.1 (expectsSign_iff.mp h.2)
    have hoperator : symbol ∈ operatorSymbols := hsymbol
    apply scanAfter_cons hclass.1
    rw [lexeme, if_neg hparens.1, if_neg hparens.2, if_pos hoperator, if_neg hsign]
    rfl

theorem scanAfter_cons_of_error {c : Char} (hc : isBlank c = false) {fault : LexicalFault}
    (h : lexeme previous c rest = .error fault) :
    Token.scanAfter previous (c :: rest) = .error fault := by
  have hdrop : (c :: rest).dropWhile isBlank = c :: rest := by simp [hc]
  rw [scanAfter_eq, hdrop]
  simp only [h]

theorem Stuck.scanAfter {text : List Char} {message : String} (h : Stuck previous text message) :
    ∃ cause : LexicalFault, Token.scanAfter previous text = .error cause ∧
      cause.message = message := by
  cases h with
  | @character c hblank hletter hdigit hmark rest =>
    have hne : ∀ d ∈ marks, c ≠ d := by
      rintro d hd rfl
      exact hmark hd
    have hsymbol : c ∉ operatorSymbols :=
      fun hc => hmark (mem_marks_of_mem_operatorSymbols hc).1
    have hstart : ¬ (isDigit c = true ∨ c = '.') := by
      rintro (hc | hc)
      · rw [hdigit] at hc
        cases hc
      · exact hne '.' (by decide) hc
    refine ⟨.invalidCharacter c, ?_, rfl⟩
    apply scanAfter_cons_of_error hblank
    rw [lexeme, if_neg (hne '(' (by decide)), if_neg (hne ')' (by decide)), if_neg hsymbol,
      if_neg hstart, if_neg (by simp [hletter])]
  | @point rest hrest =>
    have hnone : ¬ Begins ('.' :: rest) := by
      rintro ⟨c, tail, heq, hstart⟩
      cases heq
      rcases hstart with hdigit | ⟨_, d, hd, hdigit⟩
      · cases hdigit
      · rw [hrest d hd] at hdigit
        cases hdigit
    obtain ⟨tail, hread⟩ : ∃ tail, readNumeral ('.' :: rest) = (none, tail) :=
      ⟨_, Prod.ext (readNumeral_of_not_begins hnone) rfl⟩
    refine ⟨.number, ?_, rfl⟩
    apply scanAfter_cons_of_error (by decide)
    rw [lexeme, if_neg (by decide), if_neg (by decide), if_neg (by decide), if_pos (.inr rfl),
      hread]
  | @sign hprevious rest hrest =>
    have hnone : ¬ Begins (rest.dropWhile isBlank) := by
      intro hbegins
      obtain ⟨n, tail, htail⟩ := begins_iff.mp hbegins
      apply hrest (rest.takeWhile isBlank) n tail (fun c hc => List.mem_takeWhile_imp hc)
      rw [← htail, List.takeWhile_append_dropWhile]
    obtain ⟨tail, hread⟩ : ∃ tail, readNumeral (rest.dropWhile isBlank) = (none, tail) :=
      ⟨_, Prod.ext (readNumeral_of_not_begins hnone) rfl⟩
    refine ⟨.negativeNumber, ?_, rfl⟩
    apply scanAfter_cons_of_error (by decide)
    rw [lexeme, if_neg (by decide), if_neg (by decide), if_pos (by decide),
      if_pos ⟨rfl, expectsSign_iff.mpr hprevious⟩, hread]

theorem Splits.scanAfter {last : Option Token} {text left : List Char} {tokens : List Token}
    (h : Splits previous text tokens last left) :
    Token.scanAfter previous text = (Token.scanAfter last left).map (tokens ++ ·) := by
  induction h with
  | nil previous text => cases Token.scanAfter previous text <;> rfl
  | @cons previous last gap piece rest left token tokens hgap hlexeme _ ih =>
    rw [scanAfter_gap hgap, hlexeme.scanAfter, ih]
    cases Token.scanAfter last left <;> rfl

end Following

section Progress
variable (previous : Option Token)

theorem lexeme_or_stuck_of_sign {previous : Option Token} (hprevious : BeforeSign previous)
    {rest : List Char} (hshort : ShortFractions rest) :
    (∃ piece tail token, '-' :: rest = piece ++ tail ∧ Lexeme previous piece tail token) ∨
      ∃ message, Stuck previous ('-' :: rest) message := by
  have hgap : ∀ c ∈ rest.takeWhile isBlank, isBlank c = true :=
    fun c hc => List.mem_takeWhile_imp hc
  have hsplit := List.takeWhile_append_dropWhile (p := isBlank) (l := rest)
  by_cases hbegins : Begins (rest.dropWhile isBlank)
  · have hsuffix : rest.dropWhile isBlank <:+: rest := (List.dropWhile_suffix isBlank).isInfix
    obtain ⟨n, tail, htail, hmaximal⟩ := hbegins.exists_maximal (hshort.of_infix hsuffix)
    refine .inl ⟨_, tail, _, ?_, .negative hprevious hgap n hmaximal⟩
    rw [List.cons_append, List.cons_append, List.append_assoc, ← htail, hsplit]
  · refine .inr ⟨_, .sign hprevious ?_⟩
    rintro gap n tail hblank rfl
    rw [List.dropWhile_append_of_pos hblank, dropWhile_isBlank_text] at hbegins
    exact hbegins (begins_iff.mpr ⟨n, tail, rfl⟩)

theorem lexeme_or_stuck_of_point {rest : List Char} (hshort : ShortFractions ('.' :: rest)) :
    (∃ piece tail token, '.' :: rest = piece ++ tail ∧ Lexeme previous piece tail token) ∨
      ∃ message, Stuck previous ('.' :: rest) message := by
  by_cases hrest : ∃ d ∈ rest.head?, isDigit d = true
  · have hbegins : Begins ('.' :: rest) := ⟨'.', rest, rfl, .inr ⟨rfl, hrest⟩⟩
    obtain ⟨n, tail, htail, hmaximal⟩ := hbegins.exists_maximal hshort
    exact .inl ⟨_, tail, _, htail, .numeral n hmaximal⟩
  · refine .inr ⟨_, .point ?_⟩
    intro d hd
    cases hdigit : isDigit d with
    | false => rfl
    | true => exact absurd ⟨d, hd, hdigit⟩ hrest

theorem lexeme_of_letter {c : Char} (hc : isLetter c = true) (rest : List Char) :
    ∃ piece tail token, c :: rest = piece ++ tail ∧ Lexeme previous piece tail token := by
  refine ⟨c :: rest.takeWhile isLetter, rest.dropWhile isLetter, _, ?_, .word (by simp) ?_ ?_⟩
  · rw [List.cons_append, List.takeWhile_append_dropWhile]
  · exact List.forall_mem_cons.mpr ⟨hc, fun d hd => List.mem_takeWhile_imp hd⟩
  · exact head?_dropWhile rest

/-- Whatever stands after white space, a lexeme begins there or none can. -/
theorem lexeme_or_stuck {c : Char} (hc : isBlank c = false) {rest : List Char}
    (hshort : ShortFractions (c :: rest)) :
    (∃ piece tail token, c :: rest = piece ++ tail ∧ Lexeme previous piece tail token) ∨
      ∃ message, Stuck previous (c :: rest) message := by
  by_cases hmark : c ∈ marks
  · have hcases : c = '(' ∨ c = ')' ∨ c = '.' ∨ c ∈ ['+', '-', '*', '/', '^'] := by
      simp only [marks, List.mem_cons, List.not_mem_nil, or_false] at hmark ⊢
      tauto
    rcases hcases with rfl | rfl | rfl | hsymbol
    · exact .inl ⟨_, rest, _, rfl, .lparen rest⟩
    · exact .inl ⟨_, rest, _, rfl, .rparen rest⟩
    · exact lexeme_or_stuck_of_point previous hshort
    · by_cases hsign : c = '-' ∧ BeforeSign previous
      · obtain ⟨rfl, hprevious⟩ := hsign
        exact lexeme_or_stuck_of_sign hprevious (hshort.of_infix (List.suffix_cons _ _).isInfix)
      · exact .inl ⟨_, rest, _, rfl, .operator hsymbol (fun h hp => hsign ⟨h, hp⟩) rest⟩
  · cases hdigit : isDigit c with
    | true =>
      have hbegins : Begins (c :: rest) := ⟨c, rest, rfl, .inl hdigit⟩
      obtain ⟨n, tail, htail, hmaximal⟩ := hbegins.exists_maximal hshort
      exact .inl ⟨_, tail, _, htail, .numeral n hmaximal⟩
    | false =>
      cases hletter : isLetter c with
      | true => exact .inl (lexeme_of_letter previous hletter rest)
      | false => exact .inr ⟨_, .character hc hletter hdigit hmark rest⟩

theorem exists_splits {text : List Char} (hshort : ShortFractions text) :
    ∃ tokens last gap rest, (∀ c ∈ gap, isBlank c = true) ∧
      Splits previous text tokens last (gap ++ rest) ∧
      (rest = [] ∨ ∃ message, Stuck last rest message) := by
  induction hlength : text.length using Nat.strongRecOn generalizing previous text with
  | ind length ih =>
    have hgap : ∀ c ∈ text.takeWhile isBlank, isBlank c = true :=
      fun c hc => List.mem_takeWhile_imp hc
    have hsplit := List.takeWhile_append_dropWhile (p := isBlank) (l := text)
    cases hrest : text.dropWhile isBlank with
    | nil =>
      refine ⟨[], previous, text, [], List.dropWhile_eq_nil_iff.mp hrest, ?_, .inl rfl⟩
      rw [List.append_nil]
      exact .nil previous text
    | cons c rest =>
      rw [hrest] at hsplit
      have hblank : isBlank c = false := head?_dropWhile text c (by rw [hrest]; rfl)
      have hsuffix : c :: rest <:+: text := ⟨text.takeWhile isBlank, [], by simpa using hsplit⟩
      rcases lexeme_or_stuck previous hblank (hshort.of_infix hsuffix) with
        ⟨piece, tail, token, hpiece, hlexeme⟩ | ⟨message, hstuck⟩
      · rw [hpiece] at hsplit hsuffix
        have htail : tail <:+: text := (List.suffix_append piece tail).isInfix.trans hsuffix
        have hshorter : tail.length < length := by
          have hpos := List.length_pos_iff.mpr hlexeme.piece_ne_nil
          have hle := hsuffix.length_le
          rw [List.length_append] at hle
          omega
        obtain ⟨tokens, last, gap, left, hleft, hsplits, hend⟩ :=
          ih tail.length hshorter (some token) (hshort.of_infix htail) rfl
        refine ⟨token :: tokens, last, gap, left, hleft, ?_, hend⟩
        rw [← hsplit]
        exact .cons hgap hlexeme hsplits
      · refine ⟨[], previous, text.takeWhile isBlank, c :: rest, hgap, ?_, .inr ⟨_, hstuck⟩⟩
        rw [hsplit]
        exact .nil previous text

end Progress

/-- A text is scanned into tokens exactly if they are those of its lexemes up to its
end. Otherwise the first place where no lexeme begins decides the message. -/
theorem scan_iff_splits {text : List Char} (hshort : ShortFractions text) :
    (∀ tokens, scan text = .ok tokens ↔
      ∃ last gap, (∀ c ∈ gap, isBlank c = true) ∧ Splits none text tokens last gap) ∧
    ∀ message, (∃ cause, scan text = .error cause ∧ (Fault.lexical cause).message = message) ↔
      ∃ tokens last gap rest, (∀ c ∈ gap, isBlank c = true) ∧
        Splits none text tokens last (gap ++ rest) ∧ Stuck last rest message := by
  have hok : ∀ tokens last gap, (∀ c ∈ gap, isBlank c = true) →
      Splits none text tokens last gap → scan text = .ok tokens := by
    intro tokens last gap hgap hsplits
    have hend : scanAfter last gap = .ok [] := by
      rw [scanAfter_eq, List.dropWhile_eq_nil_iff.mpr hgap]
    rw [scan, hsplits.scanAfter, hend]
    simp [Except.map]
  have herror : ∀ tokens last gap rest message, (∀ c ∈ gap, isBlank c = true) →
      Splits none text tokens last (gap ++ rest) → Stuck last rest message →
      ∃ cause : LexicalFault, scan text = .error cause ∧ cause.message = message := by
    intro tokens last gap rest message hgap hsplits hstuck
    obtain ⟨cause, hcause, hmessage⟩ := hstuck.scanAfter
    refine ⟨cause, ?_, hmessage⟩
    rw [scan, hsplits.scanAfter, scanAfter_gap hgap, hcause]
    rfl
  obtain ⟨tokens, last, gap, rest, hgap, hsplits, hend⟩ := exists_splits none hshort
  constructor
  · intro others
    constructor
    · intro h
      rcases hend with rfl | ⟨message, hstuck⟩
      · rw [List.append_nil] at hsplits
        rw [hok tokens last gap hgap hsplits] at h
        cases h
        exact ⟨last, gap, hgap, hsplits⟩
      · obtain ⟨cause, hcause, _⟩ := herror tokens last gap rest message hgap hsplits hstuck
        rw [hcause] at h
        cases h
    · rintro ⟨last, gap, hgap, hsplits⟩
      exact hok others last gap hgap hsplits
  · intro message
    constructor
    · rintro ⟨cause, hcause, rfl⟩
      rcases hend with rfl | ⟨message, hstuck⟩
      · rw [List.append_nil] at hsplits
        rw [hok tokens last gap hgap hsplits] at hcause
        cases hcause
      · obtain ⟨other, hother, rfl⟩ := herror tokens last gap rest message hgap hsplits hstuck
        rw [hother] at hcause
        cases hcause
        exact ⟨tokens, last, gap, rest, hgap, hsplits, hstuck⟩
    · rintro ⟨tokens, last, gap, rest, hgap, hsplits, hstuck⟩
      exact herror tokens last gap rest message hgap hsplits hstuck

/-- A second point begins a numeral of its own, which needs a digit. -/
theorem scan_second_point :
    (ShortFractions ['.', '2', '.', '3', '-', '-', ' ', '5'] ∧
      scan ['.', '2', '.', '3', '-', '-', ' ', '5'] =
        .ok [.number (1 / 5), .number (3 / 10), .operator '-', .number (-5)]) ∧
    ShortFractions ['.', '2', '.', '+', '3'] ∧
      ∃ cause, scan ['.', '2', '.', '+', '3'] = .error cause ∧
        (Fault.lexical cause).message = "Nombre mal formé." := by
  have hnone : ∀ c ∈ ([] : List Char), isBlank c = true := by simp
  have hspace : ∀ c ∈ [' '], isBlank c = true := List.all_eq_true.mp rfl
  have hmaximal : ∀ c hc d rest, isDigit d = false → (tenths c hc).Maximal (d :: rest) := by
    intro c hc d rest hd e he
    cases he
    exact ⟨hd, nofun⟩
  have hlast : (digit '5' rfl).Maximal [] := fun _ => nofun
  have hoperand : ¬ BeforeSign (some (.number (tenths '3' rfl).value)) := nofun
  have hshort : ShortFractions ['.', '2', '.', '3', '-', '-', ' ', '5'] :=
    shortFractions_of_length (by decide)
  have hsplits : Splits none ['.', '2', '.', '3', '-', '-', ' ', '5']
      [.number (tenths '2' rfl).value, .number (tenths '3' rfl).value, .operator '-',
        .number (-(digit '5' rfl).value)] (some (.number (-(digit '5' rfl).value))) [] := by
    apply Splits.cons hnone (.numeral (tenths '2' rfl) (hmaximal '2' rfl '.' _ rfl))
    apply Splits.cons hnone (.numeral (tenths '3' rfl) (hmaximal '3' rfl '-' _ rfl))
    apply Splits.cons hnone (.operator (by decide) (fun _ => hoperand) _)
    exact .cons hnone (.negative (.operator '-') hspace (digit '5' rfl) hlast) (.nil _ [])
  have hshort' : ShortFractions ['.', '2', '.', '+', '3'] :=
    shortFractions_of_length (by decide)
  have hbegun : Splits none ['.', '2', '.', '+', '3'] [.number (tenths '2' rfl).value]
      (some (.number (tenths '2' rfl).value)) ['.', '+', '3'] :=
    .cons hnone (.numeral (tenths '2' rfl) (hmaximal '2' rfl '.' _ rfl)) (.nil _ _)
  have hstuck : Stuck (some (.number (tenths '2' rfl).value)) ['.', '+', '3']
      "Nombre mal formé." := by
    apply Stuck.point
    intro c hc
    cases hc
    rfl
  have hvalues : (tenths '2' rfl).value = 1 / 5 ∧ (tenths '3' rfl).value = 3 / 10 ∧
      -(digit '5' rfl).value = -5 := by decide +kernel
  rw [hvalues.1, hvalues.2.1, hvalues.2.2] at hsplits
  exact ⟨⟨hshort, ((scan_iff_splits hshort).1 _).mpr ⟨_, [], hnone, hsplits⟩⟩, hshort',
    ((scan_iff_splits hshort').2 _).mpr ⟨_, _, [], _, hnone, hbegun, hstuck⟩⟩

end Reckoner.Token
