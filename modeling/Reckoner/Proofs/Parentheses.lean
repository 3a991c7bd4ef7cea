import Reckoner.Proofs.Balance
import Reckoner.Proofs.Entry
import Reckoner.Proofs.Execution
import Reckoner.Proofs.Phrase

/-! # Parentheses of an entry

The parentheses among the tokens of a text are those of the text, and no token has an
operator that the standard calculator lacks. What can be arranged is then executed
without a parenthesis or an unknown operator, so the parentheses of an entry alone
decide whether it is refused for them. -/

namespace Reckoner

namespace Token
open Text Outcome

def ofParenthesis : Char → Option Token
  | '(' => some .lparen
  | ')' => some .rparen
  | _ => none

theorem ofParenthesis_eq_none {c : Char} (hlparen : c ≠ '(') (hrparen : c ≠ ')') :
    ofParenthesis c = none := by
  rw [ofParenthesis]
  · exact hlparen
  · exact hrparen

theorem ofParenthesis_of_class {p : Char → Bool} (hlparen : p '(' = false) (hrparen : p ')' = false)
    {c : Char} (h : p c = true) : ofParenthesis c = none := by
  apply ofParenthesis_eq_none
  · rintro rfl
    rw [hlparen] at h
    cases h
  · rintro rfl
    rw [hrparen] at h
    cases h

def parentheses (text : List Char) : List Token := text.filterMap ofParenthesis

@[simp] theorem parentheses_append (first second : List Char) :
    parentheses (first ++ second) = parentheses first ++ parentheses second :=
  List.filterMap_append

theorem parentheses_cons {c : Char} (h : ofParenthesis c = none) (text : List Char) :
    parentheses (c :: text) = parentheses text := by
  rw [parentheses, List.filterMap_cons_none h]
  rfl

theorem parentheses_takeWhile {p : Char → Bool} (hlparen : p '(' = false)
    (hrparen : p ')' = false) (text : List Char) : parentheses (text.takeWhile p) = [] := by
  rw [parentheses, List.filterMap_eq_nil_iff]
  intro c hc
  exact ofParenthesis_of_class hlparen hrparen (List.mem_takeWhile_imp hc)

theorem parentheses_dropWhile {p : Char → Bool} (hlparen : p '(' = false)
    (hrparen : p ')' = false) (text : List Char) :
    parentheses (text.dropWhile p) = parentheses text := by
  have hsplit := List.takeWhile_append_dropWhile (p := p) (l := text)
  rw [← hsplit, parentheses_append, parentheses_takeWhile hlparen hrparen, List.nil_append, hsplit]

theorem parentheses_readNumeral {text tail : List Char} {value? : Option Rat}
    (h : readNumeral text = (value?, tail)) : parentheses tail = parentheses text := by
  have htail : (splitNumeral text).2 = tail := congrArg Prod.snd h
  have hdrop := parentheses_dropWhile (p := isDigit) rfl rfl
  rw [← htail, splitNumeral]
  split
  · rename_i rest hrest
    have hpoint : parentheses ('.' :: rest) = parentheses rest := rfl
    rw [← hdrop text, hrest, hpoint]
    exact hdrop rest
  · exact hdrop text

/-- A lexeme is a parenthesis of the text or has none in it, and an operator is one of
the five. -/
theorem lexeme_eq_ok {previous : Option Token} {c : Char} {rest tail : List Char} {token : Token}
    (h : lexeme previous c rest = .ok (token, tail)) :
    parentheses (c :: rest) = [token].filter isParenthesis ++ parentheses tail ∧
      ∀ symbol, token = .operator symbol → symbol ∈ operatorSymbols := by
  have hblank := parentheses_dropWhile (p := isBlank) rfl rfl
  have hletters := parentheses_dropWhile (p := isLetter) (class_of_mem_marks (by decide)).2.2
    (class_of_mem_marks (by decide)).2.2
  cases takes_of_lexeme h with
  | lparen => exact ⟨rfl, by simp⟩
  | rparen => exact ⟨rfl, by simp⟩
  | negative _ hread =>
    have hminus : parentheses ('-' :: rest) = parentheses rest := rfl
    exact ⟨by rw [hminus, ← hblank rest, ← parentheses_readNumeral hread]; rfl, by simp⟩
  | operator hsymbol =>
    have hparens := (mem_marks_of_mem_operatorSymbols hsymbol).2
    refine ⟨parentheses_cons (ofParenthesis_eq_none hparens.1 hparens.2) rest, ?_⟩
    rintro symbol heq
    cases heq
    exact hsymbol
  | numeral _ hread => exact ⟨(parentheses_readNumeral hread).symm, by simp⟩
  | word hletter =>
    have hnone := ofParenthesis_of_class (p := isLetter) (class_of_mem_marks (by decide)).2.2
      (class_of_mem_marks (by decide)).2.2 hletter
    exact ⟨(parentheses_cons hnone rest).trans (hletters rest).symm, by simp⟩

theorem scanAfter_eq_ok {previous : Option Token} {text : List Char} {tokens : List Token}
    (h : scanAfter previous text = .ok tokens) :
    parentheses text = tokens.filter isParenthesis ∧
      ∀ symbol, .operator symbol ∈ tokens → symbol ∈ operatorSymbols := by
  have hblank := parentheses_dropWhile (p := isBlank) rfl rfl
  fun_induction scanAfter previous text generalizing tokens with
  | case1 previous text htext =>
    cases h
    rw [← hblank text, htext]
    exact ⟨rfl, by simp⟩
  | case2 previous text c rest htext token tail hlexeme ih =>
    obtain ⟨more, hmore, rfl⟩ := map_eq_ok_iff.mp h
    obtain ⟨hparentheses, hsymbols⟩ := ih hmore
    obtain ⟨hpiece, hsymbol⟩ := lexeme_eq_ok hlexeme
    constructor
    · rw [← hblank text, htext, hpiece, hparentheses, ← List.filter_append]
      rfl
    · intro symbol hmem
      rcases List.mem_cons.mp hmem with heq | hmem
      · exact hsymbol symbol heq.symm
      · exact hsymbols symbol hmem
  | case3 => cases h

theorem scan_balanced_iff {text : List Char} {tokens : List Token} (h : scan text = .ok tokens) :
    Balanced .lparen .rparen tokens ↔ Balanced '(' ')' text := by
  have hfilter : tokens.filter isParenthesis =
      tokens.filterMap (Option.guard (isParenthesis ·)) :=
    congrFun List.filterMap_eq_filter.symm tokens
  have htokens : Balanced .lparen .rparen (tokens.filter isParenthesis) ↔
      Balanced .lparen .rparen tokens := by
    rw [hfilter]
    apply balanced_filterMap_iff
    · intro t
      cases t <;> simp [Option.guard, isParenthesis]
    · intro t
      cases t <;> simp [Option.guard, isParenthesis]
  have htext : Balanced .lparen .rparen (parentheses text) ↔ Balanced '(' ')' text := by
    apply balanced_filterMap_iff
    · intro c
      rw [ofParenthesis.eq_def]
      split <;> simp_all
    · intro c
      rw [ofParenthesis.eq_def]
      split <;> simp_all
  rw [← htokens, ← (scanAfter_eq_ok h).1]
  exact htext

end Token

open Outcome

/-- The faults that lie in the arrangement of tokens, whatever their values. -/
def Fault.OfArrangement : Fault → Prop
  | .unbalancedParentheses => True
  | .unknownOperator _ => True
  | _ => False

section Standard

theorem exists_find?_standard_iff {symbol : Char} :
    (∃ op, Registry.standard.find? symbol = some op) ↔ symbol ∈ Token.operatorSymbols := by
  have hoperators : Registry.standard.operators.map Operator.symbol =
      Token.operatorSymbols.reverse := rfl
  rw [← List.mem_reverse, ← hoperators, List.mem_map]
  constructor
  · rintro ⟨op, hop⟩
    exact ⟨op, List.mem_of_find?_eq_some hop, Registry.symbol_of_find? hop⟩
  · rintro ⟨op, hop, rfl⟩
    apply Option.isSome_iff_exists.mp
    exact List.find?_isSome.mpr ⟨op, hop, beq_self_eq_true op.symbol⟩

theorem exists_operation {symbol : Char} (h : symbol ∈ Token.operatorSymbols) :
    ∃ operation : Operation, operation.symbol = symbol := by
  simp only [Token.operatorSymbols, List.mem_cons, List.not_mem_nil, or_false] at h
  rcases h with rfl | rfl | rfl | rfl | rfl
  · exact ⟨.add, rfl⟩
  · exact ⟨.subtract, rfl⟩
  · exact ⟨.multiply, rfl⟩
  · exact ⟨.divide, rfl⟩
  · exact ⟨.raise, rfl⟩

theorem not_ofArrangement_of_mapError {x : Except DomainFault Rat} {fault : Fault}
    (h : x.mapError .domain = .error fault) : ¬ fault.OfArrangement := by
  obtain ⟨cause, _, rfl⟩ := mapError_eq_error_iff.mp h
  exact id

theorem not_ofArrangement_of_call {name : List Char} {x : Rat} {fault : Fault}
    (h : Calculator.call name x = .error fault) : ¬ fault.OfArrangement := by
  rw [Calculator.call] at h
  split at h
  · exact not_ofArrangement_of_mapError h
  · cases h
    exact id

theorem Operation.not_ofArrangement_of_apply {operation : Operation} {x y : Rat} {fault : Fault}
    (h : operation.apply x y = .error fault) : ¬ fault.OfArrangement := by
  cases operation with
  | divide =>
    rw [Operation.apply] at h
    split at h
    · cases h
      exact id
    · cases h
  | raise => exact not_ofArrangement_of_mapError h
  | _ => cases h

/-- Once tokens are arranged, the standard calculator has no such fault to find. -/
theorem Postfix.FirstFault.not_ofArrangement {tokens : List Token} {fault : Fault}
    (h : FirstFault .standard tokens fault)
    (htokens : ∀ t ∈ tokens, Placeable Registry.standard t) : ¬ fault.OfArrangement := by
  cases h with
  | noArgument => exact id
  | fewOperands => exact id
  | leftover => exact id
  | function _ hcall => exact not_ofArrangement_of_call hcall
  | @operator before stack x y symbol _ _ hcombine after =>
    have hknown := (htokens (.operator symbol) (by simp)).known symbol rfl
    obtain ⟨operation, rfl⟩ := exists_operation (exists_find?_standard_iff.mp hknown)
    rw [combines_iff, operation.combine_standard] at hcombine
    exact Operation.not_ofArrangement_of_apply hcombine
  | parenthesis => exact id

end Standard

section Entries
variable {text : List Char} {tokens : List Token} {fault : Fault}

theorem Postfix.SyntaxFault.eq_unbalancedParentheses {registry : Registry}
    (h : SyntaxFault registry tokens fault)
    (hknown : ∀ symbol, .operator symbol ∈ tokens → ∃ op, registry.find? symbol = some op) :
    fault = .unbalancedParentheses := by
  cases h with
  | leftOpen => rfl
  | @misplaced before token _ hbefore hmisplaced after =>
    refine (hmisplaced.of_known ?_).2.1
    rintro symbol rfl
    exact hknown symbol (by simp)

theorem Postfix.outcome_of_ofArrangement (hscan : Token.scan text = .ok tokens)
    (hfault : fault.OfArrangement) :
    Postfix.outcome .standard tokens = .error fault ↔
      fault = .unbalancedParentheses ∧ ¬ Balanced '(' ')' text := by
  have hknown : ∀ symbol, .operator symbol ∈ tokens →
      ∃ op, Registry.standard.find? symbol = some op := fun symbol hsymbol =>
    exists_find?_standard_iff.mpr ((Token.scanAfter_eq_ok hscan).2 symbol hsymbol)
  rw [← Token.scan_balanced_iff hscan]
  constructor
  · intro h
    rcases bind_eq_error_iff.mp h with harrange | ⟨arranged, harrange, hvalue⟩
    · refine ⟨(ofTokens_eq_error_iff.mp harrange).eq_unbalancedParentheses hknown, ?_⟩
      intro hbalanced
      obtain ⟨arranged, hok⟩ := exists_ofTokens_iff.mpr ⟨hknown, hbalanced⟩
      cases hok.symm.trans harrange
    · have hfirst := outcome_value_eq_error_iff_firstFault.mp hvalue
      exact absurd hfault (hfirst.not_ofArrangement (placeable_of_ofTokens harrange))
  · rintro ⟨rfl, hbalanced⟩
    cases harrange : ofTokens Registry.standard tokens with
    | ok arranged => exact absurd (exists_ofTokens_iff.mp ⟨arranged, harrange⟩).2 hbalanced
    | error other =>
      have hother := (ofTokens_eq_error_iff.mp harrange).eq_unbalancedParentheses hknown
      exact bind_eq_error_iff.mpr (.inl (hother ▸ harrange))

/-- The parentheses of an entry alone decide whether it is refused for its arrangement. -/
theorem Calculator.outcome_evaluate_of_ofArrangement (hfault : fault.OfArrangement) :
    (Calculator.standard.evaluate text).outcome = .error fault ↔
      fault = .unbalancedParentheses ∧ (∃ c ∈ text, Text.isBlank c = false) ∧
        (∃ tokens, Token.scan text = .ok tokens) ∧ ¬ Balanced '(' ')' text := by
  constructor
  · intro h
    rw [outcome_evaluate] at h
    split at h
    · cases h
      cases hfault
    · rename_i htrim
      have hblank : ∃ c ∈ text, Text.isBlank c = false := Text.trim_ne_nil_iff.mp htrim
      rcases bind_eq_error_iff.mp h with hscan | ⟨tokens, hscan, houtcome⟩
      · obtain ⟨cause, _, rfl⟩ := mapError_eq_error_iff.mp hscan
        cases hfault
      · rw [mapError_eq_ok_iff] at hscan
        obtain ⟨rfl, hbalanced⟩ := (Postfix.outcome_of_ofArrangement hscan hfault).mp houtcome
        exact ⟨rfl, hblank, ⟨tokens, hscan⟩, hbalanced⟩
  · rintro ⟨heq, _, ⟨tokens, hscan⟩, hbalanced⟩
    have hne : tokens ≠ [] := by
      rintro rfl
      rw [← Token.scan_balanced_iff hscan] at hbalanced
      exact hbalanced ⟨by simp, rfl⟩
    rw [outcome_evaluate_of_scan _ hscan hne]
    exact (Postfix.outcome_of_ofArrangement hscan hfault).mpr ⟨heq, hbalanced⟩

end Entries

/-- The first misplaced token, or else an open parenthesis, decides the fault of an
arrangement; what is arranged can be executed without either. So an entry never has an
unknown operator, and it is refused for its parentheses exactly if it splits into tokens
and they do not balance. -/
theorem faults_of_arrangement (registry : Registry) (tokens : List Token) (text : List Char) :
    (∀ fault, Postfix.ofTokens registry tokens = .error fault ↔
        Postfix.SyntaxFault registry tokens fault) ∧
      ((∃ arranged, Postfix.ofTokens registry tokens = .ok arranged) ↔
        (∀ symbol, .operator symbol ∈ tokens → ∃ op, registry.find? symbol = some op) ∧
          Balanced .lparen .rparen tokens) ∧
      (∀ arranged, Postfix.ofTokens registry tokens = .ok arranged →
        ∀ t ∈ arranged, Postfix.Placeable registry t) ∧
      (∀ symbol, (Calculator.standard.evaluate text).outcome ≠ .error (.unknownOperator symbol)) ∧
      ((Calculator.standard.evaluate text).outcome = .error .unbalancedParentheses ↔
        (∃ c ∈ text, Text.isBlank c = false) ∧ (∃ tokens, Token.scan text = .ok tokens) ∧
          ¬ Balanced '(' ')' text) := by
  refine ⟨fun _ => Postfix.ofTokens_eq_error_iff, Postfix.exists_ofTokens_iff,
    fun _ => Postfix.placeable_of_ofTokens, ?_, ?_⟩
  · intro symbol h
    have hfault : (Fault.unknownOperator symbol).OfArrangement := trivial
    cases ((Calculator.outcome_evaluate_of_ofArrangement hfault).mp h).1
  · have hfault : Fault.unbalancedParentheses.OfArrangement := trivial
    rw [Calculator.outcome_evaluate_of_ofArrangement hfault]
    exact and_iff_right rfl

end Reckoner
