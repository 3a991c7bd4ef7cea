import Reckoner.Calculator.Entry
import Reckoner.Proofs.Arrangement
import Reckoner.Proofs.Group
import Reckoner.Proofs.Gap

/-! # The outcome of an entry

Apart from its notes the work on an entry is three functions one after the other.
Tokens that write an expression come out as the expression does. -/

namespace Reckoner
open Outcome

namespace Postfix

theorem Writes.ne_nil {registry : Registry} {root : Option Operator} {e : Expr}
    {tokens : List Token} (h : Writes registry root e tokens) : tokens ≠ [] := by
  cases h <;> simp

theorem Writes.outcome_eq {calculator : Calculator} {root : Option Operator} {e : Expr}
    {tokens : List Token} (h : Writes calculator.registry root e tokens) :
    outcome calculator tokens = e.value calculator := by
  obtain ⟨pending, out, hrun, hout, hclosed⟩ := h.run_empty
  have hflush : flush pending out = .ok e.postorder := flush_eq_ok_iff.mpr ⟨hclosed, hout.symm⟩
  rw [outcome, ofTokens, hrun, ok_bind, hflush, ok_bind, outcome_value_postorder]

end Postfix

namespace Calculator

theorem outcome_scan (text : List Char) :
    (scan text).outcome = (Token.scan text).mapError .lexical := by
  rw [scan, Journaled.outcome_bind]
  cases Token.scan text <;> rfl

theorem outcome_arrange (registry : Registry) (tokens : List Token) :
    (arrange registry tokens).outcome = Postfix.ofTokens registry tokens := by
  rw [arrange, Journaled.outcome_bind]
  cases Postfix.ofTokens registry tokens <;> rfl

theorem outcome_work (calculator : Calculator) (entry : List Char) :
    (calculator.work entry).outcome =
      if Text.trim entry = [] then .error .emptyEntry else (do
        let tokens ← (Token.scan entry).mapError .lexical
        let arranged ← Postfix.ofTokens calculator.registry tokens
        let v ← (Postfix.value calculator arranged).outcome
        return (v, ⟨Token.line tokens, Token.line arranged⟩)) := by
  rw [work]
  split
  · rename_i htrim
    rw [if_pos htrim]
    rfl
  · rename_i htrim
    rw [if_neg htrim, Journaled.outcome_bind, outcome_scan, Token.scan_trim]
    cases (Token.scan entry).mapError Fault.lexical with
    | error fault => rfl
    | ok tokens =>
      rw [ok_bind, ok_bind, Journaled.outcome_bind, outcome_arrange]
      cases Postfix.ofTokens calculator.registry tokens with
      | error fault => rfl
      | ok arranged =>
        rw [ok_bind, ok_bind, Journaled.outcome_bind]
        rfl

theorem tokens_of_work {calculator : Calculator} {entry : List Char} {tokens : List Token}
    {value : Rat} {working : Working} (hscan : Token.scan entry = .ok tokens)
    (h : (calculator.work entry).outcome = .ok (value, working)) :
    working.tokens = Token.line tokens := by
  rw [outcome_work, hscan] at h
  split at h
  · cases h
  · obtain ⟨found, hfound, hrest⟩ := bind_eq_ok_iff.mp h
    obtain ⟨arranged, _, hrest⟩ := bind_eq_ok_iff.mp hrest
    obtain ⟨v, _, hrest⟩ := bind_eq_ok_iff.mp hrest
    cases hfound
    cases hrest
    rfl

theorem outcome_evaluate_eq_map (calculator : Calculator) (entry : List Char) :
    (calculator.evaluate entry).outcome = (calculator.work entry).outcome.map Prod.fst := by
  rw [evaluate, Journaled.outcome_bind]
  cases (calculator.work entry).outcome <;> rfl

theorem outcome_evaluate (calculator : Calculator) (entry : List Char) :
    (calculator.evaluate entry).outcome =
      if Text.trim entry = [] then .error .emptyEntry else (do
        let tokens ← (Token.scan entry).mapError .lexical
        Postfix.outcome calculator tokens) := by
  rw [outcome_evaluate_eq_map, outcome_work]
  split
  · rfl
  · cases (Token.scan entry).mapError Fault.lexical with
    | error fault => rfl
    | ok tokens =>
      rw [ok_bind, ok_bind, Postfix.outcome]
      cases Postfix.ofTokens calculator.registry tokens with
      | error fault => rfl
      | ok arranged =>
        rw [ok_bind, ok_bind]
        cases (Postfix.value calculator arranged).outcome <;> rfl

theorem outcome_work_of_scan_eq (calculator : Calculator) {first second : List Char}
    (h : Token.scan first = Token.scan second) :
    (calculator.work first).outcome = (calculator.work second).outcome := by
  have hblank : Text.trim first = [] ↔ Text.trim second = [] := by
    rw [← Token.scan_eq_nil_iff, h, Token.scan_eq_nil_iff]
  simp only [outcome_work, h, hblank]

theorem work_trim (calculator : Calculator) (entry : List Char) :
    calculator.work (Text.trim entry) = calculator.work entry := by
  rw [work, work, Text.trim_trim]

theorem outcome_work_trim (calculator : Calculator) (entry : List Char) :
    (calculator.work (Text.trim entry)).outcome = (calculator.work entry).outcome := by
  rw [work_trim]

theorem outcome_answer (calculator : Calculator) (entry : List Char) :
    (calculator.answer entry).outcome = (calculator.work entry).outcome := by
  simp only [answer]
  split
  · rfl
  · rename_i fault h
    exact h.symm

theorem trim_ne_nil_of_scan {entry : List Char} {tokens : List Token}
    (h : Token.scan entry = .ok tokens) (hne : tokens ≠ []) : Text.trim entry ≠ [] := by
  intro htrim
  rw [← Token.scan_trim, htrim, Token.scan, Token.scanAfter_eq] at h
  cases h
  exact hne rfl

theorem outcome_evaluate_of_scan (calculator : Calculator) {entry : List Char}
    {tokens : List Token} (h : Token.scan entry = .ok tokens) (hne : tokens ≠ []) :
    (calculator.evaluate entry).outcome = Postfix.outcome calculator tokens := by
  rw [outcome_evaluate, if_neg (trim_ne_nil_of_scan h hne), h]
  rfl

/-- White space between two texts that are apart changes neither the tokens of an entry
nor what comes of them. -/
theorem scan_and_work_insert_gap {before gap after : List Char}
    (hgap : ∀ c ∈ gap, Text.isBlank c = true) (hapart : Token.Apart before after) :
    Token.scan (before ++ gap ++ after) = Token.scan (before ++ after) ∧
      ∀ calculator : Calculator, (calculator.work (before ++ gap ++ after)).outcome =
        (calculator.work (before ++ after)).outcome := by
  have hscan : Token.scan (before ++ gap ++ after) = Token.scan (before ++ after) := by
    rw [List.append_assoc]
    exact Token.scanAfter_insert_gap hgap hapart none
  exact ⟨hscan, fun calculator => outcome_work_of_scan_eq calculator hscan⟩

theorem scan_and_work_insert_gap_after_sign :
    (∀ c ∈ ['\u00a0', '\t'], Text.isBlank c = true) ∧
      Token.Apart ['2', '*', '-'] ['.', '5'] ∧
      Token.scan ['2', '*', '-', '\u00a0', '\t', '.', '5'] =
        .ok [.number 2, .operator '*', .number (-(1 / 2))] ∧
      (standard.work ['2', '*', '-', '\u00a0', '\t', '.', '5']).outcome =
        .ok (-1, ⟨['2', ' ', '*', ' ', '-', '0', '.', '5'],
          ['2', ' ', '-', '0', '.', '5', ' ', '*']⟩) := by
  have hgap : ∀ c ∈ ['\u00a0', '\t'], Text.isBlank c = true := List.all_eq_true.mp rfl
  have hapart : Token.Apart ['2', '*', '-'] ['.', '5'] := by
    intro c hc d hd
    cases hc
    cases hd
    decide +kernel
  have htokens : Token.scan ['2', '*', '-', '.', '5'] =
      .ok [.number 2, .operator '*', .number (-(1 / 2))] := by
    decide +kernel
  have hwork : (standard.work ['2', '*', '-', '.', '5']).outcome =
      .ok (-1, ⟨['2', ' ', '*', ' ', '-', '0', '.', '5'],
        ['2', ' ', '-', '0', '.', '5', ' ', '*']⟩) := by
    decide +kernel
  obtain ⟨hscan, hsame⟩ := scan_and_work_insert_gap hgap hapart
  exact ⟨hgap, hapart, hscan.trans htokens, (hsame standard).trans hwork⟩

/-- Within a numeral white space counts. -/
example : Token.scan ['1', ' ', '2'] ≠ Token.scan ['1', '2'] := by decide +kernel

end Calculator

end Reckoner
