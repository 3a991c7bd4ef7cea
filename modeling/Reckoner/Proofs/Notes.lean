import Reckoner.Proofs.Conversation
import Reckoner.Proofs.Shown
import Reckoner.Window

/-! # What is noted

The notes of a work are the notes of its stages. While tokens in postfix order are executed
each function and each operator is noted once it has its value, with the values of the
expressions that are its operands. The first token that cannot be executed ends the notes,
so they are those of the tokens before it, whatever sense these make. A host adds a note
only if the entry is refused. -/

namespace Reckoner
open Outcome Text

def Token.applied? : Token → Option Applied
  | .function name => some (.function name)
  | .operator symbol => some (.operator symbol)
  | _ => none

/-- The note is a trace whose line shows what was applied. -/
def Traces (applied : Applied) (note : Level × String) : Prop :=
  note.1 = .trace ∧ ∃ operands v, Shows note.2 applied operands v

namespace Postfix

/-- The notes on tokens that have been executed: one trace of each function and of each
operator when it completes an expression. Its line shows the values of the expression's
operands, the left one first, and of the expression. -/
inductive Noted (calculator : Calculator) : List Token → List (Level × String) → Prop where
  | nil : Noted calculator [] []
  | number {before : List Token} {notes : List (Level × String)}
      (h : Noted calculator before notes) (v : Rat) :
      Noted calculator (before ++ (Expr.number v).postorder) notes
  | call {before : List Token} {notes : List (Level × String)} {name : List Char}
      {argument : Expr} {x v : Rat} {line : String}
      (h : Noted calculator (before ++ argument.postorder) notes)
      (hargument : Evaluates calculator argument (.ok x))
      (hvalue : Evaluates calculator (.call name argument) (.ok v))
      (hline : Shows line (.function name) [x] v) :
      Noted calculator (before ++ (Expr.call name argument).postorder)
        (notes ++ [(.trace, line)])
  | combine {before : List Token} {notes : List (Level × String)} {symbol : Char}
      {left right : Expr} {x y v : Rat} {line : String}
      (h : Noted calculator (before ++ left.postorder ++ right.postorder) notes)
      (hleft : Evaluates calculator left (.ok x)) (hright : Evaluates calculator right (.ok y))
      (hvalue : Evaluates calculator (.combine symbol left right) (.ok v))
      (hline : Shows line (.operator symbol) [x, y] v) :
      Noted calculator (before ++ (Expr.combine symbol left right).postorder)
        (notes ++ [(.trace, line)])

/-- Of the tokens these come before the first that cannot be executed: they spell
expressions that have values, and with one token more they do not. -/
structure StopsAfter (calculator : Calculator) (tokens done left : List Token) : Prop where
  eq_append : tokens = done ++ left
  leaves : ∃ stack, Leaves calculator done stack
  stops : ∀ token ∈ left.head?, ∀ stack, ¬ Leaves calculator (done ++ [token]) stack

section Notes
variable {calculator : Calculator} {before tokens : List Token} {stack reached : List Rat}
  {token : Token} {notes : List (Level × String)}

theorem Noted.forall₂_traces (h : Noted calculator tokens notes) :
    List.Forall₂ Traces (tokens.filterMap Token.applied?) notes := by
  have hsnoc : ∀ (list : List Token) (token : Token), (list ++ [token]).filterMap Token.applied? =
      list.filterMap Token.applied? ++ [token].filterMap Token.applied? :=
    fun _ _ => List.filterMap_append
  induction h with
  | nil => exact .nil
  | number _ v ih =>
    rw [Expr.postorder, hsnoc]
    exact (List.append_nil _).symm ▸ ih
  | call _ _ _ hline ih =>
    rw [Expr.postorder, ← List.append_assoc, hsnoc]
    exact List.rel_append ih (.cons ⟨rfl, _, _, hline⟩ .nil)
  | combine _ _ _ _ hline ih =>
    rw [Expr.postorder, ← List.append_assoc, ← List.append_assoc, hsnoc]
    exact List.rel_append ih (.cons ⟨rfl, _, _, hline⟩ .nil)

theorem Noted.eq_nil (h : Noted calculator [] notes) : notes = [] :=
  List.forall₂_nil_left_iff.mp h.forall₂_traces

theorem execute_function_of_ok {name : List Char} {x v : Rat} (h : Calculator.call name x = .ok v)
    (below : List Rat) :
    execute calculator (x :: below) (.function name) = ⟨[.called name x v], .ok (v :: below)⟩ := by
  rw [execute, h]
  rfl

theorem execute_operator_of_ok {symbol : Char} {x y v : Rat}
    (h : calculator.combine symbol x y = .ok v) (below : List Rat) :
    execute calculator (y :: x :: below) (.operator symbol) =
      ⟨[.combined symbol x y v], .ok (v :: below)⟩ := by
  rw [execute, h]
  rfl

theorem records_execute_of_error {fault : Fault}
    (h : (execute calculator stack token).outcome = .error fault) :
    (execute calculator stack token).records = [] := by
  cases token with
  | number v => rfl
  | lparen => rfl
  | rparen => rfl
  | function name =>
    cases stack with
    | nil => rfl
    | cons x below =>
      cases hcall : Calculator.call name x with
      | error other =>
        rw [execute, hcall]
        rfl
      | ok v =>
        rw [execute_function_of_ok hcall] at h
        cases h
  | operator symbol =>
    rcases stack with _ | ⟨y, _ | ⟨x, below⟩⟩
    · rfl
    · rfl
    · cases hcombine : calculator.combine symbol x y with
      | error other =>
        rw [execute, hcombine]
        rfl
      | ok v =>
        rw [execute_operator_of_ok hcombine] at h
        cases h

/-- A further token that is executed is noted with the values on top of the stack, which are
those of the expressions that end before it. -/
theorem Noted.execute (h : Noted calculator before notes) (hleaves : Leaves calculator before stack)
    (hexecute : (execute calculator stack token).outcome = .ok reached) :
    Noted calculator (before ++ [token])
      (notes ++ (Postfix.execute calculator stack token).records.map Record.shown) := by
  rcases outcome_execute_eq_ok hexecute with ⟨v, rfl, rfl⟩ |
    ⟨name, x, v, below, rfl, rfl, hv, rfl⟩ | ⟨symbol, x, y, v, below, rfl, rfl, hv, rfl⟩
  · have hnumber := h.number v
    rwa [← List.append_nil notes] at hnumber
  · obtain ⟨rest, argument, rfl, _, hargument⟩ := hleaves.eq_append
    have hvalue : Evaluates calculator (.call name argument) (.ok v) := hv ▸ .call name hargument
    rw [execute_function_of_ok hv, List.append_assoc]
    exact .call h hargument hvalue (shows_called name x v)
  · -- The right operand is the later one and lies on top.
    obtain ⟨upper, right, rfl, hupper, hright⟩ := hleaves.eq_append
    obtain ⟨rest, left, rfl, _, hleft⟩ := hupper.eq_append
    have hvalue : Evaluates calculator (.combine symbol left right) (.ok v) :=
      .combine hleft hright (combines_iff.mpr hv)
    have hcombine := Noted.combine h hleft hright hvalue (shows_combined symbol x y v)
    rw [execute_operator_of_ok hv]
    simpa [Expr.postorder, Record.shown, Record.level] using hcombine

theorem Noted.run (h : Noted calculator before notes) (hleaves : Leaves calculator before stack)
    (hrun : (Postfix.run calculator stack tokens).outcome = .ok reached) :
    Noted calculator (before ++ tokens)
      (notes ++ (Postfix.run calculator stack tokens).records.map Record.shown) := by
  induction tokens generalizing before stack notes with
  | nil =>
    rw [List.append_nil]
    change Noted calculator before (notes ++ [])
    rwa [List.append_nil]
  | cons token tokens ih =>
    rw [Postfix.run, List.foldlM_cons] at hrun ⊢
    rw [Journaled.outcome_bind] at hrun
    obtain ⟨middle, hstep, hrest⟩ := bind_eq_ok_iff.mp hrun
    have hnext := ih (h.execute hleaves hstep) (hleaves.execute hstep) hrest
    rw [List.append_assoc, List.append_assoc, ← List.map_append] at hnext
    rw [Journaled.bind_of_ok hstep]
    exact hnext

/-- A run stops after all tokens or before one that cannot be executed, and what it notes up
to there is all that it notes. -/
theorem exists_stopsAfter (calculator : Calculator) (tokens : List Token) :
    ∃ done left, StopsAfter calculator tokens done left ∧
      Noted calculator done ((run calculator [] tokens).records.map Record.shown) ∧
      ∀ stack, (run calculator [] tokens).outcome = .ok stack → left = [] := by
  cases hrun : (run calculator [] tokens).outcome with
  | ok stack =>
    refine ⟨tokens, [], ⟨by simp, ⟨stack, outcome_run_eq_ok_iff.mp hrun⟩, by simp⟩, ?_,
      fun _ _ => rfl⟩
    exact Noted.nil.run .nil hrun
  | error fault =>
    rw [outcome_run] at hrun
    obtain ⟨done, token, after, stack, rfl, hdone, hexecute⟩ := foldlM_eq_error_iff.mp hrun
    rw [← outcome_run] at hdone
    have hleaves := outcome_run_eq_ok_iff.mp hdone
    refine ⟨done, token :: after, ⟨rfl, ⟨stack, hleaves⟩, ?_⟩, ?_, fun _ => nofun⟩
    · intro other hother reached hreached
      cases hother
      have hfail := hreached.outcome_run
      rw [outcome_run_append, hdone, ok_bind, outcome_run_singleton, hexecute] at hfail
      cases hfail
    · have hrest : (run calculator stack (token :: after)).records = [] := by
        rw [run, List.foldlM_cons, Journaled.bind_of_error hexecute]
        exact records_execute_of_error hexecute
      have hnoted := Noted.nil.run .nil hdone
      rw [run_append, Journaled.bind_of_ok hdone, hrest, List.append_nil]
      exact hnoted

theorem records_value (calculator : Calculator) (tokens : List Token) :
    (value calculator tokens).records = (run calculator [] tokens).records := by
  rw [value]
  cases hrun : (run calculator [] tokens).outcome with
  | error fault => rw [Journaled.bind_of_error hrun]
  | ok stack =>
    rw [Journaled.bind_of_ok hrun]
    rcases stack with _ | ⟨v, _ | ⟨w, below⟩⟩ <;> exact List.append_nil _

theorem Noted.shows_getLast? {e : Expr} {v : Rat} (h : Noted calculator e.postorder notes)
    (he : Evaluates calculator e (.ok v)) :
    ∀ last ∈ notes.getLast?, ∃ applied operands, Shows last.2 applied operands v := by
  have hvalue : ∀ w, Evaluates calculator e (.ok w) → w = v := by
    intro w hw
    have heq := (evaluates_iff.mp hw).symm.trans (evaluates_iff.mp he)
    exact Except.ok.inj heq
  have hroot : ∀ {before : List Token} {other : Expr}, e.postorder = before ++ other.postorder →
      before = [] ∧ e = other := by
    intro before other heq
    have hsplit : [] ++ e.postorder = before ++ other.postorder := heq
    obtain ⟨hbefore, hother⟩ := Expr.append_postorder_inj hsplit
    exact ⟨hbefore.symm, hother⟩
  generalize htokens : e.postorder = tokens at h
  cases h with
  | nil => exact absurd htokens e.postorder_ne_nil
  | number h w =>
    obtain ⟨rfl, -⟩ := hroot htokens
    rw [h.eq_nil]
    exact nofun
  | call h hargument hcall hline =>
    obtain ⟨-, rfl⟩ := hroot htokens
    intro last hlast
    rw [List.getLast?_concat] at hlast
    cases hlast
    rw [← hvalue _ hcall]
    exact ⟨_, _, hline⟩
  | combine h hleft hright hcombine hline =>
    obtain ⟨-, rfl⟩ := hroot htokens
    intro last hlast
    rw [List.getLast?_concat] at hlast
    cases hlast
    rw [← hvalue _ hcombine]
    exact ⟨_, _, hline⟩

end Notes

end Postfix

namespace Calculator
variable {calculator : Calculator} {entry : List Char} {tokens arranged : List Token}

theorem records_work_of_blank (h : ∀ c ∈ entry, isBlank c = true) :
    (calculator.work entry).records = [] := by
  rw [work, trim_eq_nil_iff.mpr h]
  rfl

theorem work_of_not_blank (h : ∃ c ∈ entry, isBlank c = false) :
    calculator.work entry = (do
      let tokens ← scan (trim entry)
      let arranged ← arrange calculator.registry tokens
      let v ← Postfix.value calculator arranged
      return (v, ⟨Token.line tokens, Token.line arranged⟩)) := by
  rw [work]
  split
  · rename_i htrim
    exact absurd htrim (trim_ne_nil_iff.mpr h)
  · rfl

theorem scan_of_error {cause : LexicalFault} (h : Token.scan entry = .error cause) :
    scan (trim entry) = ⟨[], .error (.lexical cause)⟩ := by
  rw [scan, Token.scan_trim, h]
  rfl

theorem scan_of_ok (h : Token.scan entry = .ok tokens) :
    scan (trim entry) = ⟨[.scanned tokens], .ok tokens⟩ := by
  rw [scan, Token.scan_trim, h]
  rfl

theorem arrange_of_error {registry : Registry} {fault : Fault}
    (h : Postfix.ofTokens registry tokens = .error fault) :
    arrange registry tokens = ⟨[], .error fault⟩ := by
  rw [arrange, h]
  rfl

theorem arrange_of_ok {registry : Registry} (h : Postfix.ofTokens registry tokens = .ok arranged) :
    arrange registry tokens = ⟨[.arranged arranged], .ok arranged⟩ := by
  rw [arrange, h]
  rfl

theorem records_work_of_scan_error {cause : LexicalFault} (hentry : ∃ c ∈ entry, isBlank c = false)
    (hscan : Token.scan entry = .error cause) : (calculator.work entry).records = [] := by
  rw [work_of_not_blank hentry, scan_of_error hscan]
  rfl

theorem records_work_of_arrange_error {fault : Fault} (hentry : ∃ c ∈ entry, isBlank c = false)
    (hscan : Token.scan entry = .ok tokens)
    (harrange : Postfix.ofTokens calculator.registry tokens = .error fault) :
    (calculator.work entry).records = [.scanned tokens] := by
  rw [work_of_not_blank hentry, scan_of_ok hscan, Journaled.bind_of_ok rfl,
    arrange_of_error harrange]
  rfl

theorem work_of_arranged (hentry : ∃ c ∈ entry, isBlank c = false)
    (hscan : Token.scan entry = .ok tokens)
    (harrange : Postfix.ofTokens calculator.registry tokens = .ok arranged) :
    calculator.work entry =
      ⟨.scanned tokens :: .arranged arranged :: (Postfix.value calculator arranged).records,
        (Postfix.value calculator arranged).outcome.map
          (·, ⟨Token.line tokens, Token.line arranged⟩)⟩ := by
  rw [work_of_not_blank hentry, scan_of_ok hscan, Journaled.bind_of_ok rfl,
    arrange_of_ok harrange, Journaled.bind_of_ok rfl]
  cases hvalue : (Postfix.value calculator arranged).outcome with
  | ok v =>
    rw [Journaled.bind_of_ok hvalue]
    simp [Except.map]
  | error fault =>
    rw [Journaled.bind_of_error hvalue]
    rfl

theorem shown_answer (calculator : Calculator) (entry : List Char) :
    (calculator.answer entry).records.map Record.shown =
      (calculator.work entry).records.map Record.shown ++
        warning entry (calculator.work entry).outcome := by
  simp only [answer]
  cases hwork : (calculator.work entry).outcome with
  | ok found => exact (List.append_nil _).symm
  | error fault => exact List.map_append

/-- What is noted of an entry: nothing if it is blank, else its tokens if it splits into
tokens, then these in postfix order if they can be put into it, then each function and
operator that is carried out, in that order. The lines of tokens are for debugging. All
others are traces, which show name or symbol, operands and value in full, and where the
entry has a value the last of them shows it. A host adds the warning that the entry was
refused if it was, and nothing else. -/
theorem work_records (calculator : Calculator) (entry : List Char) :
    ((∀ c ∈ entry, isBlank c = true) → (calculator.work entry).records = []) ∧
      ((∃ c ∈ entry, isBlank c = false) →
        (∀ cause, Token.scan entry = .error cause → (calculator.work entry).records = []) ∧
          ∀ tokens, Token.scan entry = .ok tokens →
            (∀ fault, Postfix.ofTokens calculator.registry tokens = .error fault →
              (calculator.work entry).records.map Record.shown =
                [(.debug, listed "jetons" tokens)]) ∧
            ∀ arranged, Postfix.ofTokens calculator.registry tokens = .ok arranged →
              ∃ done left notes, Postfix.StopsAfter calculator arranged done left ∧
                (calculator.work entry).records.map Record.shown =
                  (.debug, listed "jetons" tokens) :: (.debug, listed "rpn" arranged) :: notes ∧
                Postfix.Noted calculator done notes ∧
                List.Forall₂ Traces (done.filterMap Token.applied?) notes ∧
                ∀ v working, (calculator.work entry).outcome = .ok (v, working) →
                  left = [] ∧
                    ∀ last ∈ notes.getLast?, ∃ applied operands, Shows last.2 applied operands v) ∧
      ((∃ c ∈ entry, isBlank c = false) → ¬ Console.QuitWord (trim entry) →
        (Console.reply calculator entry).2.map Record.shown =
          (calculator.work entry).records.map Record.shown ++
            warning (trim entry) (calculator.work entry).outcome) ∧
      ∀ panel : Panel, panel.calculator = calculator → panel.entry = entry →
        (panel.records .evaluate).map Record.shown =
          (calculator.work entry).records.map Record.shown ++
            warning entry (calculator.work entry).outcome := by
  refine ⟨records_work_of_blank, ?_, ?_, ?_⟩
  · intro hentry
    refine ⟨fun _ => records_work_of_scan_error hentry, ?_⟩
    intro tokens hscan
    refine ⟨?_, ?_⟩
    · intro fault harrange
      rw [records_work_of_arrange_error hentry hscan harrange]
      rfl
    · intro arranged harrange
      obtain ⟨done, left, hstops, hnoted, hleft⟩ := Postfix.exists_stopsAfter calculator arranged
      have hwork := work_of_arranged hentry hscan harrange
      refine ⟨done, left, _, hstops, ?_, hnoted, hnoted.forall₂_traces, ?_⟩
      · rw [hwork, Postfix.records_value]
        rfl
      · intro v working hfound
        rw [hwork] at hfound
        obtain ⟨w, hvalue, hw⟩ := map_eq_ok_iff.mp hfound
        cases hw
        have hnil : left = [] := hleft _ (Postfix.outcome_value_eq_ok_iff.mp hvalue)
        have hdone : arranged = done := by rw [hstops.eq_append, hnil, List.append_nil]
        obtain ⟨e, he, heval⟩ := Postfix.exists_expr_of_value hvalue
        rw [← hdone, ← he] at hnoted
        exact ⟨hnil, he ▸ hnoted.shows_getLast? heval⟩
  · intro hentry hquit
    rw [Console.reply_of_entry calculator hentry hquit, shown_answer, work_trim]
  · intro panel hcalculator hpanel
    rw [← hcalculator, ← hpanel]
    exact shown_answer panel.calculator panel.entry

/-- The difference is noted, the division by it is not, and the console adds the refusal. -/
theorem work_records_division_refused :
    (∃ c ∈ [' ', '7', '-', '6', '/', '(', '3', '-', '3', ')'], isBlank c = false) ∧
      Token.scan [' ', '7', '-', '6', '/', '(', '3', '-', '3', ')'] =
        .ok [.number 7, .operator '-', .number 6, .operator '/', .lparen, .number 3,
          .operator '-', .number 3, .rparen] ∧
      Postfix.ofTokens Calculator.standard.registry [.number 7, .operator '-', .number 6,
          .operator '/', .lparen, .number 3, .operator '-', .number 3, .rparen] =
        .ok [.number 7, .number 6, .number 3, .number 3, .operator '-', .operator '/',
          .operator '-'] ∧
      (∃ done left notes, Postfix.StopsAfter .standard [.number 7, .number 6, .number 3, .number 3,
          .operator '-', .operator '/', .operator '-'] done left ∧
        [(.debug, "jetons: 7 - 6 / ( 3 - 3 )"), (.debug, "rpn: 7 6 3 3 - / -"),
            (.trace, "3 - 3 = 0")] =
          (.debug, listed "jetons" [.number 7, .operator '-', .number 6, .operator '/', .lparen,
            .number 3, .operator '-', .number 3, .rparen]) ::
          (.debug, listed "rpn" [.number 7, .number 6, .number 3, .number 3, .operator '-',
            .operator '/', .operator '-']) :: notes ∧
        Postfix.Noted .standard done notes ∧
        List.Forall₂ Traces (done.filterMap Token.applied?) notes) ∧
      Shows "3 - 3 = 0" (.operator '-') [3, 3] 0 ∧
      ¬ Console.QuitWord ['7', '-', '6', '/', '(', '3', '-', '3', ')'] ∧
      (Console.reply .standard [' ', '7', '-', '6', '/', '(', '3', '-', '3', ')']).2.map
          Record.shown =
        [(.debug, "jetons: 7 - 6 / ( 3 - 3 )"), (.debug, "rpn: 7 6 3 3 - / -"),
          (.trace, "3 - 3 = 0"),
          (.warn, "évaluation refusée pour \"7-6/(3-3)\": Division par zéro interdite.")] := by
  have hentry : ∃ c ∈ [' ', '7', '-', '6', '/', '(', '3', '-', '3', ')'], isBlank c = false :=
    ⟨'7', by simp, by decide⟩
  have hscan : Token.scan [' ', '7', '-', '6', '/', '(', '3', '-', '3', ')'] =
      .ok [.number 7, .operator '-', .number 6, .operator '/', .lparen, .number 3,
        .operator '-', .number 3, .rparen] := by
    decide +kernel
  have harrange : Postfix.ofTokens Calculator.standard.registry [.number 7, .operator '-',
      .number 6, .operator '/', .lparen, .number 3, .operator '-', .number 3, .rparen] =
      .ok [.number 7, .number 6, .number 3, .number 3, .operator '-', .operator '/',
        .operator '-'] := by
    decide +kernel
  have hquit : ¬ Console.QuitWord ['7', '-', '6', '/', '(', '3', '-', '3', ')'] := by
    rw [← Console.isQuitWord_iff]
    decide
  have hshown : (standard.work [' ', '7', '-', '6', '/', '(', '3', '-', '3', ')']).records.map
      Record.shown = [(.debug, "jetons: 7 - 6 / ( 3 - 3 )"), (.debug, "rpn: 7 6 3 3 - / -"),
        (.trace, "3 - 3 = 0")] := by
    decide +kernel
  have hwarning : warning ['7', '-', '6', '/', '(', '3', '-', '3', ')']
      (standard.work [' ', '7', '-', '6', '/', '(', '3', '-', '3', ')']).outcome =
        [(.warn, "évaluation refusée pour \"7-6/(3-3)\": Division par zéro interdite.")] := by
    decide +kernel
  have hline : (Record.combined '-' 3 3 0).message = "3 - 3 = 0" := by decide +kernel
  obtain ⟨_, hstages, hreply, _⟩ :=
    work_records standard [' ', '7', '-', '6', '/', '(', '3', '-', '3', ')']
  obtain ⟨done, left, notes, hstops, hnotes, hnoted, htraces, _⟩ :=
    ((hstages hentry).2 _ hscan).2 _ harrange
  have hconsole : (Console.reply .standard [' ', '7', '-', '6', '/', '(', '3', '-', '3', ')']).2.map
      Record.shown = _ := hreply hentry hquit
  rw [hshown] at hnotes hconsole
  exact ⟨hentry, hscan, harrange, ⟨done, left, notes, hstops, hnotes, hnoted, htraces⟩,
    hline ▸ shows_combined '-' 3 3 0, hquit, hconsole.trans (congrArg _ hwarning)⟩

end Calculator

end Reckoner
