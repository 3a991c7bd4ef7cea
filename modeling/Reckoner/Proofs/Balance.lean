import Reckoner.Proofs.Yard

/-! # Which tokens can be arranged

Whether tokens have a postfix order depends on their parentheses and on the symbols
that have an operator, on nothing else. The first token that cannot come after those
before it decides the fault. The invariant is that the open parentheses on the stack
are those still open among the tokens, and that no symbol waits that has no operator;
so neither the release of waiting operators nor the end of the tokens adds a fault of
its own. -/

namespace Reckoner

/-- Every closing element closes an earlier opening one, and none is left open. -/
structure Balanced {α : Type} [DecidableEq α] (opening closing : α) (list : List α) : Prop where
  count_le : ∀ before, before <+: list → before.count closing ≤ before.count opening
  count_eq : list.count closing = list.count opening

theorem balanced_filterMap_iff {α β : Type} [DecidableEq α] [DecidableEq β] {f : α → Option β}
    {opening closing : α} {opening' closing' : β}
    (hopening : ∀ a, f a = some opening' ↔ a = opening)
    (hclosing : ∀ a, f a = some closing' ↔ a = closing) {list : List α} :
    Balanced opening' closing' (list.filterMap f) ↔ Balanced opening closing list := by
  have hcount : ∀ (b : β) (a : α), (∀ x, f x = some b ↔ x = a) → ∀ l : List α,
      (l.filterMap f).count b = l.count a := by
    intro b a h l
    rw [List.count_filterMap, List.count]
    apply List.countP_congr
    intro x _
    simp [h x]
  constructor
  · intro h
    refine ⟨fun before hbefore => ?_, ?_⟩
    · rw [← hcount _ _ hopening, ← hcount _ _ hclosing]
      exact h.count_le _ (hbefore.filterMap f)
    · rw [← hcount _ _ hopening, ← hcount _ _ hclosing]
      exact h.count_eq
  · intro h
    refine ⟨fun before hbefore => ?_, ?_⟩
    · obtain ⟨after, hafter⟩ := hbefore
      obtain ⟨first, second, rfl, rfl, _⟩ := List.filterMap_eq_append_iff.mp hafter.symm
      rw [hcount _ _ hopening, hcount _ _ hclosing]
      exact h.count_le first (List.prefix_append first second)
    · rw [hcount _ _ hopening, hcount _ _ hclosing]
      exact h.count_eq

namespace Postfix
open Outcome

/-- The token cannot come after those before it, which are well placed themselves: its
symbol has no operator, or it closes a parenthesis where none is open. -/
inductive Misplaced (registry : Registry) (before : List Token) : Token → Fault → Prop where
  | operator {symbol : Char} (h : registry.find? symbol = none) :
      Misplaced registry before (.operator symbol) (.unknownOperator symbol)
  | rparen (h : before.count .lparen ≤ before.count .rparen) :
      Misplaced registry before .rparen .unbalancedParentheses

theorem Misplaced.of_known {registry : Registry} {before : List Token} {token : Token}
    {fault : Fault} (h : Misplaced registry before token fault)
    (hknown : ∀ symbol, token = .operator symbol → ∃ op, registry.find? symbol = some op) :
    token = .rparen ∧ fault = .unbalancedParentheses ∧
      before.count .lparen ≤ before.count .rparen := by
  cases h with
  | rparen hle => exact ⟨rfl, rfl, hle⟩
  | @operator symbol hnone =>
    obtain ⟨op, hop⟩ := hknown symbol rfl
    rw [hop] at hnone
    cases hnone

def WellPlaced (registry : Registry) (tokens : List Token) : Prop :=
  ∀ before token after fault, tokens = before ++ token :: after →
    ¬ Misplaced registry before token fault

/-- The fault of the first token that is misplaced, or else the fault that a parenthesis
is left open. -/
inductive SyntaxFault (registry : Registry) : List Token → Fault → Prop where
  | misplaced {before : List Token} {token : Token} {fault : Fault}
      (hbefore : WellPlaced registry before) (h : Misplaced registry before token fault)
      (after : List Token) : SyntaxFault registry (before ++ token :: after) fault
  | leftOpen {tokens : List Token} (hplaced : WellPlaced registry tokens)
      (h : tokens.count .rparen < tokens.count .lparen) :
      SyntaxFault registry tokens .unbalancedParentheses

section Failures
variable {registry : Registry}

theorem exists_goesAhead {token : Token}
    (h : ∀ symbol, token = .operator symbol → ∃ op, registry.find? symbol = some op)
    (incoming : Operator) : ∃ ahead, goesAhead registry incoming token = .ok ahead := by
  cases token with
  | operator symbol =>
    obtain ⟨op, hop⟩ := h symbol rfl
    exact ⟨_, goesAhead_operator hop⟩
  | _ => exact ⟨_, rfl⟩

theorem exists_release {waiting : List Token}
    (h : ∀ symbol, Token.operator symbol ∈ waiting → ∃ op, registry.find? symbol = some op)
    (incoming : Operator) (placed : List Token) :
    ∃ yard, release registry incoming waiting placed = .ok yard := by
  induction waiting generalizing placed with
  | nil => exact ⟨_, rfl⟩
  | cons top below ih =>
    have hbelow := ih fun symbol hsymbol => h symbol (List.mem_cons_of_mem top hsymbol)
    have htop : ∀ symbol, top = .operator symbol → ∃ op, registry.find? symbol = some op := by
      rintro symbol rfl
      exact h symbol List.mem_cons_self
    obtain ⟨ahead, hahead⟩ := exists_goesAhead htop incoming
    rw [release, hahead, ok_bind]
    cases ahead with
    | false => exact ⟨_, rfl⟩
    | true => exact hbelow (top :: placed)

theorem closeGroup_eq_error_iff {waiting placed : List Token} {fault : Fault} :
    closeGroup waiting placed = .error fault ↔
      Token.lparen ∉ waiting ∧ fault = .unbalancedParentheses := by
  induction waiting generalizing placed with
  | nil => simp [closeGroup, eq_comm]
  | cons top below ih =>
    cases top <;> simp [closeGroup, ih]

theorem flush_eq_error_iff {waiting placed : List Token} {fault : Fault} :
    flush waiting placed = .error fault ↔
      (∃ t ∈ waiting, t.isParenthesis = true) ∧ fault = .unbalancedParentheses := by
  induction waiting generalizing placed with
  | nil => simp [flush]
  | cons top below ih =>
    have hsymm : Fault.unbalancedParentheses = fault ↔ fault = .unbalancedParentheses := eq_comm
    cases top <;> simp [flush, ih, Token.isParenthesis, hsymm]

theorem placeFunction_eq (waiting placed : List Token) :
    ∃ gone kept, waiting = gone ++ kept ∧ (∀ t ∈ gone, t ≠ .lparen) ∧
      placeFunction waiting placed = ⟨kept, gone.reverse ++ placed⟩ := by
  cases waiting with
  | nil => exact ⟨[], [], rfl, nofun, rfl⟩
  | cons top below =>
    cases top with
    | function name =>
      exact ⟨[.function name], below, rfl, by simp, rfl⟩
    | _ => exact ⟨[], _, rfl, nofun, rfl⟩

end Failures

theorem counts_lparen (tokens : List Token) :
    (tokens ++ [Token.lparen]).count .lparen = tokens.count .lparen + 1 ∧
      (tokens ++ [Token.lparen]).count .rparen = tokens.count .rparen :=
  ⟨List.count_append, List.count_append⟩

theorem counts_rparen (tokens : List Token) :
    (tokens ++ [Token.rparen]).count .lparen = tokens.count .lparen ∧
      (tokens ++ [Token.rparen]).count .rparen = tokens.count .rparen + 1 :=
  ⟨List.count_append, List.count_append⟩

/-- The token can be a part of a postfix order that is then evaluated. -/
structure Placeable (registry : Registry) (token : Token) : Prop where
  isParenthesis_eq : token.isParenthesis = false
  known : ∀ symbol, token = .operator symbol → ∃ op, registry.find? symbol = some op

/-- The parentheses that wait in the yard are those that the tokens have left open, and
all else in it can be placed. -/
structure Tracks (registry : Registry) (tokens : List Token) (yard : Yard) : Prop where
  count_lparen : yard.waiting.count .lparen + tokens.count .rparen = tokens.count .lparen
  waiting : ∀ t ∈ yard.waiting, t = .lparen ∨ Placeable registry t
  placed : ∀ t ∈ yard.placed, Placeable registry t

namespace Tracks
variable {registry : Registry} {tokens gone kept waiting placed : List Token} {yard : Yard}

theorem start : Tracks registry [] ⟨[], []⟩ := ⟨rfl, nofun, nofun⟩

theorem move (h : Tracks registry tokens ⟨gone ++ kept, placed⟩)
    (hgone : ∀ t ∈ gone, t ≠ .lparen) : Tracks registry tokens ⟨kept, gone.reverse ++ placed⟩ := by
  have hlparen : Token.lparen ∉ gone := fun hm => hgone _ hm rfl
  have hcount := h.count_lparen
  rw [List.count_append, List.count_eq_zero.mpr hlparen, Nat.zero_add] at hcount
  refine ⟨hcount, fun t ht => h.waiting t (List.mem_append_right gone ht), ?_⟩
  intro t ht
  rcases List.mem_append.mp ht with ht | ht
  · have hmem := List.mem_reverse.mp ht
    exact (h.waiting t (List.mem_append_left kept hmem)).resolve_left (hgone t hmem)
  · exact h.placed t ht

theorem push (h : Tracks registry tokens ⟨waiting, placed⟩) {token : Token}
    (htoken : Placeable registry token) :
    Tracks registry (tokens ++ [token]) ⟨token :: waiting, placed⟩ := by
  refine ⟨?_, List.forall_mem_cons.mpr ⟨.inr htoken, h.waiting⟩, h.placed⟩
  have hlparen : token ≠ .lparen := by
    rintro rfl
    cases htoken.isParenthesis_eq
  have hrparen : token ≠ .rparen := by
    rintro rfl
    cases htoken.isParenthesis_eq
  have hcount := h.count_lparen
  simpa [List.count_cons_of_ne hlparen, List.count_append, List.count_singleton, hlparen,
    hrparen] using hcount

theorem lparen (h : Tracks registry tokens ⟨waiting, placed⟩) :
    Tracks registry (tokens ++ [Token.lparen]) ⟨.lparen :: waiting, placed⟩ := by
  refine ⟨?_, List.forall_mem_cons.mpr ⟨.inl rfl, h.waiting⟩, h.placed⟩
  have hcount : waiting.count .lparen + tokens.count .rparen = tokens.count .lparen :=
    h.count_lparen
  rw [(counts_lparen tokens).1, (counts_lparen tokens).2, List.count_cons_self]
  omega

theorem rparen (h : Tracks registry tokens ⟨.lparen :: waiting, placed⟩) :
    Tracks registry (tokens ++ [Token.rparen]) ⟨waiting, placed⟩ := by
  refine ⟨?_, (List.forall_mem_cons.mp h.waiting).2, h.placed⟩
  have hcount : (Token.lparen :: waiting).count .lparen + tokens.count .rparen =
      tokens.count .lparen := h.count_lparen
  rw [List.count_cons_self] at hcount
  rw [(counts_rparen tokens).1, (counts_rparen tokens).2]
  change waiting.count .lparen + (tokens.count .rparen + 1) = _
  omega

theorem step {next : Yard} {token : Token} (h : Tracks registry tokens yard)
    (hmoves : Moves registry yard token next) : Tracks registry (tokens ++ [token]) next := by
  cases hmoves with
  | number value waiting placed =>
    have hvalue : Placeable registry (.number value) := ⟨rfl, by simp⟩
    have hpush := h.push hvalue
    exact @move registry _ [.number value] waiting placed hpush (by simp)
  | function name => exact h.push ⟨rfl, by simp⟩
  | lparen => exact h.lparen
  | @operator symbol incoming gone kept hincoming hgone _ placed =>
    have hahead : ∀ t ∈ gone, t ≠ .lparen := by
      rintro t ht rfl
      cases hgone _ ht
    refine (h.move hahead).push ⟨rfl, ?_⟩
    intro other heq
    cases heq
    exact ⟨incoming, hincoming⟩
  | @rparen gone hgone below placed =>
    have hinside : ∀ t ∈ gone, t ≠ .lparen := by
      rintro t ht rfl
      exact hgone ht
    have hclosed := (h.move hinside).rparen
    obtain ⟨called, kept, rfl, hcalled, heq⟩ := placeFunction_eq below (gone.reverse ++ placed)
    rw [heq]
    exact hclosed.move hcalled

theorem lparen_mem_iff (h : Tracks registry tokens yard) :
    .lparen ∈ yard.waiting ↔ tokens.count .rparen < tokens.count .lparen := by
  have hcount := h.count_lparen
  rw [← List.count_pos_iff]
  omega

/-- A step fails only for a token that is misplaced, and always for one that is. -/
theorem step_eq_error_iff (h : Tracks registry tokens yard) {token : Token} {fault : Fault} :
    yard.step registry token = .error fault ↔ Misplaced registry tokens token fault := by
  constructor
  · intro hstep
    cases token with
    | number value => cases hstep
    | function name => cases hstep
    | lparen => cases hstep
    | operator symbol =>
      cases hfind : registry.find? symbol with
      | none =>
        rw [Yard.step, Registry.operator_eq_error_iff.mpr ⟨hfind, rfl⟩] at hstep
        cases hstep
        exact .operator hfind
      | some incoming =>
        have hknown : ∀ other, Token.operator other ∈ yard.waiting →
            ∃ op, registry.find? other = some op := by
          intro other hother
          rcases h.waiting _ hother with heq | hplaceable
          · cases heq
          · exact hplaceable.known other rfl
        obtain ⟨released, hreleased⟩ := exists_release hknown incoming yard.placed
        rw [Yard.step, Registry.operator_eq_ok_iff.mpr hfind, ok_bind, hreleased, ok_bind] at hstep
        cases hstep
    | rparen =>
      obtain ⟨hnone, rfl⟩ := closeGroup_eq_error_iff.mp hstep
      rw [h.lparen_mem_iff] at hnone
      exact .rparen (Nat.le_of_not_lt hnone)
  · intro hmisplaced
    cases hmisplaced with
    | operator hfind =>
      rw [Yard.step, Registry.operator_eq_error_iff.mpr ⟨hfind, rfl⟩, error_bind]
    | rparen hle =>
      refine closeGroup_eq_error_iff.mpr ⟨?_, rfl⟩
      rw [h.lparen_mem_iff]
      exact Nat.not_lt_of_le hle

end Tracks

section Arranging
variable {registry : Registry}

theorem run_empty_eq_ok {tokens : List Token} {yard : Yard}
    (h : Yard.run registry ⟨[], []⟩ tokens = .ok yard) : Tracks registry tokens yard :=
  Yard.run_induction Tracks.step Tracks.start h

theorem run_eq_error_iff {tokens : List Token} {fault : Fault} :
    Yard.run registry ⟨[], []⟩ tokens = .error fault ↔
      ∃ before token after yard, tokens = before ++ token :: after ∧
        Yard.run registry ⟨[], []⟩ before = .ok yard ∧
        Misplaced registry before token fault := by
  rw [Yard.run, foldlM_eq_error_iff]
  constructor
  · rintro ⟨before, token, after, yard, htokens, hbefore, hstep⟩
    have htracks := run_empty_eq_ok hbefore
    exact ⟨before, token, after, yard, htokens, hbefore, htracks.step_eq_error_iff.mp hstep⟩
  · rintro ⟨before, token, after, yard, htokens, hbefore, hmisplaced⟩
    have htracks := run_empty_eq_ok hbefore
    exact ⟨before, token, after, yard, htokens, hbefore, htracks.step_eq_error_iff.mpr hmisplaced⟩

/-- The yard takes in all tokens exactly if none is misplaced. -/
theorem exists_run_iff {tokens : List Token} :
    (∃ yard, Yard.run registry ⟨[], []⟩ tokens = .ok yard) ↔ WellPlaced registry tokens := by
  constructor
  · rintro ⟨yard, hrun⟩ before token after fault rfl hmisplaced
    rw [Yard.run_append] at hrun
    obtain ⟨middle, hbefore, hrest⟩ := bind_eq_ok_iff.mp hrun
    rw [Yard.run_cons, (run_empty_eq_ok hbefore).step_eq_error_iff.mpr hmisplaced] at hrest
    cases hrest
  · intro hplaced
    cases hrun : Yard.run registry ⟨[], []⟩ tokens with
    | ok yard => exact ⟨yard, rfl⟩
    | error fault =>
      obtain ⟨before, token, after, _, htokens, _, hmisplaced⟩ := run_eq_error_iff.mp hrun
      exact absurd hmisplaced (hplaced before token after fault htokens)

theorem WellPlaced.count_le {tokens : List Token} (h : WellPlaced registry tokens) :
    tokens.count .rparen ≤ tokens.count .lparen := by
  obtain ⟨yard, hrun⟩ := exists_run_iff.mpr h
  have hcount := (run_empty_eq_ok hrun).count_lparen
  omega

theorem WellPlaced.of_append {before after : List Token}
    (h : WellPlaced registry (before ++ after)) : WellPlaced registry before := by
  rintro first token rest fault rfl
  exact h first token (rest ++ after) fault (by simp)

theorem wellPlaced_and_count_iff {tokens : List Token} :
    WellPlaced registry tokens ∧ tokens.count .rparen = tokens.count .lparen ↔
      (∀ symbol, .operator symbol ∈ tokens → ∃ op, registry.find? symbol = some op) ∧
        Balanced .lparen .rparen tokens := by
  constructor
  · rintro ⟨hplaced, hcount⟩
    refine ⟨?_, ?_, hcount⟩
    · intro symbol hsymbol
      obtain ⟨before, after, htokens⟩ := List.append_of_mem hsymbol
      cases hfind : registry.find? symbol with
      | some op => exact ⟨op, rfl⟩
      | none => exact absurd (.operator hfind) (hplaced before _ after _ htokens)
    · rintro before ⟨after, rfl⟩
      exact hplaced.of_append.count_le
  · rintro ⟨hknown, hbalanced⟩
    refine ⟨?_, hbalanced.count_eq⟩
    rintro before token after fault rfl hmisplaced
    have hsymbol : ∀ symbol, token = .operator symbol →
        ∃ op, registry.find? symbol = some op := by
      rintro symbol rfl
      exact hknown symbol (by simp)
    obtain ⟨rfl, rfl, hle⟩ := hmisplaced.of_known hsymbol
    have hprefix : before ++ [Token.rparen] <+: before ++ .rparen :: after := ⟨after, by simp⟩
    have hcount := hbalanced.count_le _ hprefix
    rw [(counts_rparen before).1, (counts_rparen before).2] at hcount
    omega

theorem Tracks.exists_isParenthesis_iff {tokens : List Token} {yard : Yard}
    (h : Tracks registry tokens yard) :
    (∃ t ∈ yard.waiting, t.isParenthesis = true) ↔
      tokens.count .rparen < tokens.count .lparen := by
  rw [← h.lparen_mem_iff]
  constructor
  · rintro ⟨t, ht, hparenthesis⟩
    rcases h.waiting t ht with rfl | hplaceable
    · exact ht
    · rw [hplaceable.isParenthesis_eq] at hparenthesis
      cases hparenthesis
  · intro hlparen
    exact ⟨.lparen, hlparen, rfl⟩

theorem ofTokens_eq_error_iff {tokens : List Token} {fault : Fault} :
    ofTokens registry tokens = .error fault ↔ SyntaxFault registry tokens fault := by
  rw [ofTokens, bind_eq_error_iff]
  constructor
  · rintro (hrun | ⟨yard, hrun, hflush⟩)
    · obtain ⟨before, token, after, yard, rfl, hbefore, hmisplaced⟩ := run_eq_error_iff.mp hrun
      exact .misplaced (exists_run_iff.mp ⟨yard, hbefore⟩) hmisplaced after
    · obtain ⟨hwaiting, rfl⟩ := flush_eq_error_iff.mp hflush
      have hopen := (run_empty_eq_ok hrun).exists_isParenthesis_iff.mp hwaiting
      exact .leftOpen (exists_run_iff.mp ⟨yard, hrun⟩) hopen
  · intro h
    cases h with
    | @misplaced before token _ hbefore hmisplaced after =>
      obtain ⟨yard, hyard⟩ := exists_run_iff.mpr hbefore
      exact .inl (run_eq_error_iff.mpr ⟨before, token, after, yard, rfl, hyard, hmisplaced⟩)
    | leftOpen hplaced hopen =>
      obtain ⟨yard, hyard⟩ := exists_run_iff.mpr hplaced
      have hwaiting := (run_empty_eq_ok hyard).exists_isParenthesis_iff.mpr hopen
      exact .inr ⟨yard, hyard, flush_eq_error_iff.mpr ⟨hwaiting, rfl⟩⟩

theorem exists_ofTokens_iff {tokens : List Token} :
    (∃ arranged, ofTokens registry tokens = .ok arranged) ↔
      (∀ symbol, .operator symbol ∈ tokens → ∃ op, registry.find? symbol = some op) ∧
        Balanced .lparen .rparen tokens := by
  rw [← wellPlaced_and_count_iff]
  constructor
  · rintro ⟨arranged, h⟩
    obtain ⟨yard, hrun, hflush⟩ := bind_eq_ok_iff.mp h
    have hplaced := exists_run_iff.mp ⟨yard, hrun⟩
    have hclosed : ¬ tokens.count .rparen < tokens.count .lparen := by
      rw [← (run_empty_eq_ok hrun).exists_isParenthesis_iff]
      rintro ⟨t, ht, hparenthesis⟩
      rw [(flush_eq_ok_iff.mp hflush).1 t ht] at hparenthesis
      cases hparenthesis
    exact ⟨hplaced, Nat.le_antisymm hplaced.count_le (Nat.le_of_not_lt hclosed)⟩
  · rintro ⟨hplaced, hcount⟩
    cases h : ofTokens registry tokens with
    | ok arranged => exact ⟨arranged, rfl⟩
    | error fault =>
      cases ofTokens_eq_error_iff.mp h with
      | misplaced _ hmisplaced after => exact absurd hmisplaced (hplaced _ _ after _ rfl)
      | leftOpen _ hopen => omega

theorem placeable_of_ofTokens {tokens arranged : List Token}
    (h : ofTokens registry tokens = .ok arranged) : ∀ t ∈ arranged, Placeable registry t := by
  obtain ⟨yard, hrun, hflush⟩ := bind_eq_ok_iff.mp h
  have htracks := run_empty_eq_ok hrun
  obtain ⟨hwaiting, rfl⟩ := flush_eq_ok_iff.mp hflush
  intro t ht
  rcases List.mem_append.mp ht with ht | ht
  · exact htracks.placed t (List.mem_reverse.mp ht)
  · refine (htracks.waiting t ht).resolve_left ?_
    rintro rfl
    cases hwaiting _ ht

end Arranging

end Postfix

end Reckoner
