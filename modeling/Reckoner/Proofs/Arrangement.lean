import Reckoner.Expr
import Reckoner.Proofs.Yard

/-! # Written expressions and their postfix order

`Writes registry root e tokens` says that the tokens write the expression `e` in
the usual way: an operand stands in parentheses unless the priorities of its own
operator and of the one beside it already tell how to read it. Only the two
operators of an operand and its parent are compared, although the arrangement
compares an operator with all that wait. `Yields` is transitive and the missing
comparisons follow. -/

namespace Reckoner.Postfix
open Outcome

theorem Yields.trans {a b c : Operator} (hab : Yields a b) (hbc : Yields b c) : Yields a c := by
  unfold Yields at *
  cases ha : a.side <;> cases hb : b.side <;> simp only [ha, hb] at * <;> omega

theorem Yields.of_not {a b c : Operator} (hab : Yields a b) (hcb : ¬ Yields c b) :
    Yields a c := by
  unfold Yields at *
  cases ha : a.side <;> cases hc : c.side <;> simp only [ha, hc] at * <;> omega

/-- The tokens write the expression. `root` is its operator if the expression is an
operation that no parentheses enclose. -/
inductive Writes (registry : Registry) : Option Operator → Expr → List Token → Prop where
  | number (value : Rat) : Writes registry none (.number value) [.number value]
  | group {root : Option Operator} {e : Expr} {tokens : List Token}
      (h : Writes registry root e tokens) :
      Writes registry none e (Token.lparen :: tokens ++ [Token.rparen])
  | call (name : List Char) {argument : Expr} {tokens : List Token}
      (h : Writes registry none argument tokens) :
      Writes registry none (.call name argument) (.function name :: tokens)
  | combine {symbol : Char} {op : Operator} {left right : Expr}
      {leftRoot rightRoot : Option Operator} {before after : List Token}
      (hop : registry.find? symbol = some op)
      (hleft : Writes registry leftRoot left before)
      (hright : Writes registry rightRoot right after)
      (hbefore : ∀ inner ∈ leftRoot, Yields op inner)
      (hafter : ∀ inner ∈ rightRoot, ¬ Yields inner op) :
      Writes registry (some op) (.combine symbol left right)
        (before ++ Token.operator symbol :: after)

section Waiting
variable {registry : Registry}

/-- What an expression with this root finds on the stack: nothing on top that its
own operator would send ahead, and no function that is not its own. -/
structure Ground (registry : Registry) (root : Option Operator) (waiting : List Token) :
    Prop where
  settled : ∀ op ∈ root, Settled registry op waiting
  noFunction : ∀ name, waiting.head? ≠ some (.function name)

/-- What an expression with this root leaves on the stack: tokens that any operator
that may follow it sends ahead. -/
structure Pending (registry : Registry) (root : Option Operator) (tokens : List Token) :
    Prop where
  noParenthesis : ∀ t ∈ tokens, t.isParenthesis = false
  ahead : ∀ incoming, (∀ op ∈ root, Yields incoming op) → AllAhead registry incoming tokens

theorem Ground.fence (root : Option Operator) (waiting : List Token) :
    Ground registry root (.lparen :: waiting) where
  settled := by
    intro op _ top htop
    cases htop
    rfl
  noFunction := by simp

theorem Ground.empty (root : Option Operator) : Ground registry root [] where
  settled := fun _ _ => nofun
  noFunction := by simp

theorem Settled.of_yields {outer inner : Operator} {waiting : List Token}
    (h : Settled registry outer waiting) (hyields : Yields outer inner) :
    Settled registry inner waiting := by
  intro top htop
  have houter := h top htop
  cases top with
  | number value => rfl
  | lparen => rfl
  | rparen => rfl
  | function name => simp at houter
  | operator symbol =>
    cases hfind : registry.find? symbol with
    | none =>
      have hnone := Registry.operator_eq_error_iff.mpr ⟨hfind, rfl⟩
      rw [goesAhead, hnone] at houter
      cases houter
    | some waitingOp =>
      rw [goesAhead_operator hfind] at houter ⊢
      have hnot : ¬ Yields outer waitingOp := by simpa using houter
      have hinner : ¬ Yields inner waitingOp := fun hw => hnot (hyields.trans hw)
      simp [hinner]

theorem Ground.left {op : Operator} {leftRoot : Option Operator} {waiting : List Token}
    (h : Ground registry (some op) waiting) (hbefore : ∀ inner ∈ leftRoot, Yields op inner) :
    Ground registry leftRoot waiting where
  settled := fun inner hinner => (h.settled op rfl).of_yields (hbefore inner hinner)
  noFunction := h.noFunction

theorem Ground.right {symbol : Char} {op : Operator} (hop : registry.find? symbol = some op)
    {rightRoot : Option Operator} (hafter : ∀ inner ∈ rightRoot, ¬ Yields inner op)
    (waiting : List Token) : Ground registry rightRoot (.operator symbol :: waiting) where
  settled := by
    intro inner hinner top htop
    cases htop
    rw [goesAhead_operator hop]
    simp [hafter inner hinner]
  noFunction := by simp

theorem Pending.functions (root : Option Operator) (names : List (List Char)) :
    Pending registry root (names.map .function) where
  noParenthesis := by
    intro t ht
    obtain ⟨name, _, rfl⟩ := List.mem_map.mp ht
    rfl
  ahead := by
    intro incoming _ t ht
    obtain ⟨name, _, rfl⟩ := List.mem_map.mp ht
    rfl

theorem Pending.combine {symbol : Char} {op : Operator} (hop : registry.find? symbol = some op)
    {rightRoot : Option Operator} {tokens : List Token} (h : Pending registry rightRoot tokens)
    (hafter : ∀ inner ∈ rightRoot, ¬ Yields inner op) :
    Pending registry (some op) (tokens ++ [Token.operator symbol]) where
  noParenthesis := by
    intro t ht
    rcases List.mem_append.mp ht with ht | ht
    · exact h.noParenthesis t ht
    · rw [List.mem_singleton.mp ht]
      rfl
  ahead := by
    intro incoming hincoming t ht
    have hyields : Yields incoming op := hincoming op rfl
    rcases List.mem_append.mp ht with ht | ht
    · exact h.ahead incoming (fun inner hinner => hyields.of_not (hafter inner hinner)) t ht
    · rw [List.mem_singleton.mp ht, goesAhead_operator hop]
      simp [hyields]

end Waiting

/-- A yard after an operand. The functions on top of the stack wait for this
operand and become a part of what is pending, unless its last parenthesis has
already placed them. -/
theorem Writes.run {registry : Registry} {root : Option Operator} {e : Expr}
    {tokens : List Token} (h : Writes registry root e tokens) (names : List (List Char))
    (hnames : root.isSome → names = []) {waiting : List Token}
    (hground : Ground registry root waiting) (placed : List Token) :
    ∃ pending out,
      Yard.run registry ⟨names.map .function ++ waiting, placed⟩ tokens =
        .ok ⟨pending ++ waiting, out ++ placed⟩ ∧
      out.reverse ++ pending = e.postorder ++ names.map .function ∧
      Pending registry root pending := by
  induction h generalizing names waiting placed with
  | number value =>
    exact ⟨names.map .function, [.number value], rfl, rfl, .functions none names⟩
  | @group root e tokens _ ih =>
    obtain ⟨pending, out, hrun, hout, hpending⟩ :=
      ih [] (fun _ => rfl) (.fence root (names.map .function ++ waiting)) placed
    have hopen : Token.lparen ∉ pending :=
      fun hm => Bool.noConfusion (hpending.noParenthesis _ hm)
    rw [List.map_nil, List.append_nil] at hout
    rw [Yard.run_group hrun hopen, hout]
    -- The closing parenthesis also places the innermost function that waits, if any.
    cases names with
    | nil =>
      refine ⟨[], e.postorder.reverse, ?_, by simp, .functions none []⟩
      cases waiting with
      | nil => rfl
      | cons top below =>
        cases top with
        | function name => exact absurd rfl (hground.noFunction name)
        | _ => rfl
    | cons name names =>
      exact ⟨names.map .function, .function name :: e.postorder.reverse, rfl, by simp,
        .functions none names⟩
  | @call name argument tokens _ ih =>
    obtain ⟨pending, out, hrun, hout, hpending⟩ :=
      ih (name :: names) (by simp) hground placed
    refine ⟨pending, out, ?_, ?_, hpending⟩
    · rw [Yard.run_cons]
      exact hrun
    · simpa [Expr.postorder] using hout
  | @combine symbol op left right leftRoot rightRoot before after hop _ _ hbefore hafter ihl ihr =>
    -- An operation is no argument without parentheses, so no function waits for it.
    have hnil : names = [] := hnames rfl
    subst hnil
    obtain ⟨leftPending, leftOut, hleft, hleftOut, hleftPending⟩ :=
      ihl [] (fun _ => rfl) (hground.left hbefore) placed
    have hstep := Yard.step_operator hop (hleftPending.ahead op hbefore) (hground.settled op rfl)
      (leftOut ++ placed)
    obtain ⟨rightPending, rightOut, hright, hrightOut, hrightPending⟩ :=
      ihr [] (fun _ => rfl) (.right hop hafter waiting)
        (leftPending.reverse ++ (leftOut ++ placed))
    refine ⟨rightPending ++ [Token.operator symbol], rightOut ++ leftPending.reverse ++ leftOut,
      ?_, ?_, hrightPending.combine hop hafter⟩
    · rw [Yard.run_append, hleft, ok_bind, Yard.run_cons, hstep, ok_bind]
      simpa [List.append_assoc] using hright
    · simp only [List.map_nil, List.append_nil] at hleftOut hrightOut
      simp [Expr.postorder, ← hleftOut, ← hrightOut, List.append_assoc]

theorem Writes.run_empty {registry : Registry} {root : Option Operator} {e : Expr}
    {tokens : List Token} (h : Writes registry root e tokens) :
    ∃ pending out, Yard.run registry ⟨[], []⟩ tokens = .ok ⟨pending, out⟩ ∧
      out.reverse ++ pending = e.postorder ∧ ∀ t ∈ pending, t.isParenthesis = false := by
  obtain ⟨pending, out, hrun, hout, hpending⟩ :=
    h.run [] (fun _ => rfl) (.empty root) []
  simp only [List.map_nil, List.append_nil] at hrun hout
  exact ⟨pending, out, hrun, hout, hpending.noParenthesis⟩

/-- Every writing of an expression is put into the postfix order of the expression,
whatever the priorities and sides of the operators. -/
theorem ofTokens_of_writes {registry : Registry} {root : Option Operator} {e : Expr}
    {tokens : List Token} (h : Writes registry root e tokens) :
    ofTokens registry tokens = .ok e.postorder := by
  obtain ⟨pending, out, hrun, hout, hclosed⟩ := h.run_empty
  rw [ofTokens, hrun, ok_bind]
  exact flush_eq_ok_iff.mpr ⟨hclosed, hout.symm⟩

/-- Among operators of equal priority that group on different sides, the one that
comes in decides. -/
theorem ofTokens_mixed_sides :
    Writes (.ofList [.add, { Operator.raise with priority := 1 }]) (some .add)
        (.combine '+' (.combine '+' (.number 1)
          (.combine '^' (.number 2) (.call ['f'] (.call ['g'] (.number 3))))) (.number 4))
        [.number 1, .operator '+', .lparen, .lparen, .number 2, .rparen, .rparen, .operator '^',
          .function ['f'], .function ['g'], .number 3, .operator '+', .number 4] ∧
      ofTokens (.ofList [.add, { Operator.raise with priority := 1 }])
        [.number 1, .operator '+', .lparen, .lparen, .number 2, .rparen, .rparen, .operator '^',
          .function ['f'], .function ['g'], .number 3, .operator '+', .number 4] =
        .ok [.number 1, .number 2, .number 3, .function ['g'], .function ['f'], .operator '^',
          .operator '+', .number 4, .operator '+'] := by
  have hadd : (Registry.ofList [.add, { Operator.raise with priority := 1 }]).find? '+' =
      some .add := rfl
  have hraise : (Registry.ofList [.add, { Operator.raise with priority := 1 }]).find? '^' =
      some { Operator.raise with priority := 1 } := rfl
  have hyields : ∀ op ∈ some Operator.add, Yields .add op := by
    intro op hop
    cases hop
    decide
  have hstays : ∀ op ∈ some { Operator.raise with priority := 1 }, ¬ Yields op .add := by
    intro op hop
    cases hop
    decide
  have hpower := Writes.combine hraise (.group (.group (.number 2)))
    (.call ['f'] (.call ['g'] (.number 3))) nofun nofun
  have hsum := Writes.combine hadd (.number 1) hpower nofun hstays
  have hwhole := Writes.combine hadd hsum (.number 4) hyields nofun
  exact ⟨hwhole, ofTokens_of_writes hwhole⟩

end Reckoner.Postfix
