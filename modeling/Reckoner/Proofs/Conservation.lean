import Mathlib.Data.List.Basic
import Reckoner.Proofs.Balance

/-! # What an arrangement keeps

Putting tokens into postfix order loses none of them but the parentheses and makes none.
Only functions, operators and parentheses ever wait, and they change their places; the
numbers pass them and keep their order among themselves. This holds of all tokens that
can be arranged at all, whether or not they write an expression. -/

namespace Reckoner.Postfix
open Outcome

def unparenthesized (tokens : List Token) : List Token := tokens.filter (!·.isParenthesis)

theorem unparenthesized_snoc {tokens held : List Token}
    (h : (unparenthesized held).Perm (unparenthesized tokens)) (token : Token) :
    (unparenthesized (token :: held)).Perm (unparenthesized (tokens ++ [token])) := by
  have hcons : (unparenthesized (token :: held)).Perm (unparenthesized (token :: tokens)) := by
    rw [unparenthesized, unparenthesized, List.filter_cons, List.filter_cons]
    split
    · exact h.cons token
    · exact h
  exact hcons.trans ((List.perm_append_singleton token tokens).symm.filter _)

/-- The yard has in it all the tokens but the parentheses, and the numbers among them are
in place, in their order. -/
structure Keeps (tokens : List Token) (yard : Yard) : Prop where
  perm : (unparenthesized (yard.waiting ++ yard.placed)).Perm (unparenthesized tokens)
  waiting : ∀ t ∈ yard.waiting, t.value? = none
  numbers : yard.placed.reverse.filterMap Token.value? = tokens.filterMap Token.value?

namespace Keeps
variable {registry : Registry} {tokens gone kept waiting placed : List Token} {yard : Yard}

theorem start : Keeps [] ⟨[], []⟩ := ⟨.refl _, nofun, rfl⟩

theorem move (h : Keeps tokens ⟨gone ++ kept, placed⟩) :
    Keeps tokens ⟨kept, gone.reverse ++ placed⟩ := by
  have hgone : gone.filterMap Token.value? = [] :=
    List.filterMap_eq_nil_iff.mpr fun t ht => h.waiting t (List.mem_append_left kept ht)
  refine ⟨?_, fun t ht => h.waiting t (List.mem_append_right gone ht), ?_⟩
  · have hperm : (kept ++ (gone.reverse ++ placed)).Perm (gone ++ kept ++ placed) :=
      calc
        (kept ++ (gone.reverse ++ placed)).Perm (gone.reverse ++ (kept ++ placed)) :=
          List.perm_append_comm_assoc kept gone.reverse placed
        List.Perm _ (gone ++ (kept ++ placed)) := gone.reverse_perm.append_right _
        _ = gone ++ kept ++ placed := (List.append_assoc gone kept placed).symm
    exact (hperm.filter _).trans h.perm
  · rw [← h.numbers]
    simp [List.filterMap_append, hgone]

theorem push (h : Keeps tokens ⟨waiting, placed⟩) {token : Token} (htoken : token.value? = none) :
    Keeps (tokens ++ [token]) ⟨token :: waiting, placed⟩ := by
  refine ⟨unparenthesized_snoc h.perm token, List.forall_mem_cons.mpr ⟨htoken, h.waiting⟩, ?_⟩
  rw [h.numbers, List.filterMap_append]
  simp [htoken]

theorem number (h : Keeps tokens ⟨waiting, placed⟩) (value : Rat) :
    Keeps (tokens ++ [Token.number value]) ⟨waiting, .number value :: placed⟩ := by
  refine ⟨?_, h.waiting, ?_⟩
  · exact (List.perm_middle.filter _).trans (unparenthesized_snoc h.perm (.number value))
  · rw [List.reverse_cons, List.filterMap_append, h.numbers, List.filterMap_append]

theorem rparen (h : Keeps tokens ⟨.lparen :: waiting, placed⟩) :
    Keeps (tokens ++ [Token.rparen]) ⟨waiting, placed⟩ := by
  refine ⟨unparenthesized_snoc h.perm .rparen, (List.forall_mem_cons.mp h.waiting).2, ?_⟩
  rw [h.numbers, List.filterMap_append]
  simp [Token.value?]

theorem step {next : Yard} {token : Token} (h : Keeps tokens yard)
    (hmoves : Moves registry yard token next) : Keeps (tokens ++ [token]) next := by
  cases hmoves with
  | number value => exact h.number value
  | function name => exact h.push rfl
  | lparen => exact h.push rfl
  | operator => exact h.move.push rfl
  | @rparen gone _ below placed =>
    have hclosed := h.move.rparen
    obtain ⟨called, kept, rfl, -, heq⟩ := placeFunction_eq below (gone.reverse ++ placed)
    rw [heq]
    exact hclosed.move

theorem flush (h : Keeps tokens yard) {out : List Token}
    (hout : out = yard.placed.reverse ++ yard.waiting) :
    (unparenthesized out).Perm (unparenthesized tokens) ∧
      out.filterMap Token.value? = tokens.filterMap Token.value? := by
  subst hout
  constructor
  · have hperm : (yard.placed.reverse ++ yard.waiting).Perm (yard.waiting ++ yard.placed) :=
      List.perm_append_comm.trans (yard.placed.reverse_perm.append_left yard.waiting)
    exact (hperm.filter _).trans h.perm
  · rw [List.filterMap_append, h.numbers, List.filterMap_eq_nil_iff.mpr h.waiting,
      List.append_nil]

end Keeps

/-- A postfix order has in it the tokens that it was made of without their parentheses,
each as many times, and the numbers in the order in which they came. -/
theorem ofTokens_keeps {registry : Registry} {tokens out : List Token}
    (h : ofTokens registry tokens = .ok out) :
    (∀ t ∈ out, t.isParenthesis = false) ∧
      out.Perm (unparenthesized tokens) ∧
      out.filterMap Token.value? = tokens.filterMap Token.value? := by
  have hclosed : ∀ t ∈ out, t.isParenthesis = false :=
    fun t ht => (placeable_of_ofTokens h t ht).isParenthesis_eq
  obtain ⟨yard, hrun, hflush⟩ := bind_eq_ok_iff.mp h
  have hkeeps : Keeps tokens yard := Yard.run_induction Keeps.step Keeps.start hrun
  obtain ⟨hperm, hnumbers⟩ := hkeeps.flush (flush_eq_ok_iff.mp hflush).2
  have hall : unparenthesized out = out :=
    List.filter_eq_self.mpr fun t ht => by simp [hclosed t ht]
  rw [hall] at hperm
  exact ⟨hclosed, hperm, hnumbers⟩

/-- A function without an argument and operators that lack operands are kept too. -/
theorem ofTokens_keeps_in_disorder :
    ofTokens .standard [.operator '^', .number 2, .lparen, .function ['f'], .rparen, .number 2,
        .operator '+', .function ['g'], .number 1] =
        .ok [.number 2, .function ['f'], .number 2, .operator '^', .number 1, .function ['g'],
          .operator '+'] ∧
      [Token.number 2, .function ['f'], .number 2, .operator '^', .number 1, .function ['g'],
        .operator '+'].Perm [.operator '^', .number 2, .function ['f'], .number 2, .operator '+',
          .function ['g'], .number 1] ∧
      [Token.number 2, .function ['f'], .number 2, .operator '^', .number 1, .function ['g'],
        .operator '+'].filterMap Token.value? = [2, 2, 1] := by
  have h : ofTokens .standard [.operator '^', .number 2, .lparen, .function ['f'], .rparen,
      .number 2, .operator '+', .function ['g'], .number 1] =
      .ok [.number 2, .function ['f'], .number 2, .operator '^', .number 1, .function ['g'],
        .operator '+'] := by
    rfl
  exact ⟨h, (ofTokens_keeps h).2⟩

end Reckoner.Postfix
