import Reckoner.Postfix
import Reckoner.Proofs.Outcome

/-! # The stack of waiting tokens

What each move does to the waiting tokens, said once for everything that follows.
An operator sends ahead a top segment of the stack, a closing parenthesis all that
lies above the last open one, the end of the tokens everything. The tokens already
in place are only added to, and what lies under an open parenthesis is not touched
from inside the group. -/

namespace Reckoner.Postfix
open Outcome

/-- Among operators: whether a waiting one goes ahead of one that comes in. -/
def Yields (incoming waiting : Operator) : Prop :=
  match incoming.side with
  | .left => incoming.priority ≤ waiting.priority
  | .right => incoming.priority < waiting.priority

instance decidableYields : (incoming waiting : Operator) → Decidable (Yields incoming waiting)
  | ⟨_, priority, .left, _⟩, waiting => Nat.decLe priority waiting.priority
  | ⟨_, priority, .right, _⟩, waiting => Nat.decLt priority waiting.priority

section Moves
variable {registry : Registry} {incoming : Operator}

@[simp] theorem goesAhead_function (name : List Char) :
    goesAhead registry incoming (.function name) = .ok true := rfl

theorem goesAhead_operator {symbol : Char} {top : Operator}
    (h : registry.find? symbol = some top) :
    goesAhead registry incoming (.operator symbol) = .ok (decide (Yields incoming top)) := by
  rw [goesAhead, Registry.operator_eq_ok_iff.mpr h, ok_bind]
  obtain ⟨_, _, side, _⟩ := incoming
  cases side <;> simp [Yields]

def Settled (registry : Registry) (incoming : Operator) (waiting : List Token) : Prop :=
  ∀ top ∈ waiting.head?, goesAhead registry incoming top = .ok false

def AllAhead (registry : Registry) (incoming : Operator) (waiting : List Token) : Prop :=
  ∀ t ∈ waiting, goesAhead registry incoming t = .ok true

theorem release_append {gone kept : List Token} (hgone : AllAhead registry incoming gone)
    (hkept : Settled registry incoming kept) (placed : List Token) :
    release registry incoming (gone ++ kept) placed = .ok ⟨kept, gone.reverse ++ placed⟩ := by
  induction gone generalizing placed with
  | nil =>
    cases kept with
    | nil => rfl
    | cons top below =>
      have htop : goesAhead registry incoming top = .ok false := hkept top rfl
      simp [release, htop]
  | cons top gone ih =>
    have htop := hgone top List.mem_cons_self
    have hrest := ih (fun t ht => hgone t (List.mem_cons_of_mem top ht)) (top :: placed)
    simp [release, htop, hrest]

/-- A release that succeeds takes a top segment and stops above the first token
that does not go ahead. -/
theorem release_eq_ok {waiting placed : List Token} {yard : Yard}
    (h : release registry incoming waiting placed = .ok yard) :
    ∃ gone kept, waiting = gone ++ kept ∧ AllAhead registry incoming gone ∧
      Settled registry incoming kept ∧ yard = ⟨kept, gone.reverse ++ placed⟩ := by
  induction waiting generalizing placed with
  | nil =>
    cases h
    exact ⟨[], [], rfl, nofun, nofun, rfl⟩
  | cons top below ih =>
    rw [release] at h
    obtain ⟨ahead, htop, h⟩ := bind_eq_ok_iff.mp h
    cases ahead with
    | false =>
      cases h
      exact ⟨[], top :: below, rfl, nofun, by simpa [Settled] using htop, rfl⟩
    | true =>
      obtain ⟨gone, kept, rfl, hgone, hkept, rfl⟩ := ih h
      refine ⟨top :: gone, kept, rfl, ?_, hkept, by simp⟩
      intro t ht
      rcases List.mem_cons.mp ht with rfl | ht
      · exact htop
      · exact hgone t ht

theorem closeGroup_append {gone : List Token} (hgone : Token.lparen ∉ gone)
    (below placed : List Token) :
    closeGroup (gone ++ Token.lparen :: below) placed =
      .ok (placeFunction below (gone.reverse ++ placed)) := by
  induction gone generalizing placed with
  | nil => rfl
  | cons top gone ih =>
    have htop : top ≠ .lparen := fun heq => hgone (heq ▸ List.mem_cons_self)
    have hrest : Token.lparen ∉ gone := fun hm => hgone (List.mem_cons_of_mem top hm)
    rw [List.cons_append, closeGroup, ih hrest, List.reverse_cons, List.append_assoc]
    · rfl
    · exact htop

theorem closeGroup_eq_ok {waiting placed : List Token} {yard : Yard}
    (h : closeGroup waiting placed = .ok yard) :
    ∃ gone below, waiting = gone ++ Token.lparen :: below ∧ Token.lparen ∉ gone ∧
      yard = placeFunction below (gone.reverse ++ placed) := by
  induction waiting generalizing placed with
  | nil => cases h
  | cons top waiting ih =>
    by_cases htop : top = .lparen
    · subst htop
      cases h
      exact ⟨[], waiting, rfl, by simp, rfl⟩
    · rw [closeGroup] at h
      · obtain ⟨gone, below, rfl, hgone, rfl⟩ := ih h
        refine ⟨top :: gone, below, rfl, ?_, by simp⟩
        intro hm
        exact (List.mem_cons.mp hm).elim (fun heq => htop heq.symm) hgone
      · exact htop

theorem flush_eq_ok_iff {waiting placed out : List Token} :
    flush waiting placed = .ok out ↔
      (∀ t ∈ waiting, t.isParenthesis = false) ∧ out = placed.reverse ++ waiting := by
  induction waiting generalizing placed with
  | nil =>
    constructor
    · intro h
      cases h
      exact ⟨nofun, by simp⟩
    · rintro ⟨_, rfl⟩
      simp [flush]
  | cons top below ih =>
    cases top <;> simp [flush, ih, Token.isParenthesis]

end Moves

section Frames
variable {registry : Registry}

@[simp] theorem Yard.run_nil (yard : Yard) : Yard.run registry yard [] = .ok yard := rfl

theorem Yard.run_cons (yard : Yard) (token : Token) (tokens : List Token) :
    Yard.run registry yard (token :: tokens) = (do
      let next ← yard.step registry token
      Yard.run registry next tokens) :=
  List.foldlM_cons

theorem Yard.step_operator {symbol : Char} {incoming : Operator}
    (h : registry.find? symbol = some incoming) {gone kept : List Token}
    (hgone : AllAhead registry incoming gone) (hkept : Settled registry incoming kept)
    (placed : List Token) :
    Yard.step registry ⟨gone ++ kept, placed⟩ (.operator symbol) =
      .ok ⟨.operator symbol :: kept, gone.reverse ++ placed⟩ := by
  rw [Yard.step, Registry.operator_eq_ok_iff.mpr h, ok_bind, release_append hgone hkept, ok_bind]
  rfl

theorem Yard.step_operator_eq_ok {symbol : Char} {yard next : Yard}
    (h : yard.step registry (.operator symbol) = .ok next) :
    ∃ incoming gone kept, registry.find? symbol = some incoming ∧
      yard.waiting = gone ++ kept ∧ AllAhead registry incoming gone ∧
      Settled registry incoming kept ∧
      next = ⟨.operator symbol :: kept, gone.reverse ++ yard.placed⟩ := by
  obtain ⟨incoming, hincoming, h⟩ := bind_eq_ok_iff.mp h
  obtain ⟨released, hreleased, h⟩ := bind_eq_ok_iff.mp h
  obtain ⟨gone, kept, hwaiting, hgone, hkept, rfl⟩ := release_eq_ok hreleased
  cases h
  exact ⟨incoming, gone, kept, Registry.operator_eq_ok_iff.mp hincoming, hwaiting, hgone,
    hkept, rfl⟩

/-- What a step that succeeds does to the yard. -/
inductive Moves (registry : Registry) : Yard → Token → Yard → Prop where
  | number (value : Rat) (waiting placed : List Token) :
      Moves registry ⟨waiting, placed⟩ (.number value) ⟨waiting, .number value :: placed⟩
  | function (name : List Char) (waiting placed : List Token) :
      Moves registry ⟨waiting, placed⟩ (.function name) ⟨.function name :: waiting, placed⟩
  | lparen (waiting placed : List Token) :
      Moves registry ⟨waiting, placed⟩ .lparen ⟨.lparen :: waiting, placed⟩
  | operator {symbol : Char} {incoming : Operator} {gone kept : List Token}
      (hincoming : registry.find? symbol = some incoming)
      (hgone : AllAhead registry incoming gone) (hkept : Settled registry incoming kept)
      (placed : List Token) :
      Moves registry ⟨gone ++ kept, placed⟩ (.operator symbol)
        ⟨.operator symbol :: kept, gone.reverse ++ placed⟩
  | rparen {gone : List Token} (hgone : Token.lparen ∉ gone) (below placed : List Token) :
      Moves registry ⟨gone ++ Token.lparen :: below, placed⟩ .rparen
        (placeFunction below (gone.reverse ++ placed))

theorem Yard.moves_of_step {yard next : Yard} {token : Token}
    (h : yard.step registry token = .ok next) : Moves registry yard token next := by
  obtain ⟨waiting, placed⟩ := yard
  cases token with
  | number value =>
    cases h
    exact .number value waiting placed
  | function name =>
    cases h
    exact .function name waiting placed
  | lparen =>
    cases h
    exact .lparen waiting placed
  | operator symbol =>
    obtain ⟨incoming, gone, kept, hincoming, hwaiting, hgone, hkept, rfl⟩ :=
      Yard.step_operator_eq_ok h
    subst hwaiting
    exact .operator hincoming hgone hkept placed
  | rparen =>
    obtain ⟨gone, below, hwaiting, hgone, rfl⟩ := closeGroup_eq_ok h
    subst hwaiting
    exact .rparen hgone below placed

theorem Yard.run_induction {Inv : List Token → Yard → Prop}
    (hstep : ∀ {tokens : List Token} {yard next : Yard} {token : Token}, Inv tokens yard →
      Moves registry yard token next → Inv (tokens ++ [token]) next)
    {tokens more : List Token} {yard next : Yard} (h : Inv tokens yard)
    (hrun : Yard.run registry yard more = .ok next) : Inv (tokens ++ more) next := by
  induction more generalizing tokens yard with
  | nil =>
    cases hrun
    rwa [List.append_nil]
  | cons token more ih =>
    rw [Yard.run_cons] at hrun
    obtain ⟨middle, hmiddle, hrest⟩ := bind_eq_ok_iff.mp hrun
    rw [List.append_cons]
    exact ih (hstep h (Yard.moves_of_step hmiddle)) hrest

/-- The yard with another one underneath. -/
def Yard.over (yard base : Yard) : Yard :=
  ⟨yard.waiting ++ base.waiting, yard.placed ++ base.placed⟩

theorem Yard.over_placed (waiting first placed : List Token) :
    Yard.over ⟨waiting, first⟩ ⟨[], placed⟩ = ⟨waiting, first ++ placed⟩ := by
  simp [Yard.over]

/-- Nothing waits, or an open parenthesis keeps what waits from being moved. -/
def Yard.Fenced (base : Yard) : Prop := ∀ top ∈ base.waiting.head?, top = .lparen

theorem Yard.Fenced.settled {base : Yard} (hbase : base.Fenced) {incoming : Operator}
    {kept : List Token} (hkept : Settled registry incoming kept) :
    Settled registry incoming (kept ++ base.waiting) := by
  cases kept with
  | nil =>
    intro top htop
    rw [hbase top htop]
    rfl
  | cons top below => exact hkept

theorem Yard.Fenced.placeFunction_over {base : Yard} (hbase : base.Fenced)
    (below placed : List Token) :
    placeFunction (below ++ base.waiting) (placed ++ base.placed) =
      (placeFunction below placed).over base := by
  obtain ⟨waiting, bottom⟩ := base
  cases below with
  | nil =>
    cases waiting with
    | nil => rfl
    | cons top rest =>
      have htop : top = .lparen := hbase top rfl
      subst htop
      rfl
  | cons top below => cases top <;> rfl

/-- A step that succeeds above a fence does not look below it. -/
theorem Yard.step_over {yard base next : Yard} {token : Token} (hbase : base.Fenced)
    (h : yard.step registry token = .ok next) :
    (yard.over base).step registry token = .ok (next.over base) := by
  cases Yard.moves_of_step h with
  | number | function | lparen => rfl
  | operator hincoming hgone hkept placed =>
    simp only [Yard.over, List.append_assoc]
    rw [Yard.step_operator hincoming hgone (hbase.settled hkept)]
    rfl
  | rparen hgone below placed =>
    have hclose := closeGroup_append hgone (below ++ base.waiting) (placed ++ base.placed)
    simp only [Yard.over, Yard.step, List.append_assoc, List.cons_append]
    rw [hclose, ← List.append_assoc, hbase.placeFunction_over]
    rfl

theorem Yard.run_over {base : Yard} (hbase : base.Fenced) {tokens : List Token}
    {yard next : Yard} (h : Yard.run registry yard tokens = .ok next) :
    Yard.run registry (yard.over base) tokens = .ok (next.over base) := by
  induction tokens generalizing yard with
  | nil => cases h; rfl
  | cons token tokens ih =>
    obtain ⟨middle, hstep, hrun⟩ := bind_eq_ok_iff.mp h
    rw [Yard.run_cons, Yard.step_over hbase hstep, ok_bind]
    exact ih hrun

/-- A group places all that it has left waiting, and then the function before it. -/
theorem Yard.run_group {tokens pending out waiting placed : List Token}
    (hrun : Yard.run registry ⟨.lparen :: waiting, placed⟩ tokens =
      .ok ⟨pending ++ Token.lparen :: waiting, out ++ placed⟩)
    (hopen : Token.lparen ∉ pending) :
    Yard.run registry ⟨waiting, placed⟩ (Token.lparen :: tokens ++ [Token.rparen]) =
      .ok (placeFunction waiting ((out.reverse ++ pending).reverse ++ placed)) := by
  have hstep : Yard.step registry ⟨waiting, placed⟩ .lparen = .ok ⟨.lparen :: waiting, placed⟩ :=
    rfl
  have hclose : Yard.step registry ⟨pending ++ Token.lparen :: waiting, out ++ placed⟩ .rparen =
      .ok (placeFunction waiting (pending.reverse ++ (out ++ placed))) :=
    closeGroup_append hopen waiting (out ++ placed)
  rw [List.cons_append, Yard.run_cons, hstep, ok_bind, Yard.run_append, hrun, ok_bind,
    Yard.run_cons, hclose, ok_bind, Yard.run_nil, List.reverse_append, List.reverse_reverse,
    List.append_assoc]

theorem release_placed (incoming : Operator) (waiting first placed : List Token) :
    release registry incoming waiting (first ++ placed) =
      (release registry incoming waiting first).map (·.over ⟨[], placed⟩) := by
  induction waiting generalizing first with
  | nil => rfl
  | cons top below ih =>
    simp only [release]
    cases htop : goesAhead registry incoming top with
    | error fault => rfl
    | ok ahead =>
      cases ahead with
      | false => simp [Except.map, Yard.over]
      | true => exact ih (top :: first)

theorem closeGroup_placed (waiting first placed : List Token) :
    closeGroup waiting (first ++ placed) =
      (closeGroup waiting first).map (·.over ⟨[], placed⟩) := by
  induction waiting generalizing first with
  | nil => rfl
  | cons top below ih =>
    by_cases htop : top = .lparen
    · subst htop
      have hfence : Yard.Fenced ⟨[], placed⟩ := nofun
      have hplace := hfence.placeFunction_over below first
      rw [List.append_nil] at hplace
      rw [closeGroup, hplace]
      rfl
    · rw [closeGroup, closeGroup]
      · exact ih (top :: first)
      · exact htop
      · exact htop

/-- The tokens already in place bear on no step, whether it succeeds or fails. -/
theorem Yard.step_placed (yard : Yard) (token : Token) (placed : List Token) :
    (yard.over ⟨[], placed⟩).step registry token =
      (yard.step registry token).map (·.over ⟨[], placed⟩) := by
  obtain ⟨waiting, first⟩ := yard
  cases token with
  | number value => rfl
  | function name => rfl
  | lparen => rfl
  | operator symbol =>
    simp only [Yard.step, Yard.over_placed]
    cases registry.operator symbol with
    | error fault => rfl
    | ok incoming =>
      simp only [ok_bind]
      rw [release_placed]
      cases release registry incoming waiting first <;> simp [Except.map, Yard.over]
  | rparen =>
    rw [Yard.over_placed]
    exact closeGroup_placed waiting first placed

theorem Yard.run_placed (yard : Yard) (tokens placed : List Token) :
    Yard.run registry (yard.over ⟨[], placed⟩) tokens =
      (Yard.run registry yard tokens).map (·.over ⟨[], placed⟩) := by
  induction tokens generalizing yard with
  | nil => rfl
  | cons token tokens ih =>
    rw [Yard.run_cons, Yard.run_cons, Yard.step_placed]
    cases yard.step registry token with
    | error fault => rfl
    | ok next => exact ih next

end Frames

end Reckoner.Postfix
