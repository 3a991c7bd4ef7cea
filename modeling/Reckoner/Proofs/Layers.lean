import Mathlib.Data.List.Chain
import Reckoner.Proofs.Balance

/-! # The layers of the stack

What waits while tokens are put into postfix order, whether or not they make sense. Each
parenthesis that is still open lies on the stack and parts one layer of it from the next.
Within a layer the functions lie on top of the operators, and no operator would send ahead
the one that it lies on. A token changes the top layer only, apart from a closing
parenthesis, which takes the top layer away with the parenthesis under it. -/

namespace Reckoner

namespace Balanced
variable {α : Type} [DecidableEq α] {opening closing : α} {first second list : List α}

theorem nil : Balanced opening closing [] := by
  refine ⟨fun before hbefore => ?_, rfl⟩
  rw [List.prefix_nil.mp hbefore]
  exact Nat.le_refl _

theorem singleton {a : α} (hopening : a ≠ opening) (hclosing : a ≠ closing) :
    Balanced opening closing [a] := by
  have hcount : ∀ b, a ≠ b → ∀ before, before <+: [a] → before.count b = 0 := by
    intro b hb before hbefore
    have hle := hbefore.sublist.count_le b
    rw [List.count_singleton, beq_eq_false_iff_ne.mpr hb] at hle
    exact Nat.le_zero.mp hle
  constructor
  · intro before hbefore
    rw [hcount closing hclosing before hbefore]
    exact Nat.zero_le _
  · rw [hcount closing hclosing _ (List.prefix_refl _), hcount opening hopening _ (List.prefix_refl _)]

theorem append (h : Balanced opening closing first) (hsecond : Balanced opening closing second) :
    Balanced opening closing (first ++ second) := by
  constructor
  · rintro before ⟨after, hafter⟩
    rcases List.append_eq_append_iff.mp hafter with ⟨rest, hfirst, _⟩ | ⟨inside, hbefore, hinside⟩
    · apply h.count_le
      exact ⟨rest, hfirst.symm⟩
    · have hle := hsecond.count_le inside ⟨after, hinside.symm⟩
      have heq := h.count_eq
      rw [hbefore, List.count_append, List.count_append]
      omega
  · rw [List.count_append, List.count_append, h.count_eq, hsecond.count_eq]

theorem enclose (h : Balanced opening closing list) (hne : opening ≠ closing) :
    Balanced opening closing (opening :: list ++ [closing]) := by
  have hopening : ∀ before : List α, (opening :: before).count opening = before.count opening + 1 :=
    fun before => List.count_cons_self
  have hclosing : ∀ before : List α, (opening :: before).count closing = before.count closing :=
    fun before => List.count_cons_of_ne hne
  constructor
  · intro before hbefore
    rw [List.cons_append] at hbefore
    rcases List.prefix_cons_iff.mp hbefore with rfl | ⟨inside, rfl, hinside⟩
    · exact Nat.le_refl _
    · rw [hopening, hclosing]
      rcases List.prefix_concat_iff.mp hinside with rfl | hinside
      · have heq := h.count_eq
        rw [List.count_append, List.count_append, List.count_singleton_self, List.count_singleton]
        omega
      · have hle := h.count_le inside hinside
        omega
  · have heq := h.count_eq
    have hend : [closing].count opening = 0 := by
      rw [List.count_singleton, beq_eq_false_iff_ne.mpr hne.symm]
      rfl
    rw [List.count_append, List.count_append, hopening, hclosing, hend, List.count_singleton_self]
    omega

end Balanced

namespace Postfix
open Outcome

/-- The upper one of two operators, had it come in on the lower one, would not have sent
it ahead. -/
def Outranks (upper lower : Operator) : Prop :=
  match upper.side with
  | .left => lower.priority < upper.priority
  | .right => lower.priority ≤ upper.priority

theorem outranks_iff {upper lower : Operator} : Outranks upper lower ↔ ¬ Yields upper lower := by
  unfold Outranks Yields
  cases upper.side with
  | left => exact Nat.not_le.symm
  | right => exact Nat.not_lt.symm

/-- What waits since a parenthesis was opened, from the top down. -/
structure Layer (registry : Registry) where
  functions : List (List Char)
  operators : List Operator
  known : ∀ op ∈ operators, registry.find? op.symbol = some op
  ordered : operators.IsChain Outranks

def symbols (operators : List Operator) : List Token :=
  operators.map fun op => .operator op.symbol

namespace Layer
variable {registry : Registry}

def tokens (layer : Layer registry) : List Token :=
  layer.functions.map Token.function ++ symbols layer.operators

def empty (registry : Registry) : Layer registry := ⟨[], [], by simp, .nil⟩

def withFunctions (layer : Layer registry) (functions : List (List Char)) : Layer registry :=
  { layer with functions }

theorem lparen_not_mem (layer : Layer registry) : Token.lparen ∉ layer.tokens := by
  simp [tokens, symbols]

end Layer

/-- The stack is made of layers with open parentheses between them, and these are the ones
that the tokens have left open: between one and the next the tokens are balanced, and so
they are before the first and after the last. -/
inductive Stacked (registry : Registry) : List Token → List Token → Prop where
  | ground {tokens : List Token} (layer : Layer registry)
      (hclosed : Balanced .lparen .rparen tokens) : Stacked registry tokens layer.tokens
  | opened {before inside waiting : List Token} (h : Stacked registry before waiting)
      (layer : Layer registry) (hclosed : Balanced .lparen .rparen inside) :
      Stacked registry (before ++ Token.lparen :: inside)
        (layer.tokens ++ Token.lparen :: waiting)

section Releasing
variable {registry : Registry} {incoming : Operator}

theorem Layer.exists_kept (layer : Layer registry) {fence gone kept : List Token}
    (hfence : ∀ t ∈ fence.head?, t = .lparen) (h : layer.tokens ++ fence = gone ++ kept)
    (hgone : AllAhead registry incoming gone) (hkept : Settled registry incoming kept) :
    ∃ below, below <:+ layer.operators ∧ kept = symbols below ++ fence := by
  rcases List.append_eq_append_iff.mp h with ⟨rest, rfl, hrest⟩ | ⟨rest, htokens, rfl⟩
  · -- No parenthesis goes ahead, so nothing under the layer does.
    have hnil : rest = [] := by
      cases rest with
      | nil => rfl
      | cons top rest =>
        rw [hrest] at hfence
        have htop : top = .lparen := hfence top rfl
        cases htop ▸ hgone top (by simp)
    rw [hnil] at hrest
    exact ⟨[], List.nil_suffix, hrest.symm⟩
  · rcases List.append_eq_append_iff.mp htokens with ⟨taken, -, hsymbols⟩ | ⟨called, hcalled, hrest⟩
    · obtain ⟨above, below, heq, -, rfl⟩ := List.map_eq_append_iff.mp hsymbols
      exact ⟨below, ⟨above, heq.symm⟩, rfl⟩
    · -- A function would have gone ahead, so none is left.
      obtain ⟨names, left, -, -, rfl⟩ := List.map_eq_append_iff.mp hcalled
      have hnil : left = [] := by
        cases left with
        | nil => rfl
        | cons name left =>
          rw [hrest] at hkept
          cases hkept (.function name) rfl
      rw [hrest, hnil]
      exact ⟨layer.operators, List.suffix_refl _, rfl⟩

/-- An operator comes to lie on operators of which it sends none ahead. -/
theorem Layer.ordered_cons (layer : Layer registry) {below : List Operator} {fence : List Token}
    (hbelow : below <:+ layer.operators)
    (hkept : Settled registry incoming (symbols below ++ fence)) :
    (incoming :: below).IsChain Outranks := by
  refine (layer.ordered.suffix hbelow).cons ?_
  intro lower hlower
  have hknown := layer.known lower (hbelow.mem (List.mem_of_mem_head? hlower))
  have hhead : (symbols below ++ fence).head? = some (.operator lower.symbol) := by
    cases below with
    | nil => cases hlower
    | cons top rest =>
      cases hlower
      rfl
  have hstays := hkept _ hhead
  rw [goesAhead_operator hknown] at hstays
  rw [outranks_iff]
  simpa using hstays

end Releasing

namespace Stacked
variable {registry : Registry} {tokens waiting : List Token}

/-- The top layer can be any other, whatever balanced tokens come next. -/
theorem exists_top (h : Stacked registry tokens waiting) :
    ∃ (layer : Layer registry) (fence : List Token), waiting = layer.tokens ++ fence ∧
      (∀ t ∈ fence.head?, t = .lparen) ∧
      ∀ (other : Layer registry) {block : List Token}, Balanced .lparen .rparen block →
        Stacked registry (tokens ++ block) (other.tokens ++ fence) := by
  cases h with
  | ground layer hclosed =>
    refine ⟨layer, [], by simp, by simp, ?_⟩
    intro other block hblock
    rw [List.append_nil]
    exact .ground other (hclosed.append hblock)
  | @opened before inside waiting h layer hclosed =>
    refine ⟨layer, .lparen :: waiting, rfl, by simp, ?_⟩
    intro other block hblock
    rw [List.append_assoc, List.cons_append]
    exact .opened h other (hclosed.append hblock)

theorem append (h : Stacked registry tokens waiting) {block : List Token}
    (hblock : Balanced .lparen .rparen block) : Stacked registry (tokens ++ block) waiting := by
  obtain ⟨layer, fence, rfl, -, hother⟩ := h.exists_top
  exact hother layer hblock

theorem function (h : Stacked registry tokens waiting) (name : List Char) :
    Stacked registry (tokens ++ [Token.function name]) (.function name :: waiting) := by
  obtain ⟨layer, fence, rfl, -, hother⟩ := h.exists_top
  exact hother (layer.withFunctions (name :: layer.functions)) (.singleton (by simp) (by simp))

theorem lparen (h : Stacked registry tokens waiting) :
    Stacked registry (tokens ++ [Token.lparen]) (.lparen :: waiting) :=
  .opened h (.empty registry) .nil

theorem operator {symbol : Char} {incoming : Operator} {gone kept : List Token}
    (h : Stacked registry tokens (gone ++ kept)) (hincoming : registry.find? symbol = some incoming)
    (hgone : AllAhead registry incoming gone) (hkept : Settled registry incoming kept) :
    Stacked registry (tokens ++ [Token.operator symbol]) (.operator symbol :: kept) := by
  obtain ⟨layer, fence, heq, hfence, hother⟩ := h.exists_top
  obtain ⟨below, hbelow, rfl⟩ := layer.exists_kept hfence heq.symm hgone hkept
  have hsymbol := Registry.symbol_of_find? hincoming
  have hknown : ∀ op ∈ incoming :: below, registry.find? op.symbol = some op := by
    intro op hop
    rcases List.mem_cons.mp hop with rfl | hop
    · rw [hsymbol]
      exact hincoming
    · exact layer.known op (hbelow.mem hop)
  have hblock : Balanced .lparen .rparen [Token.operator symbol] := .singleton (by simp) (by simp)
  have hnext := hother ⟨[], incoming :: below, hknown, layer.ordered_cons hbelow hkept⟩ hblock
  rw [← hsymbol] at hnext ⊢
  exact hnext

theorem exists_opened {gone below : List Token} (hgone : Token.lparen ∉ gone)
    (h : Stacked registry tokens (gone ++ Token.lparen :: below)) :
    ∃ before inside, tokens = before ++ Token.lparen :: inside ∧
      Balanced .lparen .rparen inside ∧ Stacked registry before below := by
  generalize heq : gone ++ Token.lparen :: below = waiting at h
  cases h with
  | ground layer hclosed =>
    have hmem : Token.lparen ∈ layer.tokens := by
      rw [← heq]
      simp
    exact absurd hmem layer.lparen_not_mem
  | @opened before inside waiting h layer hclosed =>
    refine ⟨before, inside, rfl, hclosed, ?_⟩
    rcases List.append_eq_append_iff.mp heq with ⟨rest, hrest, hbelow⟩ | ⟨rest, rfl, hbelow⟩
    · cases rest with
      | nil =>
        cases hbelow
        exact h
      | cons top rest =>
        cases hbelow
        exact absurd (hrest ▸ by simp) layer.lparen_not_mem
    · cases rest with
      | nil =>
        cases hbelow
        exact h
      | cons top rest =>
        cases hbelow
        exact absurd (by simp) hgone

theorem of_function {name : List Char} (h : Stacked registry tokens (.function name :: waiting)) :
    Stacked registry tokens waiting := by
  obtain ⟨layer, fence, heq, hfence, hother⟩ := h.exists_top
  rw [Layer.tokens] at heq
  cases hfunctions : layer.functions with
  | nil =>
    rw [hfunctions] at heq
    cases hoperators : layer.operators with
    | nil =>
      rw [hoperators] at heq
      change Token.function name :: waiting = fence at heq
      subst heq
      cases hfence _ rfl
    | cons op operators =>
      rw [hoperators] at heq
      cases heq
  | cons called names =>
    rw [hfunctions] at heq
    have hrest := hother (layer.withFunctions names) .nil
    rw [List.append_nil] at hrest
    cases heq
    exact hrest

theorem placeFunction (h : Stacked registry tokens waiting) (placed : List Token) :
    Stacked registry tokens (placeFunction waiting placed).waiting := by
  cases waiting with
  | nil => exact h
  | cons top below =>
    cases top with
    | function name => exact h.of_function
    | _ => exact h

theorem rparen {gone below : List Token} (hgone : Token.lparen ∉ gone)
    (h : Stacked registry tokens (gone ++ Token.lparen :: below)) (placed : List Token) :
    Stacked registry (tokens ++ [Token.rparen]) (Postfix.placeFunction below placed).waiting := by
  obtain ⟨before, inside, rfl, hinside, hbefore⟩ := h.exists_opened hgone
  have hgroup := hinside.enclose (by simp)
  have hclosed := hbefore.append hgroup
  rw [List.append_assoc]
  exact hclosed.placeFunction placed

theorem step {yard next : Yard} {token : Token} (h : Stacked registry tokens yard.waiting)
    (hmoves : Moves registry yard token next) :
    Stacked registry (tokens ++ [token]) next.waiting := by
  cases hmoves with
  | number value => exact h.append (.singleton (by simp) (by simp))
  | function name => exact h.function name
  | lparen => exact h.lparen
  | operator hincoming hgone hkept => exact h.operator hincoming hgone hkept
  | rparen hgone below placed => exact h.rparen hgone _

end Stacked

/-- As long as the tokens can be arranged the stack is made of layers, each with known
operators of which none sends ahead the one that it lies on, and with the functions on
top. Between the layers lie the parentheses still open, and no other lies anywhere. So
whatever comes in, no waiting token fails to be compared with it, and when all tokens have
come only an open parenthesis is refused. -/
theorem waiting_stacked {registry : Registry} {tokens : List Token} {yard : Yard}
    (h : Yard.run registry ⟨[], []⟩ tokens = .ok yard) :
    Stacked registry tokens yard.waiting ∧
      .rparen ∉ yard.waiting ∧
      yard.waiting.count .lparen + tokens.count .rparen = tokens.count .lparen ∧
      (∀ symbol, .operator symbol ∈ yard.waiting → ∃ op, registry.find? symbol = some op) ∧
      (∀ t ∈ yard.waiting, ∀ incoming, ∃ ahead, goesAhead registry incoming t = .ok ahead) ∧
      ∀ fault, flush yard.waiting yard.placed = .error fault ↔
        .lparen ∈ yard.waiting ∧ fault = .unbalancedParentheses := by
  have hstart : Stacked registry [] [] := .ground (.empty registry) .nil
  have hstacked : Stacked registry ([] ++ tokens) yard.waiting :=
    @Yard.run_induction registry (fun tokens yard => Stacked registry tokens yard.waiting)
      Stacked.step [] tokens ⟨[], []⟩ yard hstart h
  have htracks := run_empty_eq_ok h
  have hrparen : .rparen ∉ yard.waiting := by
    intro hmem
    rcases htracks.waiting _ hmem with heq | hplaceable
    · cases heq
    · cases hplaceable.isParenthesis_eq
  refine ⟨hstacked, hrparen, htracks.count_lparen, ?_, ?_, ?_⟩
  · intro symbol hsymbol
    rcases htracks.waiting _ hsymbol with heq | hplaceable
    · cases heq
    · exact hplaceable.known symbol rfl
  · intro t ht incoming
    rcases htracks.waiting t ht with rfl | hplaceable
    · exact ⟨false, rfl⟩
    · exact exists_goesAhead hplaceable.known incoming
  · intro fault
    rw [flush_eq_error_iff, htracks.exists_isParenthesis_iff, htracks.lparen_mem_iff]

/-- Operators of equal priority that group on different sides, functions on both layers,
and a parenthesis that stays open. -/
theorem waiting_stacked_in_disorder :
    Yard.run (.ofList [.add, { Operator.raise with priority := 1 }]) ⟨[], []⟩
        [.operator '+', .operator '^', .function ['f'], .lparen, .lparen, .rparen, .operator '^',
          .operator '^', .function ['g']] =
        .ok ⟨[.function ['g'], .operator '^', .operator '^', .lparen, .function ['f'],
          .operator '^', .operator '+'], []⟩ ∧
      Stacked (.ofList [.add, { Operator.raise with priority := 1 }])
        [.operator '+', .operator '^', .function ['f'], .lparen, .lparen, .rparen, .operator '^',
          .operator '^', .function ['g']]
        [.function ['g'], .operator '^', .operator '^', .lparen, .function ['f'],
          .operator '^', .operator '+'] := by
  have hrun : Yard.run (.ofList [.add, { Operator.raise with priority := 1 }]) ⟨[], []⟩
      [.operator '+', .operator '^', .function ['f'], .lparen, .lparen, .rparen, .operator '^',
        .operator '^', .function ['g']] =
      .ok ⟨[.function ['g'], .operator '^', .operator '^', .lparen, .function ['f'],
        .operator '^', .operator '+'], []⟩ := by
    rfl
  exact ⟨hrun, (waiting_stacked hrun).1⟩

end Postfix

end Reckoner
