import Reckoner.Proofs.Entry
import Reckoner.Proofs.Phrase

/-! # Spelled phrases

How phrases are written as entries: which operands need parentheses, and where white
space may stand. However a phrase is spelled, the entry comes out as the phrase does.
One induction finds the tokens of a spelling, together with the way they are read and
the expression that they write; scanning, arranging and evaluating them is then known. -/

namespace Reckoner
open Token Text Numeral

/-- The ranks of the grammar. An `expression` is a sum of `term`s, a term a product of
`factor`s, a factor a `power` that may be raised to a factor. -/
inductive Rank where
  | expression
  | term
  | factor
  | power
deriving DecidableEq

def Rank.level : Rank → Nat
  | expression => 0
  | term => 1
  | factor => 2
  | power => 3

namespace Operation

def rank : Operation → Rank
  | add | subtract => .expression
  | multiply | divide => .term
  | raise => .factor

def leftRank : Operation → Rank
  | add | subtract => .expression
  | multiply | divide => .term
  | raise => .power

def rightRank : Operation → Rank
  | add | subtract => .term
  | multiply | divide => .factor
  | raise => .factor

theorem symbol_mem (operation : Operation) : operation.symbol ∈ operatorSymbols := by
  cases operation <;> decide

theorem yields_of_leftRank {operation inner : Operation}
    (h : operation.leftRank.level ≤ inner.rank.level) :
    Postfix.Yields operation.operator inner.operator := by
  revert h
  cases operation <;> cases inner <;> decide

theorem not_yields_of_rightRank {operation inner : Operation}
    (h : operation.rightRank.level ≤ inner.rank.level) :
    ¬ Postfix.Yields inner.operator operation.operator := by
  revert h
  cases operation <;> cases inner <;> decide

end Operation

/-- The text is a way to write the phrase where the grammar has this rank. -/
inductive Spelled : Rank → Phrase → List Char → Prop where
  | literal (n : Numeral) : Spelled .power (.literal n) n.text
  | negative (n : Numeral) {gap : List Char} (hgap : ∀ c ∈ gap, isBlank c = true) :
      Spelled .power (.negative n) ('-' :: gap ++ n.text)
  | call {name gap text : List Char} {argument : Phrase} (hne : name ≠ [])
      (hname : ∀ c ∈ name, isLetter c = true) (hgap : ∀ c ∈ gap, isBlank c = true)
      (h : Spelled .expression argument text) :
      Spelled .power (.call name argument) (name ++ (gap ++ ('(' :: text ++ [')'])))
  | group {phrase : Phrase} {text : List Char} (h : Spelled .expression phrase text) :
      Spelled .power phrase ('(' :: text ++ [')'])
  | combine (operation : Operation) {left right : Phrase} {before after : List Char}
      (hleft : Spelled operation.leftRank left before)
      (hright : Spelled operation.rightRank right after) :
      Spelled operation.rank (.combine operation left right)
        (before ++ operation.symbol :: after)
  | within {inner outer : Rank} {phrase : Phrase} {text : List Char}
      (hrank : outer.level ≤ inner.level) (h : Spelled inner phrase text) :
      Spelled outer phrase text
  | padded {rank : Rank} {phrase : Phrase} {before text after : List Char}
      (hbefore : ∀ c ∈ before, isBlank c = true) (hafter : ∀ c ∈ after, isBlank c = true)
      (h : Spelled rank phrase text) : Spelled rank phrase (before ++ (text ++ after))

/-- The text of an operand, read where one is expected. What follows is read as after
a token that ends an operand. -/
def Reads (text : List Char) (tokens : List Token) : Prop :=
  ∀ previous rest, expectsSign previous = true → Ends rest →
    ∃ last, expectsSign (some last) = false ∧
      scanAfter previous (text ++ rest) = (scanAfter (some last) rest).map (tokens ++ ·)

namespace Reads
variable {text : List Char} {tokens : List Token}

theorem literal (n : Numeral) : Reads n.text [.number n.value] :=
  fun _ _ _ hrest => ⟨.number n.value, rfl, scanAfter_numeral n (hrest.maximal n)⟩

theorem negative (n : Numeral) {gap : List Char} (hgap : ∀ c ∈ gap, isBlank c = true) :
    Reads ('-' :: gap ++ n.text) [.number (-n.value)] :=
  fun _ _ hprevious hrest =>
    ⟨.number (-n.value), rfl, scanAfter_negative hprevious hgap n (hrest.maximal n)⟩

theorem group (h : Reads text tokens) :
    Reads ('(' :: text ++ [')']) (Token.lparen :: tokens ++ [Token.rparen]) := by
  intro previous rest _ _
  have hends : Ends (')' :: rest) := ends_mark (by decide) (by decide) rest
  obtain ⟨last, _, hscan⟩ := h (some .lparen) (')' :: rest) rfl hends
  refine ⟨.rparen, rfl, ?_⟩
  have hsplit : '(' :: text ++ [')'] ++ rest = '(' :: (text ++ ')' :: rest) := by simp
  rw [hsplit, scanAfter_lparen, hscan, scanAfter_rparen]
  cases scanAfter (some .rparen) rest <;> simp [Except.map]

theorem padded {before after : List Char} (hbefore : ∀ c ∈ before, isBlank c = true)
    (hafter : ∀ c ∈ after, isBlank c = true) (h : Reads text tokens) :
    Reads (before ++ (text ++ after)) tokens := by
  intro previous rest hprevious hrest
  obtain ⟨last, hlast, hscan⟩ := h previous (after ++ rest) hprevious (ends_gap hafter hrest)
  refine ⟨last, hlast, ?_⟩
  rw [List.append_assoc, List.append_assoc, scanAfter_gap hbefore, hscan, scanAfter_gap hafter]

theorem call {name gap : List Char} (hne : name ≠ []) (hname : ∀ c ∈ name, isLetter c = true)
    (hgap : ∀ c ∈ gap, isBlank c = true) (h : Reads text tokens) :
    Reads (name ++ (gap ++ ('(' :: text ++ [')'])))
      (Token.function (lowercase name) :: (Token.lparen :: tokens ++ [Token.rparen])) := by
  intro previous rest _ hrest
  obtain ⟨last, hlast, hscan⟩ :=
    h.group (some (.function (lowercase name))) rest rfl hrest
  refine ⟨last, hlast, ?_⟩
  have hword : ∀ c ∈ (gap ++ ('(' :: text ++ [')'] ++ rest)).head?, isLetter c = false := by
    intro c hc
    cases gap with
    | nil =>
      cases hc
      exact (class_of_mem_marks (by decide)).2.2
    | cons d gap =>
      cases hc
      exact isLetter_of_isBlank (hgap c (by simp))
  rw [List.append_assoc, List.append_assoc, scanAfter_word hne hname hword, scanAfter_gap hgap,
    hscan]
  cases scanAfter (some last) rest <;> simp [Except.map]

theorem combine (operation : Operation) {before after : List Char} {first second : List Token}
    (hfirst : Reads before first) (hsecond : Reads after second) :
    Reads (before ++ operation.symbol :: after)
      (first ++ Token.operator operation.symbol :: second) := by
  intro previous rest hprevious hrest
  have hsymbol := operation.symbol_mem
  have hends : Ends (operation.symbol :: after ++ rest) := by
    refine ends_mark (mem_marks_of_mem_operatorSymbols hsymbol).1 ?_ (after ++ rest)
    cases operation <;> decide
  obtain ⟨middle, hmiddle, hbefore⟩ := hfirst previous _ hprevious hends
  obtain ⟨last, hlast, hafter⟩ :=
    hsecond (some (.operator operation.symbol)) rest rfl hrest
  refine ⟨last, hlast, ?_⟩
  rw [List.append_assoc, hbefore, List.cons_append, scanAfter_operator hsymbol hmiddle, hafter]
  cases scanAfter (some last) rest <;> simp [Except.map]

theorem scan_eq_ok (h : Reads text tokens) : scan text = .ok tokens := by
  obtain ⟨last, _, hscan⟩ := h none [] rfl nofun
  rw [List.append_nil] at hscan
  rw [scan, hscan, scanAfter_eq]
  simp [Except.map]

end Reads

namespace Spelled

def Admits (rank : Rank) (root : Option Operator) : Prop :=
  ∀ op ∈ root, ∃ operation : Operation,
    operation.operator = op ∧ rank.level ≤ operation.rank.level

/-- The tokens of a spelling write the expression of the phrase in the usual way. -/
theorem exists_tokens {rank : Rank} {phrase : Phrase} {text : List Char}
    (h : Spelled rank phrase text) :
    ∃ tokens root, Reads text tokens ∧ Admits rank root ∧
      Postfix.Writes Registry.standard root phrase.expr tokens := by
  induction h with
  | literal n => exact ⟨_, none, .literal n, nofun, .number n.value⟩
  | negative n hgap => exact ⟨_, none, .negative n hgap, nofun, .number (-n.value)⟩
  | @call name gap text argument hne hname hgap _ ih =>
    obtain ⟨tokens, root, hreads, _, hwrites⟩ := ih
    exact ⟨_, none, hreads.call hne hname hgap, nofun, hwrites.group.call (lowercase name)⟩
  | group _ ih =>
    obtain ⟨tokens, root, hreads, _, hwrites⟩ := ih
    exact ⟨_, none, hreads.group, nofun, hwrites.group⟩
  | combine operation _ _ ihl ihr =>
    obtain ⟨first, leftRoot, hfirst, hleftRank, hleft⟩ := ihl
    obtain ⟨second, rightRoot, hsecond, hrightRank, hright⟩ := ihr
    have hbefore : ∀ inner ∈ leftRoot, Postfix.Yields operation.operator inner := by
      intro inner hinner
      obtain ⟨_, rfl, hlevel⟩ := hleftRank inner hinner
      exact Operation.yields_of_leftRank hlevel
    have hafter : ∀ inner ∈ rightRoot, ¬ Postfix.Yields inner operation.operator := by
      intro inner hinner
      obtain ⟨_, rfl, hlevel⟩ := hrightRank inner hinner
      exact Operation.not_yields_of_rightRank hlevel
    refine ⟨_, some operation.operator, hfirst.combine operation hsecond, ?_,
      .combine operation.find?_standard hleft hright hbefore hafter⟩
    intro op hop
    cases hop
    exact ⟨operation, rfl, Nat.le_refl _⟩
  | within hrank _ ih =>
    obtain ⟨tokens, root, hreads, hinner, hwrites⟩ := ih
    refine ⟨tokens, root, hreads, ?_, hwrites⟩
    intro op hop
    obtain ⟨operation, hoperation, hlevel⟩ := hinner op hop
    exact ⟨operation, hoperation, Nat.le_trans hrank hlevel⟩
  | padded hbefore hafter _ ih =>
    obtain ⟨tokens, root, hreads, hadmits, hwrites⟩ := ih
    exact ⟨tokens, root, hreads.padded hbefore hafter, hadmits, hwrites⟩

end Spelled

/-- Every spelling of a phrase comes out as the phrase does: with its value, or with
the fault of its first part that fails. It never fails for the way it is written. -/
theorem Calculator.outcome_evaluate_of_spelled {phrase : Phrase} {text : List Char}
    (h : Spelled .expression phrase text) :
    (standard.evaluate text).outcome = phrase.value ∧
      ∀ fault, (standard.evaluate text).outcome = .error fault →
        Phrase.FirstFails phrase.nodes fault ∧
          (fault = .divisionByZero ∨ (∃ cause, fault = .domain cause) ∨
            ∃ name, fault = .unknownFunction (lowercase name)) := by
  obtain ⟨tokens, root, hreads, _, hwrites⟩ := h.exists_tokens
  have hvalue : (standard.evaluate text).outcome = phrase.value := by
    have houtcome : Postfix.outcome standard tokens = phrase.expr.value standard :=
      hwrites.outcome_eq
    rw [outcome_evaluate_of_scan standard hreads.scan_eq_ok hwrites.ne_nil, houtcome,
      Phrase.value_expr]
  refine ⟨hvalue, ?_⟩
  intro fault hfault
  have hfirst := Phrase.firstFails_of_value (hvalue.symm.trans hfault)
  refine ⟨hfirst, ?_⟩
  obtain ⟨_, node, _, _, _, hnode⟩ := hfirst
  exact hnode.cases

/-- A minus belongs to the literal after it, also under a power. -/
theorem Calculator.outcome_evaluate_negative_base :
    (∃ phrase, Spelled .expression phrase [' ', '-', '2', ' ', '^', '2', '-', 'S', 'Q', 'R', 'T',
      '\t', '(', '(', '9', ')', ')', '/', '2']) ∧
    (standard.evaluate [' ', '-', '2', ' ', '^', '2', '-', 'S', 'Q', 'R', 'T', '\t', '(', '(', '9',
      ')', ')', '/', '2']).outcome = .ok (5 / 2) := by
  have hspace : ∀ c ∈ [' '], isBlank c = true := List.all_eq_true.mp rfl
  have htab : ∀ c ∈ ['\t'], isBlank c = true := List.all_eq_true.mp rfl
  have hname : ∀ c ∈ ['S', 'Q', 'R', 'T'], isLetter c = true :=
    List.all_eq_true.mp (by decide +kernel)
  have hempty : ∀ c ∈ ([] : List Char), isBlank c = true := nofun
  have hbase := Spelled.padded hspace hspace (.negative (.digit '2' rfl) hempty)
  have hpower := Spelled.combine .raise hbase (.within (by decide) (.literal (.digit '2' rfl)))
  have hgroup := Spelled.group (.within (by decide) (.literal (.digit '9' rfl)))
  have hroot := Spelled.call (by decide) hname htab (.within (by decide) hgroup)
  have hquotient := Spelled.combine .divide (.within (by decide) hroot)
    (.within (by decide) (.literal (.digit '2' rfl)))
  have hspelled := Spelled.combine .subtract (.within (by decide) hpower) hquotient
  refine ⟨⟨_, hspelled⟩, (outcome_evaluate_of_spelled hspelled).1.trans ?_⟩
  decide +kernel

end Reckoner
