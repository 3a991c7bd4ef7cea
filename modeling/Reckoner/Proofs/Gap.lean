import Reckoner.Proofs.Outcome
import Reckoner.Proofs.Scan

/-! # White space between lexemes

White space counts only inside a numeral or a word. Anywhere else it may be put into a
text or taken out of it: the lexemes before it end where they did, and none of those
after it see it. A sign that still waits for its number is the one lexeme that reaches
over it. -/

namespace Reckoner.Token
open Text Numeral Outcome

def inNumeral (c : Char) : Bool := isDigit c || c == '.'

/-- The end of the first text and the beginning of the second are no parts of one
numeral or of one word. -/
def Apart (first second : List Char) : Prop :=
  ∀ c ∈ first.getLast?, ∀ d ∈ second.head?,
    ¬ (inNumeral c = true ∧ inNumeral d = true) ∧ ¬ (isLetter c = true ∧ isLetter d = true)

theorem Apart.of_suffix {first second left : List Char} (h : Apart first second)
    (hleft : left <:+ first) : Apart left second := by
  intro c hc
  obtain ⟨before, rfl⟩ := hleft
  apply h c
  rw [List.getLast?_append, Option.mem_def.mp hc]
  rfl

theorem inNumeral_of_isBlank {c : Char} (h : isBlank c = true) : inNumeral c = false := by
  have hpoint : c ≠ '.' := by
    rintro rfl
    revert h
    decide
  simp [inNumeral, isDigit_of_isBlank h, hpoint]

theorem Apart.gap {first second gap : List Char} (h : Apart first second)
    (hgap : ∀ c ∈ gap, isBlank c = true) : Apart first (gap ++ second) := by
  cases gap with
  | nil => exact h
  | cons e gap =>
    intro c _ d hd
    cases hd
    have hblank : isBlank e = true := hgap e (by simp)
    simp [inNumeral_of_isBlank hblank, isLetter_of_isBlank hblank]

section Reading
variable {text tail : List Char}

theorem inNumeral_of_mem_splitNumeral {c : Char} (h : c ∈ (splitNumeral text).1) :
    inNumeral c = true := by
  have hdigit : ∀ {c : Char} {run : List Char}, c ∈ run.takeWhile isDigit → inNumeral c = true := by
    intro c run hc
    simp [inNumeral, List.mem_takeWhile_imp hc]
  unfold splitNumeral at h
  split at h
  · rcases List.mem_append.mp h with h | h
    · exact hdigit h
    · rcases List.mem_cons.mp h with rfl | h
      · rfl
      · exact hdigit h
  · exact hdigit h

theorem splitNumeral_append_of_ended (h : (splitNumeral text).2 ≠ []) (tail : List Char) :
    splitNumeral (text ++ tail) = ((splitNumeral text).1, (splitNumeral text).2 ++ tail) := by
  have hwhole : text.dropWhile isDigit ≠ [] := by
    intro hnil
    apply h
    simp only [splitNumeral, hnil]
  simp only [splitNumeral, takeWhile_append_of_ended hwhole,
    dropWhile_append_of_ended hwhole] at h ⊢
  cases hrest : text.dropWhile isDigit with
  | nil => exact absurd hrest hwhole
  | cons c rest =>
    rw [hrest] at h
    rw [List.cons_append]
    by_cases hc : c = '.'
    · subst hc
      simp only at h ⊢
      rw [takeWhile_append_of_ended h, dropWhile_append_of_ended h]
    · split
      · rename_i heq
        cases heq
        exact absurd rfl hc
      · split
        · rename_i heq
          cases heq
          exact absurd rfl hc
        · rfl

theorem splitNumeral_append_of_apart (hne : text ≠ []) (h : Apart text tail) :
    splitNumeral (text ++ tail) = ((splitNumeral text).1, (splitNumeral text).2 ++ tail) := by
  by_cases htail : Ends tail
  · exact splitNumeral_append_of_ends htail text
  · apply splitNumeral_append_of_ended
    intro hnil
    apply htail
    intro d hd
    have hsplit := splitNumeral_append text
    rw [hnil, List.append_nil] at hsplit
    have hlast : text.getLast hne ∈ (splitNumeral text).1 := by
      rw [hsplit]
      exact List.getLast_mem hne
    have hapart := (h _ (List.getLast?_eq_getLast_of_ne_nil hne) d hd).1
    rw [inNumeral_of_mem_splitNumeral hlast] at hapart
    simpa [inNumeral] using hapart

theorem readNumeral_append_of_apart (hne : text ≠ []) (h : Apart text tail) :
    readNumeral (text ++ tail) = ((readNumeral text).1, (readNumeral text).2 ++ tail) := by
  simp only [readNumeral, splitNumeral_append_of_apart hne h]

theorem word_append_of_apart {c : Char} (hc : isLetter c = true) (h : Apart (c :: text) tail) :
    (text ++ tail).takeWhile isLetter = text.takeWhile isLetter ∧
      (text ++ tail).dropWhile isLetter = text.dropWhile isLetter ++ tail := by
  by_cases hhead : ∀ d ∈ tail.head?, isLetter d = false
  · exact ⟨takeWhile_append_of_head? hhead text, dropWhile_append_of_head? hhead text⟩
  · have hended : text.dropWhile isLetter ≠ [] := by
      intro hnil
      apply hhead
      intro d hd
      have hword : ∀ e ∈ c :: text, isLetter e = true :=
        List.forall_mem_cons.mpr ⟨hc, List.dropWhile_eq_nil_iff.mp hnil⟩
      have hne := List.cons_ne_nil c text
      have hapart := (h _ (List.getLast?_eq_getLast_of_ne_nil hne) d hd).2
      rw [hword _ (List.getLast_mem hne)] at hapart
      simpa using hapart
    exact ⟨takeWhile_append_of_ended hended tail, dropWhile_append_of_ended hended tail⟩

end Reading

section Lexing
variable {previous : Option Token} {c : Char} {rest : List Char}

theorem suffix_of_readNumeral {text left : List Char} {value? : Option Rat}
    (h : readNumeral text = (value?, left)) : left <:+ text := by
  have hleft : (splitNumeral text).2 = left := congrArg Prod.snd h
  exact ⟨(splitNumeral text).1, hleft ▸ splitNumeral_append text⟩

theorem suffix_of_lexeme {token : Token} {left : List Char}
    (h : lexeme previous c rest = .ok (token, left)) : left <:+ c :: rest := by
  have hrest : rest <:+ c :: rest := List.suffix_cons c rest
  cases takes_of_lexeme h with
  | lparen => exact hrest
  | rparen => exact hrest
  | negative _ hread =>
    exact (suffix_of_readNumeral hread).trans ((List.dropWhile_suffix isBlank).trans hrest)
  | operator => exact hrest
  | numeral _ hread => exact suffix_of_readNumeral hread
  | word => exact (List.dropWhile_suffix isLetter).trans hrest

/-- The text begins with a sign whose number has not begun yet. -/
def SignWaits (previous : Option Token) (c : Char) (rest : List Char) : Prop :=
  c = '-' ∧ expectsSign previous = true ∧ ∀ d ∈ rest, isBlank d = true

/-- A lexeme that is not a waiting sign is the same in front of a text that is apart. -/
theorem lexeme_append_of_apart {tail : List Char} (hsign : ¬ SignWaits previous c rest)
    (h : Apart (c :: rest) tail) :
    lexeme previous c (rest ++ tail) =
      (lexeme previous c rest).map fun (token, left) => (token, left ++ tail) := by
  unfold lexeme
  split
  · rfl
  split
  · rfl
  split
  · split
    · rename_i hminus
      have hbegun : rest.dropWhile isBlank ≠ [] := by
        intro hnil
        exact hsign ⟨hminus.1, hminus.2, List.dropWhile_eq_nil_iff.mp hnil⟩
      have hsuffix : rest.dropWhile isBlank <:+ c :: rest :=
        (List.dropWhile_suffix isBlank).trans (List.suffix_cons c rest)
      rw [dropWhile_append_of_ended hbegun,
        readNumeral_append_of_apart hbegun (h.of_suffix hsuffix)]
      cases hread : readNumeral (rest.dropWhile isBlank) with
      | mk value? left => cases value? <;> rfl
    · rfl
  split
  · rw [← List.cons_append, readNumeral_append_of_apart (List.cons_ne_nil c rest) h]
    cases hread : readNumeral (c :: rest) with
    | mk value? left => cases value? <;> rfl
  split
  · rename_i hletter
    obtain ⟨htake, hdrop⟩ := word_append_of_apart hletter h
    rw [htake, hdrop]
    rfl
  · rfl

theorem lexeme_of_signWaits (h : SignWaits previous c rest) {gap : List Char}
    (hgap : ∀ d ∈ gap, isBlank d = true) (after : List Char) :
    lexeme previous c (rest ++ (gap ++ after)) = lexeme previous c (rest ++ after) := by
  obtain ⟨rfl, hprevious, hrest⟩ := h
  have hskip : (rest ++ (gap ++ after)).dropWhile isBlank = (rest ++ after).dropWhile isBlank := by
    rw [List.dropWhile_append_of_pos hrest, List.dropWhile_append_of_pos hgap,
      List.dropWhile_append_of_pos hrest]
  have hminus : '-' = '-' ∧ expectsSign previous = true := ⟨rfl, hprevious⟩
  have hsymbol : '-' ∈ operatorSymbols := by decide
  rw [lexeme, lexeme, if_neg (by decide), if_neg (by decide), if_pos hsymbol, if_pos hminus,
    if_neg (by decide), if_neg (by decide), if_pos hsymbol, if_pos hminus, hskip]

end Lexing

section Gaps
variable {gap : List Char}

theorem scanAfter_append {before rest : List Char} {c : Char}
    (h : before.dropWhile isBlank = c :: rest) (previous : Option Token) (tail : List Char) :
    scanAfter previous (before ++ tail) =
      match lexeme previous c (rest ++ tail) with
      | .ok (token, left) => (scanAfter (some token) left).map (token :: ·)
      | .error fault => .error fault := by
  have hne : before.dropWhile isBlank ≠ [] := h ▸ List.cons_ne_nil c rest
  rw [scanAfter_eq, dropWhile_append_of_ended hne, h]
  rfl

/-- White space between two texts that are apart does not count. -/
theorem scanAfter_insert_gap {before after : List Char} (hgap : ∀ c ∈ gap, isBlank c = true)
    (hapart : Apart before after) (previous : Option Token) :
    scanAfter previous (before ++ (gap ++ after)) = scanAfter previous (before ++ after) := by
  fun_induction scanAfter previous before with
  | case1 previous before hbefore =>
    have hblank := List.dropWhile_eq_nil_iff.mp hbefore
    rw [scanAfter_gap hblank, scanAfter_gap hblank, scanAfter_gap hgap]
  | case2 previous before c rest hbefore token left hlexeme ih =>
    have hfirst : Apart (c :: rest) after :=
      hapart.of_suffix (hbefore ▸ List.dropWhile_suffix isBlank)
    rw [scanAfter_append hbefore, scanAfter_append hbefore]
    -- Only a sign that still waits for its number looks past the end of `before`.
    by_cases hsign : SignWaits previous c rest
    · rw [lexeme_of_signWaits hsign hgap]
    · rw [lexeme_append_of_apart hsign hfirst, lexeme_append_of_apart hsign (hfirst.gap hgap),
        hlexeme]
      simp only [Except.map]
      rw [ih (hfirst.of_suffix (suffix_of_lexeme hlexeme))]
  | case3 previous before c rest hbefore fault hlexeme =>
    have hfirst : Apart (c :: rest) after :=
      hapart.of_suffix (hbefore ▸ List.dropWhile_suffix isBlank)
    rw [scanAfter_append hbefore, scanAfter_append hbefore]
    by_cases hsign : SignWaits previous c rest
    · rw [lexeme_of_signWaits hsign hgap]
    · rw [lexeme_append_of_apart hsign hfirst, lexeme_append_of_apart hsign (hfirst.gap hgap),
        hlexeme]
      rfl

theorem scanAfter_append_gap (hgap : ∀ c ∈ gap, isBlank c = true) (previous : Option Token)
    (text : List Char) : scanAfter previous (text ++ gap) = scanAfter previous text := by
  have hend : Apart text [] := by
    intro c _ d hd
    cases hd
  simpa using scanAfter_insert_gap hgap hend previous

theorem scan_trim (text : List Char) : scan (trim text) = scan text := by
  have hsplit : ∀ t : List Char,
      dropTrailing isBlank t ++ (t.reverse.takeWhile isBlank).reverse = t := by
    intro t
    rw [dropTrailing, ← List.reverse_append, List.takeWhile_append_dropWhile, List.reverse_reverse]
  have hgap : ∀ c ∈ ((text.dropWhile isBlank).reverse.takeWhile isBlank).reverse,
      isBlank c = true := by
    intro c hc
    exact List.mem_takeWhile_imp (List.mem_reverse.mp hc)
  rw [scan, scan, trim, ← scanAfter_append_gap hgap, hsplit, scanAfter_eq, scanAfter_eq none text,
    List.dropWhile_idempotent]

theorem scan_eq_nil_iff {text : List Char} : scan text = .ok [] ↔ trim text = [] := by
  rw [trim_eq_nil_iff, scan, scanAfter_eq, ← List.dropWhile_eq_nil_iff]
  constructor
  · intro h
    split at h
    · assumption
    · split at h
      · obtain ⟨tokens, _, hcons⟩ := Outcome.map_eq_ok_iff.mp h
        cases hcons
      · cases h
  · intro h
    rw [h]

end Gaps

end Reckoner.Token
