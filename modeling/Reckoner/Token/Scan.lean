import Reckoner.Fault
import Reckoner.Text.Case
import Reckoner.Token

/-! # Reading tokens

A text is split from left to right, each lexeme being as long as it can be. Only
the token just before a minus decides whether the minus is an operator or the
sign of the number after it. No character is looked at twice. -/

namespace Reckoner.Token
open Text

def operatorSymbols : List Char := ['+', '-', '*', '/', '^']

/-- Whether a minus after `previous` is a sign: it is where no operand has just
ended. -/
def expectsSign : Option Token → Bool
  | none | some (operator _) | some lparen | some (function _) => true
  | some (number _) | some rparen => false

/-- Splits off the longest run of digits with at most one point. -/
def splitNumeral (text : List Char) : List Char × List Char :=
  let whole := text.takeWhile isDigit
  match text.dropWhile isDigit with
  | '.' :: rest => (whole ++ '.' :: rest.takeWhile isDigit, rest.dropWhile isDigit)
  | rest => (whole, rest)

def readNumeral (text : List Char) : Option Rat × List Char :=
  let (run, rest) := splitNumeral text
  (Decimal.read? run, rest)

/-- The token that begins with `c`, and what follows it. -/
def lexeme (previous : Option Token) (c : Char) (rest : List Char) :
    Except LexicalFault (Token × List Char) :=
  if c = '(' then
    .ok (lparen, rest)
  else if c = ')' then
    .ok (rparen, rest)
  else if c ∈ operatorSymbols then
    if c = '-' ∧ expectsSign previous = true then
      match readNumeral (rest.dropWhile isBlank) with
      | (some value, rest) => .ok (number (-value), rest)
      | (none, _) => .error .negativeNumber
    else
      .ok (operator c, rest)
  else if isDigit c ∨ c = '.' then
    match readNumeral (c :: rest) with
    | (some value, rest) => .ok (number value, rest)
    | (none, _) => .error .number
  else if isLetter c then
    .ok (function (lowercase (c :: rest.takeWhile isLetter)), rest.dropWhile isLetter)
  else
    .error (.invalidCharacter c)

theorem length_dropWhile_le (p : Char → Bool) (text : List Char) :
    (text.dropWhile p).length ≤ text.length :=
  (List.dropWhile_suffix p).length_le

theorem splitNumeral_append (text : List Char) :
    (splitNumeral text).1 ++ (splitNumeral text).2 = text := by
  unfold splitNumeral
  split
  · rename_i rest h
    have hsplit := List.takeWhile_append_dropWhile (p := isDigit) (l := text)
    rw [h] at hsplit
    simpa [List.append_assoc] using hsplit
  · exact List.takeWhile_append_dropWhile

theorem length_readNumeral_le (text : List Char) : (readNumeral text).2.length ≤ text.length := by
  have h := congrArg List.length (splitNumeral_append text)
  simp only [List.length_append] at h
  simp only [readNumeral]
  omega

theorem length_readNumeral_cons_le {c : Char} (hc : isDigit c = true ∨ c = '.')
    (rest : List Char) : (readNumeral (c :: rest)).2.length ≤ rest.length := by
  by_cases hd : isDigit c = true
  · simp only [readNumeral, splitNumeral, List.dropWhile_cons, hd, if_true]
    split
    · rename_i tail h
      have hle := length_dropWhile_le isDigit rest
      have htail := length_dropWhile_le isDigit tail
      rw [h, List.length_cons] at hle
      simp only
      omega
    · exact length_dropWhile_le isDigit rest
  · have hdot : c = '.' := hc.resolve_left hd
    subst hdot
    simpa [readNumeral, splitNumeral, List.dropWhile_cons, hd] using
      length_dropWhile_le isDigit rest

theorem length_le_of_lexeme {previous : Option Token} {c : Char} {rest tail : List Char}
    {token : Token} (h : lexeme previous c rest = .ok (token, tail)) :
    tail.length ≤ rest.length := by
  unfold lexeme at h
  split at h
  · cases h
    exact Nat.le_refl _
  · split at h
    · cases h
      exact Nat.le_refl _
    · split at h
      · split at h
        · have hle := length_readNumeral_le (rest.dropWhile isBlank)
          have hblank := length_dropWhile_le isBlank rest
          split at h
          · rename_i hread
            rw [hread] at hle
            cases h
            exact Nat.le_trans hle hblank
          · cases h
        · cases h
          exact Nat.le_refl _
      · split at h
        · rename_i hstart
          have hle := length_readNumeral_cons_le hstart rest
          split at h
          · rename_i hread
            rw [hread] at hle
            cases h
            exact hle
          · cases h
        · split at h
          · cases h
            exact length_dropWhile_le isLetter rest
          · cases h

def scanAfter (previous : Option Token) (text : List Char) :
    Except LexicalFault (List Token) :=
  match _htext : text.dropWhile isBlank with
  | [] => .ok []
  | c :: rest =>
    match _hlexeme : lexeme previous c rest with
    | .ok (token, tail) => (scanAfter (some token) tail).map (token :: ·)
    | .error fault => .error fault
termination_by text.length
decreasing_by
  have hle := length_le_of_lexeme _hlexeme
  have hblank := length_dropWhile_le isBlank text
  rw [_htext, List.length_cons] at hblank
  omega

/-- The tokens of a text. White space around lexemes is skipped, also at either
end. -/
def scan (text : List Char) : Except LexicalFault (List Token) := scanAfter none text

theorem scanAfter_eq (previous : Option Token) (text : List Char) :
    scanAfter previous text =
      match text.dropWhile isBlank with
      | [] => .ok []
      | c :: rest =>
        match lexeme previous c rest with
        | .ok (token, tail) => (scanAfter (some token) tail).map (token :: ·)
        | .error fault => .error fault := by
  rw [scanAfter]
  split <;> rename_i htext
  · rw [htext]
  · rw [htext]
    split <;> rename_i hlexeme <;> simp [hlexeme]

end Reckoner.Token
