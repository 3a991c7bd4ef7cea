import Reckoner.Text.CharSet

/-! # White space

The characters with the Unicode property White_Space, and the trimming of a
text at either end. -/

namespace Reckoner.Text

def blanks : CharSet := ⟨[
    (0x9, 0xD), (0x20, 0x20), (0x85, 0x85), (0xA0, 0xA0), (0x1680, 0x1680), (0x2000, 0x200A),
    (0x2028, 0x2029), (0x202F, 0x202F), (0x205F, 0x205F), (0x3000, 0x3000)]⟩

def isBlank (c : Char) : Bool := blanks.contains c

/-- The text without the longest run of characters in `p` at its end. -/
def dropTrailing (p : Char → Bool) (text : List Char) : List Char :=
  (text.reverse.dropWhile p).reverse

def trim (text : List Char) : List Char :=
  dropTrailing isBlank (text.dropWhile isBlank)

theorem dropTrailing_append_of_pos {p : Char → Bool} {c : Char} (h : p c = true)
    (text : List Char) : dropTrailing p (text ++ [c]) = dropTrailing p text := by
  simp [dropTrailing, h]

theorem dropTrailing_append_of_neg {p : Char → Bool} {c : Char} (h : p c = false)
    (text : List Char) : dropTrailing p (text ++ [c]) = text ++ [c] := by
  simp [dropTrailing, h]

/-- White space is one of twenty-five characters. -/
theorem isBlank_iff {c : Char} : isBlank c = true ↔ c.toNat ∈ blanks.codePoints :=
  CharSet.mem_codePoints_iff.symm

end Reckoner.Text
