import Mathlib.Data.List.Basic
import Reckoner.Console

/-! # Lines and their texts

What the lines of an input are, said without the function that cuts them: each ends at
the first line feed in it, and bytes after the last line feed are one more line. A line
is read as the text that it encodes, of which there is at most one. -/

namespace Reckoner.Text

/-- The bytes are these lines one after the other. No line has a line feed before its
end, and only the last may have none at its end. -/
inductive CutInto : List UInt8 → List (List UInt8) → Prop where
  | nil : CutInto [] []
  | unended {line : List UInt8} (hne : line ≠ []) (hline : lineFeed ∉ line) :
      CutInto line [line]
  | ended {line bytes : List UInt8} {rest : List (List UInt8)} (hline : lineFeed ∉ line)
      (h : CutInto bytes rest) :
      CutInto (line ++ lineFeed :: bytes) ((line ++ [lineFeed]) :: rest)

theorem lines_of_not_mem {line : List UInt8} (hne : line ≠ []) (hline : lineFeed ∉ line) :
    lines line = [line] := by
  induction line with
  | nil => exact absurd rfl hne
  | cons byte line ih =>
    rw [List.mem_cons, not_or] at hline
    rw [lines, if_neg (Ne.symm hline.1)]
    cases line with
    | nil => rfl
    | cons next line => rw [ih (List.cons_ne_nil next line) hline.2]

theorem lines_append_lineFeed {line : List UInt8} (hline : lineFeed ∉ line)
    (bytes : List UInt8) :
    lines (line ++ lineFeed :: bytes) = (line ++ [lineFeed]) :: lines bytes := by
  induction line with
  | nil => rfl
  | cons byte line ih =>
    rw [List.mem_cons, not_or] at hline
    rw [List.cons_append, lines, if_neg (Ne.symm hline.1), ih hline.2]
    rfl

theorem cutInto_lines (bytes : List UInt8) : CutInto bytes (lines bytes) := by
  induction hlength : bytes.length using Nat.strongRecOn generalizing bytes with
  | ind length ih =>
    by_cases hfeed : lineFeed ∈ bytes
    · obtain ⟨line, rest, rfl, hline⟩ := List.eq_append_cons_of_mem hfeed
      rw [List.length_append, List.length_cons] at hlength
      rw [lines_append_lineFeed hline]
      exact .ended hline (ih rest.length (by omega) rest rfl)
    · by_cases hne : bytes = []
      · subst bytes
        exact .nil
      · rw [lines_of_not_mem hne hfeed]
        exact .unended hne hfeed

theorem cutInto_iff {bytes : List UInt8} {cut : List (List UInt8)} :
    CutInto bytes cut ↔ lines bytes = cut := by
  constructor
  · intro h
    induction h with
    | nil => rfl
    | unended hne hline => exact lines_of_not_mem hne hline
    | ended hline _ ih => rw [lines_append_lineFeed hline, ih]
  · intro h
    subst cut
    exact cutInto_lines bytes

def Encodes (text : List Char) (bytes : List UInt8) : Prop :=
  text.flatMap String.utf8EncodeChar = bytes

theorem decode?_of_encodes {text : List Char} {bytes : List UInt8} (h : Encodes text bytes) :
    decode? bytes = some text := by
  have hbytes : bytes.toByteArray = (String.ofList text).toByteArray := by
    rw [← h, String.toByteArray_ofList, List.utf8Encode]
  have hvalid : bytes.toByteArray.IsValidUTF8 := hbytes ▸ (String.ofList text).isValidUTF8
  have hstring : String.fromUTF8 bytes.toByteArray hvalid = String.ofList text :=
    String.toByteArray_inj.mp hbytes
  rw [decode?, String.fromUTF8?, dif_pos hvalid, hstring, Option.map_some, String.toList_ofList]

theorem exists_encodes_iff {bytes : List UInt8} :
    (∃ text, Encodes text bytes) ↔ bytes.toByteArray.IsValidUTF8 := by
  constructor
  · intro h
    obtain ⟨text, rfl⟩ := h
    exact .intro text rfl
  · intro h
    obtain ⟨text, htext⟩ := h
    exact ⟨text, (List.toByteArray_inj.mp htext).symm⟩

theorem decode?_eq_none_iff {bytes : List UInt8} :
    decode? bytes = none ↔ ∀ text, ¬ Encodes text bytes := by
  rw [← not_exists, exists_encodes_iff, decode?, String.fromUTF8?]
  split <;> simp [*]

/-- No other character has a line feed among its bytes: those of a longer form have their
highest bit set. -/
theorem eq_newline_of_lineFeed_mem {c : Char} (h : lineFeed ∈ String.utf8EncodeChar c) :
    c = '\n' := by
  have hbyte : ∀ n, lineFeed = UInt8.ofNat n → n % 256 = 10 := by
    intro n hn
    have hnat := congrArg UInt8.toNat hn
    rw [UInt8.toNat_ofNat'] at hnat
    exact hnat.symm
  simp only [String.utf8EncodeChar] at h
  split at h
  · have hc := hbyte _ (List.mem_singleton.mp h)
    have hvalue : c.val.toNat = 10 := by omega
    exact Char.toNat_inj.mp hvalue
  · have hlong : ∃ n, 128 ≤ n ∧ n < 256 ∧ lineFeed = UInt8.ofNat n := by
      split at h
      · simp only [List.mem_cons, List.not_mem_nil, or_false] at h
        rcases h with h | h <;> exact ⟨_, by omega, by omega, h⟩
      · split at h
        · simp only [List.mem_cons, List.not_mem_nil, or_false] at h
          rcases h with h | h | h <;> exact ⟨_, by omega, by omega, h⟩
        · simp only [List.mem_cons, List.not_mem_nil, or_false] at h
          rcases h with h | h | h | h <;> exact ⟨_, by omega, by omega, h⟩
    obtain ⟨n, hlow, hhigh, hn⟩ := hlong
    have hrest := hbyte n hn
    omega

theorem lineFeed_not_mem_of_encodes {text : List Char} {line : List UInt8}
    (h : Encodes text line) (htext : '\n' ∉ text) : lineFeed ∉ line := by
  intro hline
  rw [← h] at hline
  obtain ⟨c, hc, hbyte⟩ := List.mem_flatMap.mp hline
  rw [eq_newline_of_lineFeed_mem hbyte] at hc
  exact htext hc

/-- The bytes are the texts one after the other, each but perhaps the last with a line feed
after it. -/
inductive Typed : List (List Char) → List UInt8 → Prop where
  | nil : Typed [] []
  | unended {text : List Char} {line : List UInt8} (htext : Encodes text line) :
      Typed [text] line
  | ended {text : List Char} {texts : List (List Char)} {line bytes : List UInt8}
      (htext : Encodes text line) (h : Typed texts bytes) :
      Typed (text :: texts) (line ++ lineFeed :: bytes)

/-- The line is the text, with or without a line feed after it. -/
def Holds (text : List Char) (line : List UInt8) : Prop :=
  Encodes text line ∨ Encodes (text ++ ['\n']) line

theorem holds_append_lineFeed {text : List Char} {line : List UInt8} (h : Encodes text line) :
    Holds text (line ++ [lineFeed]) := by
  refine .inr ?_
  rw [Encodes, List.flatMap_append, h]
  rfl

theorem Typed.forall₂_holds {texts : List (List Char)} {bytes : List UInt8}
    (h : Typed texts bytes) (htexts : ∀ text ∈ texts, text ≠ [] ∧ '\n' ∉ text) :
    List.Forall₂ Holds texts (lines bytes) := by
  induction h with
  | nil => exact .nil
  | @unended text line htext =>
    obtain ⟨hne, hnewline⟩ := htexts text (by simp)
    have hline : line ≠ [] := by
      intro hnil
      rw [hnil] at htext
      have hempty := decode?_of_encodes htext
      have hnone : decode? [] = some [] := decode?_of_encodes rfl
      exact hne (Option.some.inj (hempty.symm.trans hnone))
    rw [lines_of_not_mem hline (lineFeed_not_mem_of_encodes htext hnewline)]
    exact .cons (.inl htext) .nil
  | @ended text texts line bytes htext _ ih =>
    have hnewline := (htexts text (by simp)).2
    rw [lines_append_lineFeed (lineFeed_not_mem_of_encodes htext hnewline)]
    exact .cons (holds_append_lineFeed htext)
      (ih fun other hother => htexts other (by simp [hother]))

end Reckoner.Text
