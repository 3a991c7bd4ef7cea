import Reckoner.Proofs.Canonical

/-! # Written fractions

A fraction is written in lowest terms: a numerator and, unless it is an integer, a slash and
a denominator, with a sign in front of what is less than zero. Such a text denotes one
number, and that of a number denotes it. -/

namespace Reckoner.Fraction
open Number Numeral Text

/-- The digits of a natural number, with no zero in front of other digits. -/
structure Spells (run : List Char) (n : Nat) : Prop where
  isDigit : ∀ c ∈ run, isDigit c = true
  leading : Leading run
  wholeValue : wholeValue run = n

theorem spells_digits (n : Nat) : Spells (digits n) n where
  isDigit _ hc := isDigit_of_mem_digits hc
  leading := leading_digits n
  wholeValue := wholeValue_digits n

/-- The text of a fraction without its sign. -/
inductive Magnitude : List Char → Rat → Prop where
  | whole {run : List Char} {n : Nat} (h : Spells run n) : Magnitude run n
  | ratio {above below : List Char} {n d : Nat} (habove : Spells above n) (hbelow : Spells below d)
      (hlowest : n.Coprime d) (hd : 1 < d) : Magnitude (above ++ '/' :: below) (n / d)

inductive Denotes : List Char → Rat → Prop where
  | magnitude {text : List Char} {r : Rat} (h : Magnitude text r) : Denotes text r
  | minus {text : List Char} {r : Rat} (h : Magnitude text r) (hr : 0 < r) :
      Denotes ('-' :: text) (-r)

def mark (c : Char) : Bool := isDigit c || c == '/' || c == '-'

theorem mark_of_isDigit {c : Char} (h : isDigit c = true) : mark c = true := by
  simp [mark, h]

section Reading
variable {text other : List Char} {r s : Rat}

theorem Magnitude.isDigit_or_eq (h : Magnitude text r) :
    ∀ c ∈ text, isDigit c = true ∨ c = '/' := by
  cases h with
  | whole h => exact fun c hc => .inl (h.isDigit c hc)
  | ratio habove hbelow _ _ =>
    intro c hc
    rcases List.mem_append.mp hc with hc | hc
    · exact .inl (habove.isDigit c hc)
    · rcases List.mem_cons.mp hc with rfl | hc
      · exact .inr rfl
      · exact .inl (hbelow.isDigit c hc)

theorem Magnitude.minus_not_mem (h : Magnitude text r) : '-' ∉ text := by
  intro hminus
  rcases h.isDigit_or_eq _ hminus with hdigit | hslash
  · exact absurd hdigit (by decide)
  · exact absurd hslash (by decide)

theorem Magnitude.ne_nil (h : Magnitude text r) : text ≠ [] := by
  cases h with
  | whole h => exact h.leading.ne_nil
  | ratio => simp

theorem Denotes.mark (h : Denotes text r) : ∀ c ∈ text, mark c = true := by
  have hmagnitude : ∀ {text r}, Magnitude text r → ∀ c ∈ text, Fraction.mark c = true := by
    intro text r h c hc
    rcases h.isDigit_or_eq c hc with hdigit | rfl
    · exact mark_of_isDigit hdigit
    · rfl
  cases h with
  | magnitude h => exact hmagnitude h
  | minus h _ => exact List.forall_mem_cons.mpr ⟨rfl, hmagnitude h⟩

theorem Denotes.ne_nil (h : Denotes text r) : text ≠ [] := by
  cases h with
  | magnitude h => exact h.ne_nil
  | minus _ _ => exact List.cons_ne_nil _ _

theorem Magnitude.unique (h : Magnitude text r) (h' : Magnitude text s) : r = s := by
  have hslash : ∀ {run above below : List Char} {n : Nat}, Spells run n →
      run ≠ above ++ '/' :: below := by
    rintro run above below n hrun rfl
    have hdigit := hrun.isDigit '/' (by simp)
    exact absurd hdigit (by decide)
  generalize htext : text = other at h'
  cases h with
  | whole h =>
    cases h' with
    | whole h' => rw [← h.wholeValue, ← h'.wholeValue, htext]
    | ratio => exact absurd htext (hslash h)
  | ratio habove hbelow _ _ =>
    cases h' with
    | whole h' => exact absurd htext.symm (hslash h')
    | ratio habove' hbelow' _ _ =>
      obtain ⟨hruns, hrests⟩ := append_inj_of_runs habove.isDigit habove'.isDigit
        (by simp [isDigit]) (by simp [isDigit]) htext
      rw [← habove.wholeValue, ← habove'.wholeValue, ← hbelow.wholeValue, ← hbelow'.wholeValue,
        hruns, List.tail_eq_of_cons_eq hrests]

/-- A text denotes one number. -/
theorem Denotes.unique (h : Denotes text r) (h' : Denotes text s) : r = s := by
  generalize htext : text = other at h'
  cases h with
  | magnitude h =>
    cases h' with
    | magnitude h' => exact (htext ▸ h).unique h'
    | minus h' _ =>
      rw [htext] at h
      exact absurd List.mem_cons_self h.minus_not_mem
  | minus h _ =>
    cases h' with
    | magnitude h' =>
      rw [← htext] at h'
      exact absurd List.mem_cons_self h'.minus_not_mem
    | minus h' _ =>
      rw [List.tail_eq_of_cons_eq htext] at h
      rw [h.unique h']

end Reading

theorem magnitude_write (r : Rat) :
    Magnitude (digits r.num.natAbs ++ if r.den = 1 then [] else '/' :: digits r.den) |r| := by
  rw [Binary64.abs_eq_ratio]
  by_cases hden : r.den = 1
  · rw [if_pos hden, List.append_nil, hden, Nat.cast_one, div_one]
    exact .whole (spells_digits _)
  · rw [if_neg hden]
    have hpos := r.den_pos
    exact .ratio (spells_digits _) (spells_digits _) r.reduced (by omega)

theorem denotes_write (r : Rat) : Denotes (write r) r := by
  have hmagnitude := magnitude_write r
  rw [write, List.append_assoc]
  by_cases hr : r < 0
  · rw [if_pos hr]
    rw [abs_of_neg hr] at hmagnitude
    have hminus := Denotes.minus hmagnitude (neg_pos.mpr hr)
    rwa [neg_neg] at hminus
  · rw [if_neg hr]
    rw [abs_of_nonneg (not_lt.mp hr)] at hmagnitude
    exact .magnitude hmagnitude

end Reckoner.Fraction
