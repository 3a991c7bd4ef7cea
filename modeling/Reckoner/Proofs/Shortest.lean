import Mathlib.Algebra.Order.Field.Basic
import Mathlib.Tactic.Linarith
import Reckoner.Proofs.Numeral

/-! # Shortest literals

A literal is as short as it can be if it has no zero in front of other digits, none at the
end of its fraction and no point without digits after it. Such a literal is determined by
its value: the digits before the point by the length that their value asks for, those
after it one by one. -/

namespace Reckoner.Numeral
open Text

section Digits
variable {c d : Char}

theorem digitValue_le (h : isDigit c = true) : digitValue c ≤ 9 := by
  have hrange := isDigit_iff.mp h
  have hzero : '0'.toNat = 48 := rfl
  rw [digitValue, hzero]
  omega

theorem eq_of_digitValue_eq (hc : isDigit c = true) (hd : isDigit d = true)
    (h : digitValue c = digitValue d) : c = d := by
  have hcrange := isDigit_iff.mp hc
  have hdrange := isDigit_iff.mp hd
  have hzero : '0'.toNat = 48 := rfl
  rw [digitValue, digitValue, hzero] at h
  have hplace : c.toNat = d.toNat := by omega
  exact Char.toNat_inj.mp hplace

theorem digitValue_pos (hc : isDigit c = true) (h : c ≠ '0') : 0 < digitValue c := by
  apply Nat.pos_of_ne_zero
  intro hvalue
  exact h (eq_of_digitValue_eq hc (by decide) hvalue)

end Digits

section Whole
variable {run first second : List Char}

theorem wholeValue_lt (h : ∀ c ∈ run, isDigit c = true) : wholeValue run < 10 ^ run.length := by
  induction run with
  | nil => simp [wholeValue]
  | cons c run ih =>
    obtain ⟨hc, hrun⟩ := List.forall_mem_cons.mp h
    calc wholeValue (c :: run) = digitValue c * 10 ^ run.length + wholeValue run := rfl
      _ < digitValue c * 10 ^ run.length + 10 ^ run.length := Nat.add_lt_add_left (ih hrun) _
      _ = (digitValue c + 1) * 10 ^ run.length := (Nat.succ_mul _ _).symm
      _ ≤ 10 * 10 ^ run.length := Nat.mul_le_mul_right _ (Nat.succ_le_succ (digitValue_le hc))
      _ = 10 ^ (c :: run).length := by rw [List.length_cons, Nat.pow_succ']

/-- The first digit of a run is its value in units of that digit's place. -/
theorem wholeValue_cons_div {c : Char} (h : ∀ c ∈ run, isDigit c = true) :
    wholeValue (c :: run) / 10 ^ run.length = digitValue c := by
  have hpos : 0 < 10 ^ run.length := Nat.pow_pos (by decide)
  rw [wholeValue, Nat.mul_comm, Nat.mul_add_div hpos, Nat.div_eq_of_lt (wholeValue_lt h),
    Nat.add_zero]

theorem eq_of_wholeValue_eq (hfirst : ∀ c ∈ first, isDigit c = true)
    (hsecond : ∀ c ∈ second, isDigit c = true) (hlength : first.length = second.length)
    (h : wholeValue first = wholeValue second) : first = second := by
  induction first generalizing second with
  | nil => exact (List.length_eq_zero_iff.mp hlength.symm).symm
  | cons c first ih =>
    obtain ⟨d, second, rfl⟩ := List.exists_cons_of_length_eq_add_one hlength.symm
    obtain ⟨hc, hfirst⟩ := List.forall_mem_cons.mp hfirst
    obtain ⟨hd, hsecond⟩ := List.forall_mem_cons.mp hsecond
    have hrest : first.length = second.length := by simpa using hlength
    have hdigit : digitValue c = digitValue d :=
      calc digitValue c = wholeValue (c :: first) / 10 ^ first.length :=
            (wholeValue_cons_div hfirst).symm
        _ = wholeValue (d :: second) / 10 ^ second.length := by rw [h, hrest]
        _ = digitValue d := wholeValue_cons_div hsecond
    rw [wholeValue, wholeValue, hrest, hdigit, Nat.add_left_cancel_iff] at h
    rw [eq_of_digitValue_eq hc hd hdigit, ih hfirst hsecond hrest h]

/-- No zero in front of other digits, and a zero where there are no others. -/
def Leading (run : List Char) : Prop := run = ['0'] ∨ ∃ c ∈ run.head?, c ≠ '0'

theorem Leading.ne_nil (h : Leading run) : run ≠ [] := by
  rintro rfl
  simp [Leading] at h

theorem pow_le_wholeValue (hdigits : ∀ c ∈ run, isDigit c = true)
    (h : ∃ c ∈ run.head?, c ≠ '0') : 10 ^ (run.length - 1) ≤ wholeValue run := by
  obtain ⟨c, hc, hne⟩ := h
  obtain ⟨rest, rfl⟩ := List.head?_eq_some_iff.mp hc
  have hpos := digitValue_pos (hdigits c (by simp)) hne
  have hmul : 1 * 10 ^ rest.length ≤ digitValue c * 10 ^ rest.length :=
    Nat.mul_le_mul_right _ hpos
  rw [wholeValue, List.length_cons, Nat.add_sub_cancel]
  omega

theorem length_le_of_wholeValue_le (hfirst : ∀ c ∈ first, isDigit c = true)
    (hsecond : ∀ c ∈ second, isDigit c = true) (hleading : Leading first)
    (hne : second ≠ []) (h : wholeValue first ≤ wholeValue second) :
    first.length ≤ second.length := by
  have hpos := List.length_pos_iff.mpr hne
  rcases hleading with rfl | hhead
  · exact hpos
  · have hpow : 10 ^ (first.length - 1) < 10 ^ second.length :=
      ((pow_le_wholeValue hfirst hhead).trans h).trans_lt (wholeValue_lt hsecond)
    have hlt := (Nat.pow_lt_pow_iff_right (by decide)).mp hpow
    omega

theorem Leading.eq (hfirst : ∀ c ∈ first, isDigit c = true)
    (hsecond : ∀ c ∈ second, isDigit c = true) (hl : Leading first) (hl' : Leading second)
    (h : wholeValue first = wholeValue second) : first = second := by
  apply eq_of_wholeValue_eq hfirst hsecond _ h
  exact (length_le_of_wholeValue_le hfirst hsecond hl hl'.ne_nil h.le).antisymm
    (length_le_of_wholeValue_le hsecond hfirst hl' hl.ne_nil h.ge)

end Whole

section Fraction
variable {run first second : List Char}

theorem fractionValue_nonneg (run : List Char) : 0 ≤ fractionValue run := by
  rw [fractionValue_eq]
  positivity

theorem fractionValue_lt_one (h : ∀ c ∈ run, isDigit c = true) : fractionValue run < 1 := by
  rw [fractionValue_eq, div_lt_one (by positivity)]
  exact_mod_cast wholeValue_lt h

/-- A number has one whole part and one fraction below one. -/
theorem natCast_add_inj {x y : Nat} {a b : Rat} (ha : 0 ≤ a) (ha' : a < 1) (hb : 0 ≤ b)
    (hb' : b < 1) (h : x + a = y + b) : x = y ∧ a = b := by
  have hxy : (x : Rat) < (y + 1 : Nat) := by
    push_cast
    linarith
  have hyx : (y : Rat) < (x + 1 : Nat) := by
    push_cast
    linarith
  have hle : x ≤ y := Nat.lt_succ_iff.mp (Nat.cast_lt.mp hxy)
  have hge : y ≤ x := Nat.lt_succ_iff.mp (Nat.cast_lt.mp hyx)
  have heq : x = y := hle.antisymm hge
  rw [heq, add_right_inj] at h
  exact ⟨heq, h⟩

def Trimmed (run : List Char) : Prop := ∀ c ∈ run.getLast?, c ≠ '0'

theorem Trimmed.tail {c : Char} (h : Trimmed (c :: run)) : Trimmed run := by
  cases run with
  | nil => nofun
  | cons d run => simpa [Trimmed] using h

theorem fractionValue_pos (hdigits : ∀ c ∈ run, isDigit c = true) (h : Trimmed run)
    (hne : run ≠ []) : 0 < fractionValue run := by
  induction run with
  | nil => exact absurd rfl hne
  | cons c run ih =>
    obtain ⟨hc, hrun⟩ := List.forall_mem_cons.mp hdigits
    have hrest := fractionValue_nonneg run
    have hhead : (0 : Rat) ≤ digitValue c := Nat.cast_nonneg _
    rw [fractionValue]
    cases run with
    | nil =>
      have hpos : (0 : Rat) < digitValue c := by exact_mod_cast digitValue_pos hc (h c rfl)
      linarith
    | cons d run =>
      have hpos := ih hrun h.tail (List.cons_ne_nil d run)
      linarith

theorem Trimmed.eq (hfirst : ∀ c ∈ first, isDigit c = true)
    (hsecond : ∀ c ∈ second, isDigit c = true) (ht : Trimmed first) (ht' : Trimmed second)
    (h : fractionValue first = fractionValue second) : first = second := by
  induction first generalizing second with
  | nil =>
    by_contra hne
    exact (fractionValue_pos hsecond ht' (Ne.symm hne)).ne h
  | cons c first ih =>
    cases second with
    | nil => exact absurd h (fractionValue_pos hfirst ht (List.cons_ne_nil c first)).ne'
    | cons d second =>
      obtain ⟨hc, hfirst⟩ := List.forall_mem_cons.mp hfirst
      obtain ⟨hd, hsecond⟩ := List.forall_mem_cons.mp hsecond
      rw [fractionValue, fractionValue, div_left_inj' (by norm_num)] at h
      obtain ⟨hdigit, hrest⟩ := natCast_add_inj (fractionValue_nonneg first)
        (fractionValue_lt_one hfirst) (fractionValue_nonneg second)
        (fractionValue_lt_one hsecond) h
      rw [eq_of_digitValue_eq hc hd hdigit, ih hfirst hsecond ht.tail ht'.tail hrest]

end Fraction

theorem value_nonneg (n : Numeral) : 0 ≤ n.value :=
  add_nonneg (Nat.cast_nonneg _) (fractionValue_nonneg _)

/-- The form `(0|[1-9][0-9]*)(\.[0-9]*[1-9])?`. -/
structure Shortest (n : Numeral) : Prop where
  whole : Leading n.whole
  fraction : ∀ run ∈ n.fraction?, run ≠ [] ∧ Trimmed run

theorem shortest_zero : (digit '0' rfl).Shortest := ⟨.inl rfl, nofun⟩

namespace Shortest
variable {m n : Numeral}

theorem trimmed_fraction (h : n.Shortest) : Trimmed n.fraction := by
  cases hfraction : n.fraction? with
  | none =>
    intro c hc
    simp [Numeral.fraction, hfraction] at hc
  | some run => simpa [Numeral.fraction, hfraction] using (h.fraction run hfraction).2

theorem pointed_eq (hm : m.Shortest) (hn : n.Shortest) (h : m.fraction = n.fraction) :
    m.pointed = n.pointed := by
  have hpointed : ∀ {n : Numeral}, n.Shortest →
      n.pointed = if n.fraction = [] then [] else '.' :: n.fraction := by
    intro n hn
    cases hfraction : n.fraction? with
    | none => simp [pointed, Numeral.fraction, hfraction]
    | some run => simp [pointed, Numeral.fraction, hfraction, (hn.fraction run hfraction).1]
  rw [hpointed hm, hpointed hn, h]

theorem text_eq (hm : m.Shortest) (hn : n.Shortest) (h : m.value = n.value) :
    m.text = n.text := by
  have hless : fractionValue m.fraction < 1 := fractionValue_lt_one m.isDigit_fraction
  have hless' : fractionValue n.fraction < 1 := fractionValue_lt_one n.isDigit_fraction
  obtain ⟨hwhole, hfraction⟩ := natCast_add_inj (fractionValue_nonneg m.fraction) hless
    (fractionValue_nonneg n.fraction) hless' h
  have hsame : m.fraction = n.fraction :=
    hm.trimmed_fraction.eq m.isDigit_fraction n.isDigit_fraction hn.trimmed_fraction hfraction
  rw [text, text, hm.whole.eq m.isDigit_whole n.isDigit_whole hn.whole hwhole,
    hm.pointed_eq hn hsame]

end Shortest

end Reckoner.Numeral
