import Mathlib.Data.List.DropRight
import Mathlib.Data.List.TakeWhile
import Reckoner.Text.Letter

/-! # Runs of characters

The classes of characters are disjoint, and a run of one class ends where a
character of another begins. -/

namespace Reckoner.Text

theorem isDigit_iff {c : Char} : isDigit c = true ↔ 48 ≤ c.toNat ∧ c.toNat ≤ 57 := by
  simp only [isDigit, Bool.and_eq_true, decide_eq_true_eq, Char.le_def, UInt32.le_iff_toNat_le]
  exact Iff.rfl

theorem isBlank_of_isDigit {c : Char} (h : isDigit c = true) : isBlank c = false := by
  have key : ∀ n ∈ blanks.codePoints, ¬ (48 ≤ n ∧ n ≤ 57) := by decide
  cases hblank : isBlank c with
  | false => rfl
  | true => exact absurd (isDigit_iff.mp h) (key _ (isBlank_iff.mp hblank))

theorem isDigit_of_isBlank {c : Char} (h : isBlank c = true) : isDigit c = false := by
  cases hdigit : isDigit c with
  | false => rfl
  | true => exact absurd (isBlank_of_isDigit hdigit) (by simp [h])

theorem isBlank_of_isLetter {c : Char} (h : isLetter c = true) : isBlank c = false := by
  cases hblank : isBlank c with
  | false => rfl
  | true => exact absurd (isLetter_of_isBlank hblank) (by simp [h])

/-- The first letters are those of the basic alphabet. -/
theorem toNat_of_isLetter {c : Char} (h : isLetter c = true) (hc : c.toNat < 128) :
    65 ≤ c.toNat ∧ c.toNat ≤ 90 ∨ 97 ≤ c.toNat ∧ c.toNat ≤ 122 := by
  have key : ∀ r ∈ letters.ranges, r.1 < 128 → r = (65, 90) ∨ r = (97, 122) := by decide +kernel
  obtain ⟨r, hr, hlow, hhigh⟩ := CharSet.contains_iff.mp h
  rcases key r hr (Nat.lt_of_le_of_lt hlow hc) with rfl | rfl
  · exact .inl ⟨hlow, hhigh⟩
  · exact .inr ⟨hlow, hhigh⟩

theorem isDigit_of_isLetter {c : Char} (h : isLetter c = true) : isDigit c = false := by
  cases hdigit : isDigit c with
  | false => rfl
  | true =>
    have hrange := isDigit_iff.mp hdigit
    have hletter := toNat_of_isLetter h (by omega)
    omega

/-- The characters that are lexemes by themselves, and the point. -/
def marks : List Char := ['(', ')', '+', '-', '*', '/', '^', '.']

theorem class_of_mem_marks {c : Char} (h : c ∈ marks) :
    isBlank c = false ∧ isDigit c = false ∧ isLetter c = false := by
  have key : marks.all (fun c => !isBlank c && !isDigit c && (c.toNat < 65 || c.toNat == 94)) =
      true := by decide
  have hc := List.all_eq_true.mp key c h
  simp only [Bool.and_eq_true, Bool.not_eq_true', Bool.or_eq_true, decide_eq_true_eq,
    beq_iff_eq] at hc
  obtain ⟨⟨hblank, hdigit⟩, hplace⟩ := hc
  refine ⟨hblank, hdigit, ?_⟩
  cases hletter : isLetter c with
  | false => rfl
  | true =>
    have hrange := toNat_of_isLetter hletter (by omega)
    omega

section Runs
variable {p : Char → Bool} {rest : List Char}

theorem takeWhile_append_of_head? (h : ∀ c ∈ rest.head?, p c = false) (run : List Char) :
    (run ++ rest).takeWhile p = run.takeWhile p := by
  induction run with
  | nil =>
    cases rest with
    | nil => rfl
    | cons c rest => simp [h c rfl]
  | cons c run ih =>
    cases hc : p c <;> simp [hc, ih]

theorem dropWhile_append_of_head? (h : ∀ c ∈ rest.head?, p c = false) (run : List Char) :
    (run ++ rest).dropWhile p = run.dropWhile p ++ rest := by
  induction run with
  | nil =>
    cases rest with
    | nil => rfl
    | cons c rest => simp [h c rfl]
  | cons c run ih =>
    cases hc : p c <;> simp [hc, ih]

theorem takeWhile_run {run : List Char} (hrun : ∀ c ∈ run, p c = true)
    (hrest : ∀ c ∈ rest.head?, p c = false) : (run ++ rest).takeWhile p = run := by
  rw [takeWhile_append_of_head? hrest, List.takeWhile_eq_self_iff.mpr hrun]

theorem dropWhile_run {run : List Char} (hrun : ∀ c ∈ run, p c = true)
    (hrest : ∀ c ∈ rest.head?, p c = false) : (run ++ rest).dropWhile p = rest := by
  rw [dropWhile_append_of_head? hrest, List.dropWhile_eq_nil_iff.mpr hrun, List.nil_append]

theorem append_inj_of_runs {run other tail : List Char} (hrun : ∀ c ∈ run, p c = true)
    (hother : ∀ c ∈ other, p c = true) (hrest : ∀ c ∈ rest.head?, p c = false)
    (htail : ∀ c ∈ tail.head?, p c = false) (h : run ++ rest = other ++ tail) :
    run = other ∧ rest = tail := by
  have hfirst := congrArg (List.takeWhile p) h
  have hsecond := congrArg (List.dropWhile p) h
  rw [takeWhile_run hrun hrest, takeWhile_run hother htail] at hfirst
  rw [dropWhile_run hrun hrest, dropWhile_run hother htail] at hsecond
  exact ⟨hfirst, hsecond⟩

/-- The same for runs at the end. -/
theorem append_inj_of_trailing_runs {run other tail : List Char} (hrun : ∀ c ∈ run, p c = true)
    (hother : ∀ c ∈ other, p c = true) (hrest : ∀ c ∈ rest.getLast?, p c = false)
    (htail : ∀ c ∈ tail.getLast?, p c = false) (h : rest ++ run = tail ++ other) :
    rest = tail ∧ run = other := by
  have hreverse := congrArg List.reverse h
  rw [List.reverse_append, List.reverse_append] at hreverse
  rw [← List.head?_reverse] at hrest htail
  obtain ⟨hruns, hrests⟩ := append_inj_of_runs (fun c hc => hrun c (List.mem_reverse.mp hc))
    (fun c hc => hother c (List.mem_reverse.mp hc)) hrest htail hreverse
  exact ⟨List.reverse_injective hrests, List.reverse_injective hruns⟩

/-- A run that has ended in a text ends there whatever is put after the text. -/
theorem takeWhile_append_of_ended {text : List Char} (h : text.dropWhile p ≠ [])
    (tail : List Char) : (text ++ tail).takeWhile p = text.takeWhile p := by
  induction text with
  | nil => exact absurd rfl h
  | cons c text ih =>
    cases hc : p c with
    | true =>
      rw [List.dropWhile_cons, if_pos hc] at h
      simp [hc, ih h]
    | false => simp [hc]

theorem dropWhile_append_of_ended {text : List Char} (h : text.dropWhile p ≠ [])
    (tail : List Char) : (text ++ tail).dropWhile p = text.dropWhile p ++ tail := by
  rw [List.dropWhile_append, if_neg (by simpa using h)]

theorem head?_dropWhile (text : List Char) : ∀ c ∈ (text.dropWhile p).head?, p c = false := by
  intro c hc
  have h := List.head?_dropWhile_not p text
  rw [hc] at h
  exact h

end Runs

theorem dropTrailing_eq_rdropWhile (p : Char → Bool) (text : List Char) :
    dropTrailing p text = text.rdropWhile p := rfl

theorem dropTrailing_append_of_all {p : Char → Bool} {gap : List Char} (h : ∀ c ∈ gap, p c = true)
    (text : List Char) : dropTrailing p (text ++ gap) = dropTrailing p text := by
  unfold dropTrailing
  rw [List.reverse_append, List.dropWhile_append_of_pos]
  intro c hc
  exact h c (List.mem_reverse.mp hc)

theorem trim_eq_nil_iff {text : List Char} : trim text = [] ↔ ∀ c ∈ text, isBlank c = true := by
  rw [← List.dropWhile_eq_nil_iff, trim, dropTrailing_eq_rdropWhile]
  constructor
  · intro h
    have hall := List.rdropWhile_eq_nil_iff.mp h
    cases hdrop : text.dropWhile isBlank with
    | nil => rfl
    | cons c rest =>
      have hc : isBlank c = false := head?_dropWhile text c (by rw [hdrop]; rfl)
      rw [hall c (by rw [hdrop]; simp)] at hc
      cases hc
  · intro h
    rw [h]
    rfl

theorem trim_ne_nil_iff {text : List Char} : trim text ≠ [] ↔ ∃ c ∈ text, isBlank c = false := by
  rw [ne_eq, trim_eq_nil_iff]
  simp

theorem trim_append_of_all {gap : List Char} (h : ∀ c ∈ gap, isBlank c = true) (text : List Char) :
    trim (text ++ gap) = trim text := by
  rw [trim, trim]
  cases hrest : text.dropWhile isBlank with
  | nil =>
    have htext : ∀ c ∈ text, isBlank c = true := List.dropWhile_eq_nil_iff.mp hrest
    have hall : ∀ c ∈ text ++ gap, isBlank c = true := by
      intro c hc
      exact (List.mem_append.mp hc).elim (htext c) (h c)
    rw [List.dropWhile_eq_nil_iff.mpr hall]
  | cons c rest =>
    rw [dropWhile_append_of_ended (by simp [hrest]), hrest, dropTrailing_append_of_all h]

theorem trim_trim (text : List Char) : trim (trim text) = trim text := by
  have hprefix : trim text <+: text.dropWhile isBlank := List.rdropWhile_prefix isBlank _
  obtain ⟨gap, hgap⟩ := hprefix
  have hhead : ∀ c ∈ (trim text).head?, isBlank c = false := by
    intro c hc
    apply head?_dropWhile text c
    rw [← hgap, List.head?_append, Option.mem_def.mp hc]
    rfl
  have hstart : ([] ++ trim text).dropWhile isBlank = trim text := dropWhile_run nofun hhead
  change dropTrailing isBlank (([] ++ trim text).dropWhile isBlank) = trim text
  rw [hstart]
  exact List.rdropWhile_idempotent isBlank _

end Reckoner.Text
