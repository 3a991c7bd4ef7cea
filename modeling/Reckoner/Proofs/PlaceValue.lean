import Mathlib.Algebra.BigOperators.Fin
import Reckoner.Proofs.Numeral

/-! # Place value

A decimal literal told by its characters alone: digits with at most one point, where each
digit counts a power of ten that its distance from the point gives. The two readers know
nothing of places: they cut the text at the point and take its digits in order. Yet one
accepts just these literals with just this value, and the other takes the longest run of
such characters wherever it begins. -/

namespace Reckoner.Numeral
open Text

/-- Digits with at most one point before, among or after them, and maybe no digit. -/
structure Figures (text : List Char) : Prop where
  characters : ∀ c ∈ text, isDigit c = true ∨ c = '.'
  count_point : text.count '.' ≤ 1

/-- Figures with a digit among them. -/
structure Literal (text : List Char) : Prop extends Figures text where
  digit : ∃ c ∈ text, isDigit c = true

/-- The longest of the beginnings of a text that are figures. -/
structure Longest (text run : List Char) : Prop where
  begins : run <+: text
  figures : Figures run
  longest : ∀ other, other <+: text → Figures other → other.length ≤ run.length

/-- The power of ten that a digit at `i` counts if the point is at `point`: ones stand
right before the point, tenths right after it. -/
def place (point : Int) (i : Nat) : Int := if i < point then point - 1 - i else point - i

/-- The digits of a text times their powers of ten, with the point at `point`. -/
def sumByPlace (point : Int) (text : List Char) : Rat :=
  ∑ i : Fin text.length,
    if isDigit text[i] then (digitValue text[i] : Rat) * 10 ^ place point i else 0

/-- The value of a text by its own first point. A text without one counts as if it stood at
the end. -/
def placeValue (text : List Char) : Rat := sumByPlace (text.idxOf '.') text

def beforePoint (text : List Char) : List Char := text.takeWhile (· != '.')

def afterPoint (text : List Char) : List Char := (text.dropWhile (· != '.')).drop 1

section Figures
variable {first second run tail text : List Char}

theorem ne_point {c : Char} (h : isDigit c = true) : c ≠ '.' :=
  bne_iff_ne.mp (ne_point_of_isDigit h)

theorem point_not_mem (h : ∀ c ∈ run, isDigit c = true) : '.' ∉ run :=
  fun hmem => ne_point (h '.' hmem) rfl

theorem Figures.nil : Figures [] := ⟨nofun, Nat.zero_le 1⟩

theorem Figures.point (h : ∀ c ∈ run, isDigit c = true) : Figures ('.' :: run) where
  characters := by simpa using fun c hc => .inl (h c hc)
  count_point := by simp [List.count_eq_zero.mpr (point_not_mem h)]

theorem Figures.append (hrun : ∀ c ∈ run, isDigit c = true) (h : Figures tail) :
    Figures (run ++ tail) where
  characters := by
    intro c hc
    rcases List.mem_append.mp hc with hc | hc
    · exact .inl (hrun c hc)
    · exact h.characters c hc
  count_point := by
    rw [List.count_append, List.count_eq_zero.mpr (point_not_mem hrun), Nat.zero_add]
    exact h.count_point

theorem Figures.of_begins (h : Figures text) (hrun : run <+: text) : Figures run where
  characters := fun c hc => h.characters c (hrun.subset hc)
  count_point := (hrun.sublist.count_le '.').trans h.count_point

theorem Literal.perm (h : Literal first) (hperm : first.Perm second) : Literal second where
  characters := fun c hc => h.characters c (hperm.mem_iff.mpr hc)
  count_point := hperm.count_eq '.' ▸ h.count_point
  digit := by
    obtain ⟨c, hc, hdigit⟩ := h.digit
    exact ⟨c, hperm.mem_iff.mp hc, hdigit⟩

theorem Literal.append (hrun : ∀ c ∈ run, isDigit c = true) (h : Literal tail) :
    Literal (run ++ tail) where
  toFigures := .append hrun h.toFigures
  digit := by
    obtain ⟨c, hc, hdigit⟩ := h.digit
    exact ⟨c, List.mem_append_right run hc, hdigit⟩

end Figures

section Point
variable {text : List Char}

theorem cut_at_point (text : List Char) :
    text = beforePoint text ∧ afterPoint text = [] ∨
      text = beforePoint text ++ '.' :: afterPoint text := by
  have hcut : beforePoint text ++ text.dropWhile (· != '.') = text :=
    List.takeWhile_append_dropWhile
  have hhead := head?_dropWhile (p := (· != '.')) text
  rw [afterPoint]
  cases htail : text.dropWhile (· != '.') with
  | nil =>
    rw [htail, List.append_nil] at hcut
    exact .inl ⟨hcut.symm, rfl⟩
  | cons c rest =>
    rw [htail] at hcut hhead
    have hc : c = '.' := by simpa using hhead c rfl
    rw [hc] at hcut
    exact .inr hcut.symm

theorem mem_cut_iff {c : Char} (hc : c ≠ '.') :
    c ∈ beforePoint text ++ afterPoint text ↔ c ∈ text := by
  rcases cut_at_point text with ⟨htext, hafter⟩ | htext
  · rw [hafter, List.append_nil, ← htext]
  · conv_rhs => rw [htext]
    simp [hc]

theorem point_not_mem_beforePoint (text : List Char) : '.' ∉ beforePoint text := by
  intro hmem
  have hne := List.mem_takeWhile_imp (p := (· != '.')) hmem
  simp at hne

theorem Figures.point_not_mem_cut (h : Figures text) :
    '.' ∉ beforePoint text ++ afterPoint text := by
  have hbefore := point_not_mem_beforePoint text
  have hafter : '.' ∉ afterPoint text := by
    rcases cut_at_point text with ⟨_, hnil⟩ | htext
    · simp [hnil]
    · have hcount := h.count_point
      rw [htext, List.count_append, List.count_cons_self] at hcount
      exact List.count_eq_zero.mp (by omega)
  simp [hbefore, hafter]

theorem figures_iff :
    Figures text ↔ ∀ c ∈ beforePoint text ++ afterPoint text, isDigit c = true := by
  constructor
  · intro h c hc
    have hne : c ≠ '.' := fun hpoint => h.point_not_mem_cut (hpoint ▸ hc)
    exact (h.characters c ((mem_cut_iff hne).mp hc)).resolve_right hne
  · intro h
    obtain ⟨hbefore, hafter⟩ := List.forall_mem_append.mp h
    rcases cut_at_point text with ⟨htext, _⟩ | htext
    · rw [htext, ← List.append_nil (beforePoint text)]
      exact .append hbefore .nil
    · rw [htext]
      exact .append hbefore (.point hafter)

theorem literal_iff :
    Literal text ↔ beforePoint text ++ afterPoint text ≠ [] ∧
      ∀ c ∈ beforePoint text ++ afterPoint text, isDigit c = true := by
  constructor
  · intro h
    obtain ⟨c, hc, hdigit⟩ := h.digit
    have hmem := (mem_cut_iff (ne_point hdigit)).mpr hc
    exact ⟨List.ne_nil_of_mem hmem, figures_iff.mp h.toFigures⟩
  · rintro ⟨hne, hdigits⟩
    obtain ⟨c, hc⟩ := List.exists_mem_of_ne_nil _ hne
    have hmem := (mem_cut_iff (ne_point (hdigits c hc))).mp hc
    exact ⟨figures_iff.mpr hdigits, c, hmem, hdigits c hc⟩

theorem idxOf_point (text : List Char) : text.idxOf '.' = (beforePoint text).length := by
  have hbefore := point_not_mem_beforePoint text
  rcases cut_at_point text with ⟨htext, _⟩ | htext
  · rw [← htext] at hbefore ⊢
    exact List.idxOf_of_notMem hbefore
  · conv_lhs => rw [htext]
    rw [List.idxOf_append_of_notMem hbefore, List.idxOf_cons_self, Nat.add_zero]

/-- A text is refused only if it is no literal, however many digits it has. -/
theorem read?_eq_none_iff : Decimal.read? text = none ↔ ¬ Literal text := by
  have hrefused : ∀ run : List Char, (run.isEmpty || !run.all isDigit) = true ↔
      ¬(run ≠ [] ∧ ∀ c ∈ run, isDigit c = true) := by
    intro run
    cases run <;> simp [imp_iff_not_or]
  rw [literal_iff, ← hrefused, Decimal.read?, ← beforePoint, ← afterPoint]
  simp only [ite_eq_left_iff, reduceCtorEq, imp_false, not_not]

end Point

section Sum
variable {c : Char} {run rest : List Char}

theorem place_succ (point : Int) (i : Nat) : place point (i + 1) = place (point - 1) i := by
  simp only [place]
  split <;> split <;> omega

theorem sumByPlace_cons (point : Int) (c : Char) (rest : List Char) :
    sumByPlace point (c :: rest) =
      (if isDigit c then (digitValue c : Rat) * 10 ^ place point 0 else 0) +
        sumByPlace (point - 1) rest := by
  have hterms := Fin.sum_univ_succ fun i : Fin (rest.length + 1) =>
    if isDigit (c :: rest)[i] then (digitValue (c :: rest)[i] : Rat) * 10 ^ place point i else 0
  rw [sumByPlace, sumByPlace]
  simp only [← place_succ]
  exact hterms

theorem sumByPlace_append (h : ∀ c ∈ run, isDigit c = true) (rest : List Char) :
    sumByPlace run.length (run ++ rest) = wholeValue run + sumByPlace 0 rest := by
  induction run with
  | nil => simp [wholeValue]
  | cons c run ih =>
    obtain ⟨hc, hrun⟩ := List.forall_mem_cons.mp h
    have hplace : place (run.length + 1) 0 = run.length := by
      rw [place]
      split <;> omega
    rw [List.cons_append, sumByPlace_cons, if_pos hc, List.length_cons, wholeValue]
    push_cast
    rw [hplace, add_sub_cancel_right, ih hrun, zpow_natCast, add_assoc]

theorem sumByPlace_fraction (h : ∀ c ∈ run, isDigit c = true) (k : Nat) :
    sumByPlace (-(k + 1 : Nat)) run = fractionValue run / 10 ^ k := by
  induction run generalizing k with
  | nil => simp [fractionValue, sumByPlace]
  | cons c run ih =>
    obtain ⟨hc, hrun⟩ := List.forall_mem_cons.mp h
    have hplace : place (-(k + 1 : Nat)) 0 = -(k + 1 : Nat) := by
      rw [place]
      split <;> omega
    have hshift : -((k + 1 : Nat) : Int) - 1 = -(k + 1 + 1 : Nat) := by omega
    rw [sumByPlace_cons, if_pos hc, hplace, hshift, ih hrun, fractionValue, zpow_neg,
      zpow_natCast, pow_succ]
    field_simp

theorem placeValue_eq {text : List Char} (h : Figures text) :
    placeValue text = wholeValue (beforePoint text) + fractionValue (afterPoint text) := by
  have hpoint := idxOf_point text
  obtain ⟨hbefore, hafter⟩ := List.forall_mem_append.mp (figures_iff.mp h)
  rcases cut_at_point text with ⟨htext, hnil⟩ | htext
  · calc placeValue text
        = sumByPlace (beforePoint text).length (beforePoint text ++ []) := by
          rw [placeValue, hpoint, List.append_nil, ← htext]
      _ = wholeValue (beforePoint text) + sumByPlace 0 [] := sumByPlace_append hbefore []
      _ = wholeValue (beforePoint text) + fractionValue (afterPoint text) := by
          rw [hnil]
          rfl
  · have hmark : isDigit '.' = false := rfl
    have hfraction := sumByPlace_fraction hafter 0
    calc placeValue text
        = sumByPlace (beforePoint text).length (beforePoint text ++ '.' :: afterPoint text) := by
          rw [placeValue, hpoint, ← htext]
      _ = wholeValue (beforePoint text) + sumByPlace 0 ('.' :: afterPoint text) :=
          sumByPlace_append hbefore _
      _ = wholeValue (beforePoint text) + fractionValue (afterPoint text) := by
          rw [sumByPlace_cons]
          simpa [hmark] using hfraction

end Sum

section Zeros

theorem sumByPlace_append_zeros (point : Int) (text : List Char) (count : Nat) :
    sumByPlace point (text ++ List.replicate count '0') = sumByPlace point text := by
  induction text generalizing point with
  | nil =>
    have hzero : digitValue '0' = 0 := rfl
    simp [sumByPlace, hzero]
  | cons c rest ih => rw [List.cons_append, sumByPlace_cons, sumByPlace_cons, ih]

theorem placeValue_append_zeros {text : List Char} (h : '.' ∈ text) (count : Nat) :
    placeValue (text ++ List.replicate count '0') = placeValue text := by
  rw [placeValue, List.idxOf_append_of_mem h, sumByPlace_append_zeros, placeValue]

theorem placeValue_zeros_append (text : List Char) (count : Nat) :
    placeValue (List.replicate count '0' ++ text) = placeValue text := by
  induction count with
  | zero => rfl
  | succ count ih =>
    have hzero : digitValue '0' = 0 := rfl
    have hpoint : '0' ≠ '.' := by decide
    rw [← ih, placeValue, List.replicate_succ, List.cons_append, List.idxOf_cons_ne _ hpoint,
      sumByPlace_cons, placeValue]
    simp [hzero]

theorem isDigit_of_mem_zeros {count : Nat} : ∀ c ∈ List.replicate count '0', isDigit c = true := by
  intro c hc
  rw [List.eq_of_mem_replicate hc]
  rfl

theorem afterPoint_zeros_append (text : List Char) (count : Nat) :
    afterPoint (List.replicate count '0' ++ text) = afterPoint text := by
  rw [afterPoint, List.dropWhile_append_of_pos, afterPoint]
  exact fun c hc => ne_point_of_isDigit (isDigit_of_mem_zeros c hc)

end Zeros

section Readers
variable {text : List Char} {value : Rat}

/-- As far as the readers can count places, literals are the texts of numerals. -/
theorem Literal.exists_numeral (h : Literal text) (hshort : (afterPoint text).length < 2 ^ 32) :
    ∃ n : Numeral, n.text = text ∧ n.value = placeValue text := by
  obtain ⟨hne, hdigits⟩ := literal_iff.mp h
  obtain ⟨hbefore, hafter⟩ := List.forall_mem_append.mp hdigits
  rcases cut_at_point text with ⟨htext, hnil⟩ | htext
  · rw [hnil] at hne
    refine ⟨⟨beforePoint text, none, hbefore, by simp, hne, by simp⟩, ?_, ?_⟩
    · exact (List.append_nil _).trans htext.symm
    · rw [placeValue_eq h.toFigures, hnil]
      rfl
  · refine ⟨⟨beforePoint text, some (afterPoint text), hbefore, hafter, hne, hshort⟩,
      htext.symm, ?_⟩
    rw [placeValue_eq h.toFigures]
    rfl

theorem read?_of_literal (h : Literal text) (hshort : (afterPoint text).length < 2 ^ 32) :
    Decimal.read? text = some (placeValue text) := by
  obtain ⟨n, htext, hvalue⟩ := h.exists_numeral hshort
  rw [← hvalue, ← htext, n.read?_text]

theorem read?_eq_some_iff (hshort : (afterPoint text).length < 2 ^ 32) :
    Decimal.read? text = some value ↔ Literal text ∧ value = placeValue text := by
  constructor
  · intro h
    have hliteral : Literal text := by
      by_contra hno
      rw [read?_eq_none_iff.mpr hno] at h
      cases h
    rw [read?_of_literal hliteral hshort] at h
    exact ⟨hliteral, (Option.some.inj h).symm⟩
  · rintro ⟨hliteral, rfl⟩
    exact read?_of_literal hliteral hshort

theorem read?_zeros_append (h : Literal text) (hshort : (afterPoint text).length < 2 ^ 32)
    (count : Nat) : Decimal.read? (List.replicate count '0' ++ text) = Decimal.read? text := by
  rw [read?_of_literal h hshort, read?_of_literal (.append isDigit_of_mem_zeros h),
    placeValue_zeros_append]
  rwa [afterPoint_zeros_append]

theorem read?_append_zeros {count : Nat} (h : Literal text) (hpoint : '.' ∈ text)
    (hshort : (afterPoint text).length < 2 ^ 32)
    (hshort' : (afterPoint (text ++ List.replicate count '0')).length < 2 ^ 32) :
    Decimal.read? (text ++ List.replicate count '0') = Decimal.read? text := by
  have hliteral : Literal (text ++ List.replicate count '0') :=
    (Literal.append isDigit_of_mem_zeros h).perm List.perm_append_comm
  rw [read?_of_literal h hshort, read?_of_literal hliteral hshort', placeValue_append_zeros hpoint]

end Readers

section Runs
variable {run rest text : List Char}

theorem not_figures_snoc {c : Char} (hdigit : isDigit c = false) (hpoint : c = '.' → '.' ∈ run) :
    ¬ Figures (run ++ [c]) := by
  intro h
  rcases h.characters c (by simp) with hc | rfl
  · rw [hdigit] at hc
    cases hc
  · have hcount := h.count_point
    have hpos : 0 < run.count '.' := List.count_pos_iff.mpr (hpoint rfl)
    rw [List.count_append, List.count_singleton_self] at hcount
    omega

/-- Figures that cannot go on are the longest, since what figures begin with is figures. -/
theorem longest_of_not_figures (h : Figures run)
    (hrest : ∀ c ∈ rest.head?, ¬ Figures (run ++ [c])) : Longest (run ++ rest) run where
  begins := List.prefix_append run rest
  figures := h
  longest := by
    intro other hother hfigures
    by_contra hlonger
    cases rest with
    | nil =>
      have hlength := hother.length_le
      rw [List.append_nil] at hlength
      exact hlonger hlength
    | cons c rest =>
      have hnext : run ++ [c] <+: run ++ c :: rest := ⟨rest, by simp⟩
      have hlength : (run ++ [c]).length ≤ other.length := by
        rw [List.length_append, List.length_singleton]
        omega
      have hbegins := List.prefix_of_prefix_length_le hnext hother hlength
      exact hrest c rfl (hfigures.of_begins hbegins)

theorem longest_splitNumeral (text : List Char) : Longest text (Token.splitNumeral text).1 := by
  have hsplit := Token.splitNumeral_append text
  have hwhole : ∀ c ∈ text.takeWhile isDigit, isDigit c = true :=
    fun c hc => List.mem_takeWhile_imp hc
  -- The longest run is told of a text that is cut after it.
  suffices h : Longest ((Token.splitNumeral text).1 ++ (Token.splitNumeral text).2)
      (Token.splitNumeral text).1 by rwa [hsplit] at h
  rw [Token.splitNumeral]
  split
  · rename_i tail htail
    have hfraction : ∀ c ∈ tail.takeWhile isDigit, isDigit c = true :=
      fun c hc => List.mem_takeWhile_imp hc
    apply longest_of_not_figures (.append hwhole (.point hfraction))
    intro c hc
    exact not_figures_snoc (head?_dropWhile tail c hc) fun _ => by simp
  · rename_i hno
    have hfigures := Figures.append hwhole .nil
    rw [List.append_nil] at hfigures
    apply longest_of_not_figures hfigures
    intro c hc
    refine not_figures_snoc (head?_dropWhile text c hc) ?_
    -- No point follows the digits, or it would have been taken with them.
    rintro rfl
    exact absurd (List.cons_head?_tail hc).symm (hno _)

theorem readNumeral_eq (text : List Char) :
    Token.readNumeral text = (Decimal.read? (Token.splitNumeral text).1,
      text.drop (Token.splitNumeral text).1.length) := by
  have hrest := congrArg (List.drop (Token.splitNumeral text).1.length)
    (Token.splitNumeral_append text)
  rw [List.drop_left] at hrest
  rw [Token.readNumeral, ← hrest]

theorem Figures.read?_eq_none_iff (h : Figures run) :
    Decimal.read? run = none ↔ ∀ c ∈ run, isDigit c = false := by
  rw [Numeral.read?_eq_none_iff]
  constructor
  · intro hno c hc
    by_contra hdigit
    exact hno ⟨h, c, hc, by simpa using hdigit⟩
  · rintro hnone ⟨_, c, hc, hdigit⟩
    rw [hnone c hc] at hdigit
    cases hdigit

end Runs

/-- A text is accepted as a number exactly if it is a literal, and its value is the one that
its digits have by their places; zeros in front, or at the end of a fraction, change
nothing. A numeral is read from any place of a line to the end of the longest run of
figures there. It has no value exactly if the run has no digit, and otherwise the run's. -/
theorem readers_by_place {text line : List Char} {start : Nat}
    (hshort : (afterPoint text).length < 2 ^ 32) (hstart : start ≤ line.length) :
    (∀ value, Decimal.read? text = some value ↔ Literal text ∧ value = placeValue text) ∧
      (Literal text → ∀ count,
        Decimal.read? (List.replicate count '0' ++ text) = Decimal.read? text ∧
          ('.' ∈ text → (afterPoint (text ++ List.replicate count '0')).length < 2 ^ 32 →
            Decimal.read? (text ++ List.replicate count '0') = Decimal.read? text)) ∧
      ∃ run value?, Longest (line.drop start) run ∧
        start + run.length ≤ line.length ∧
        Token.readNumeral (line.drop start) = (value?, line.drop (start + run.length)) ∧
        (value? = none ↔ ∀ c ∈ run, isDigit c = false) ∧
        ((afterPoint run).length < 2 ^ 32 →
          ∀ value, value? = some value → value = placeValue run) := by
  have hlongest := longest_splitNumeral (line.drop start)
  refine ⟨fun value => read?_eq_some_iff hshort, ?_, (Token.splitNumeral (line.drop start)).1, _,
    hlongest, ?_, ?_, hlongest.figures.read?_eq_none_iff, ?_⟩
  · intro hliteral count
    exact ⟨read?_zeros_append hliteral hshort count, fun hpoint hshort' =>
      read?_append_zeros hliteral hpoint hshort hshort'⟩
  · have hlength := hlongest.begins.length_le
    rw [List.length_drop] at hlength
    omega
  · rw [readNumeral_eq, List.drop_drop]
  · intro hrun value hvalue
    exact ((read?_eq_some_iff hrun).mp hvalue).2

/-- From the first point on, the run ends at the second. -/
theorem readers_by_place_second_point :
    (afterPoint ['0', '7', '.', '5']).length < 2 ^ 32 ∧ 1 ≤ ['1', '.', '2', '.', '3'].length ∧
      Literal ['0', '7', '.', '5'] ∧ 15 / 2 = placeValue ['0', '7', '.', '5'] ∧
      Decimal.read? ['0', '0', '0', '7', '.', '5'] = some (15 / 2) ∧
      Decimal.read? ['0', '7', '.', '5', '0', '0'] = some (15 / 2) ∧
      Token.readNumeral ['.', '2', '.', '3'] = (some (1 / 5), ['.', '3']) ∧
      Longest ['.', '2', '.', '3'] ['.', '2'] ∧ 1 / 5 = placeValue ['.', '2'] := by
  have hread : Decimal.read? ['0', '7', '.', '5'] = some (15 / 2) := by decide +kernel
  have hnumeral : Token.readNumeral ['.', '2', '.', '3'] = (some (1 / 5), ['.', '3']) := by
    decide +kernel
  have hshort : (afterPoint ['0', '7', '.', '5']).length < 2 ^ 32 := by decide
  have hstart : 1 ≤ ['1', '.', '2', '.', '3'].length := by decide
  obtain ⟨hvalue, hzeros, run, value?, hlongest, -, hrest, -, hexact⟩ :=
    readers_by_place hshort hstart
  obtain ⟨hliteral, hsum⟩ := (hvalue (15 / 2)).mp hread
  obtain ⟨hfront, hend⟩ := hzeros hliteral 2
  have hpair := Prod.ext_iff.mp (hnumeral.symm.trans hrest)
  have hlength : run.length = 2 := by
    have hleft := congrArg List.length hpair.2
    rw [List.length_drop] at hleft
    simp only [List.length_cons, List.length_nil] at hleft
    omega
  have hrun : run = ['.', '2'] := by
    rw [List.prefix_iff_eq_take.mp hlongest.begins, hlength]
    rfl
  subst hrun
  exact ⟨hshort, hstart, hliteral, hsum, hfront.trans hread,
    (hend (by simp) (by decide)).trans hread, hnumeral, hlongest,
    hexact (by decide) _ hpair.1.symm⟩

end Reckoner.Numeral
