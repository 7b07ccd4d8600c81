/-
**A laid out decimal can be read off its text.**

Significant digits neither begin nor end with a zero.  Laid out as text they are still the digits
of what stands before an exponent, without the zeros at both ends; and the place of the point can
be told from where the point stands, or from the exponent.

Main definitions:

* `DataTier.Significant` — digits without zeros at the ends;
* `DataTier.FloatLayout.significand` — the significant digits of a text.

Main results:

* `DataTier.significant_trimEnd` — what the digits of a positive number are without the zeros at
  their end;
* `DataTier.FloatLayout.significand_lay` — the digits are read off the text;
* `DataTier.FloatLayout.lay_inj` — the text determines digits and point.
-/

import DataTier.Numeral.Shortest
import Mathlib.Data.List.Basic
import Mathlib.Data.List.TakeWhile

set_option relaxedAutoImplicit false
set_option autoImplicit false

namespace DataTier

/-! ### Significant digits -/

/-- Decimal digits that neither begin nor end with a zero. -/
structure Significant (ds : List Char) : Prop where
  ne_nil : ds ≠ []
  digit : ∀ c ∈ ds, c.isDigit = true
  head : ds.head? ≠ some '0'
  last : ds.getLast? ≠ some '0'

/-- A list is what is left of it without the zeros at its end, and these zeros. -/
theorem trimEnd_append_zeros (ds : List Char) :
    ∃ z, Chars.trimEnd (· == '0') ds ++ List.replicate z '0' = ds := by
  refine ⟨(ds.reverse.takeWhile (· == '0')).length, ?_⟩
  have hzeros : ds.reverse.takeWhile (· == '0') =
      List.replicate (ds.reverse.takeWhile (· == '0')).length '0' := by
    refine List.eq_replicate_of_mem fun c hc => ?_
    simpa using List.mem_takeWhile_imp hc
  rw [Chars.trimEnd, ← List.reverse_inj, List.reverse_append, List.reverse_reverse,
    List.reverse_replicate, ← hzeros, List.takeWhile_append_dropWhile]

theorem getLast?_trimEnd (ds : List Char) :
    (Chars.trimEnd (· == '0') ds).getLast? ≠ some '0' := by
  rw [Chars.trimEnd, List.getLast?_reverse]
  intro h
  have := List.head?_dropWhile_not (· == '0') ds.reverse
  rw [h] at this
  simp at this

theorem trimEnd_append {ds : List Char} (h : ds.getLast? ≠ some '0') (z : Nat) :
    Chars.trimEnd (· == '0') (ds ++ List.replicate z '0') = ds := by
  have hdrop : ds.reverse.dropWhile (· == '0') = ds.reverse := by
    rw [List.dropWhile_eq_self_iff]
    intro hpos hzero
    refine h ?_
    rw [← List.head?_reverse, List.head?_eq_getElem?, List.getElem?_eq_getElem hpos]
    exact congrArg some (beq_iff_eq.1 hzero)
  rw [Chars.trimEnd, List.reverse_append, List.reverse_replicate,
    List.dropWhile_append_of_pos (by simp), hdrop, List.reverse_reverse]

/-- The digits of a positive number do not begin with a zero. -/
theorem head?_toDigits {n : Nat} (h : n ≠ 0) : (Nat.toDigits 10 n).head? ≠ some '0' := by
  induction n using Nat.strongRecOn with
  | ind n ih =>
      rw [Nat.toDigits_eq_if (by decide)]
      split
      · next hlt =>
        have hdigit : ∀ d < 10, d ≠ 0 → Nat.digitChar d ≠ '0' := by decide
        simpa using hdigit n hlt h
      · next hle =>
        rw [List.head?_append_of_ne_nil _ Nat.toDigits_ne_nil]
        exact ih (n / 10) (by omega) (by omega)

theorem significant_trimEnd {n : Nat} (h : n ≠ 0) :
    Significant (Chars.trimEnd (· == '0') (Nat.toDigits 10 n)) := by
  obtain ⟨z, hz⟩ := trimEnd_append_zeros (Nat.toDigits 10 n)
  generalize hds : Chars.trimEnd (· == '0') (Nat.toDigits 10 n) = ds at hz
  have hne : ds ≠ [] := by
    rintro rfl
    have hvalue := Nat.ofDigitChars_ten_toDigits (n := n)
    rw [← hz, List.nil_append, Nat.ofDigitChars_replicate_zero, Nat.mul_zero] at hvalue
    exact h hvalue.symm
  exact {
    ne_nil := hne
    digit := fun c hc => Nat.isDigit_of_mem_toDigits (by decide) (by decide)
      (hz ▸ List.mem_append_left _ hc)
    head := by
      have := head?_toDigits h
      rwa [← hz, List.head?_append_of_ne_nil _ hne] at this
    last := hds ▸ getLast?_trimEnd _ }

/-! ### Reading off the digits -/

namespace FloatLayout

/-- The digits of what stands before an exponent, without the zeros at both ends. -/
def significand (cs : List Char) : List Char :=
  Chars.trimEnd (· == '0')
    (((cs.takeWhile (· != 'e')).filter Char.isDigit).dropWhile (· == '0'))

theorem significand_of_digits {ds cs : List Char} (h : Significant ds) {a b : Nat}
    (hcs : (cs.takeWhile (· != 'e')).filter Char.isDigit =
      List.replicate a '0' ++ ds ++ List.replicate b '0') : significand cs = ds := by
  have hdrop : (ds ++ List.replicate b '0').dropWhile (· == '0') = ds ++ List.replicate b '0' := by
    rw [List.dropWhile_eq_self_iff]
    intro hpos hzero
    refine h.head ?_
    rw [← List.head?_append_of_ne_nil ds h.ne_nil, List.head?_eq_getElem?,
      List.getElem?_eq_getElem hpos]
    exact congrArg some (beq_iff_eq.1 hzero)
  rw [significand, hcs, List.append_assoc, List.dropWhile_append_of_pos (by simp), hdrop,
    trimEnd_append h.last]

variable {layout : FloatLayout} {ds : List Char} {point : Int}

/-- A decimal of this point is written without an exponent. -/
def Plain (layout : FloatLayout) (point : Int) : Prop :=
  layout.plainFrom ≤ point - 1 ∧ point - 1 ≤ layout.plainTo

instance (layout : FloatLayout) (point : Int) : Decidable (layout.Plain point) :=
  inferInstanceAs (Decidable (_ ∧ _))

theorem lay_of_nonpos (hplain : layout.Plain point) (hpoint : point ≤ 0) (ds : List Char) :
    layout.lay ds point = '0' :: '.' :: (List.replicate (-point).toNat '0' ++ ds) := by
  unfold Plain at hplain
  simp only [lay, if_pos hplain, if_pos hpoint]

theorem lay_of_pos (hplain : layout.Plain point) (hpoint : 0 < point) (ds : List Char) :
    layout.lay ds point =
      (ds.take point.toNat ++ List.replicate (point.toNat - ds.length) '0') ++
        '.' :: if (ds.drop point.toNat).isEmpty then ['0'] else ds.drop point.toNat := by
  unfold Plain at hplain
  simp only [lay, if_pos hplain, if_neg (Int.not_le.2 hpoint)]

theorem lay_of_not_plain (hplain : ¬layout.Plain point) (ds : List Char) :
    layout.lay ds point =
      (ds.take 1 ++ if (ds.drop 1).isEmpty then [] else '.' :: ds.drop 1) ++
        'e' :: (if point - 1 < 0 then '-' else '+') :: Nat.toDigits 10 (point - 1).natAbs := by
  unfold Plain at hplain
  simp only [lay, if_neg hplain]

theorem ne_of_isDigit {c d : Char} (hc : c.isDigit = true) (hd : d.isDigit = false) : c ≠ d := by
  rintro rfl
  rw [hc] at hd
  cases hd

/-- Nothing, or an exponent. -/
def MayEnd (rest : List Char) : Prop := rest = [] ∨ ∃ cs, rest = 'e' :: cs

theorem takeWhile_digits {whole rest : List Char} (hwhole : ∀ c ∈ whole, c.isDigit = true)
    (hrest : MayEnd rest) : (whole ++ rest).takeWhile (· != 'e') = whole := by
  have hne : ∀ c ∈ whole, (c != 'e') = true := by
    intro c hc
    simpa using ne_of_isDigit (hwhole c hc) (show Char.isDigit 'e' = false by decide)
  rw [List.takeWhile_append_of_pos hne]
  obtain rfl | ⟨cs, rfl⟩ := hrest
  · simp
  · simp

/-- The digits of a mantissa without a point. -/
theorem digits_whole {whole rest : List Char} (hwhole : ∀ c ∈ whole, c.isDigit = true)
    (hrest : MayEnd rest) :
    ((whole ++ rest).takeWhile (· != 'e')).filter Char.isDigit = whole := by
  rw [takeWhile_digits hwhole hrest]
  exact List.filter_eq_self.2 hwhole

/-- The digits of a mantissa with a point. -/
theorem digits_point {whole fraction rest : List Char} (hwhole : ∀ c ∈ whole, c.isDigit = true)
    (hfraction : ∀ c ∈ fraction, c.isDigit = true) (hrest : MayEnd rest) :
    ((whole ++ '.' :: (fraction ++ rest)).takeWhile (· != 'e')).filter Char.isDigit =
      whole ++ fraction := by
  have hne : ∀ c ∈ whole, (c != 'e') = true := by
    intro c hc
    simpa using ne_of_isDigit (hwhole c hc) (show Char.isDigit 'e' = false by decide)
  rw [List.takeWhile_append_of_pos hne, List.takeWhile_cons_of_pos (by decide),
    takeWhile_digits hfraction hrest, List.filter_append, List.filter_cons_of_neg (by decide),
    List.filter_eq_self.2 hwhole, List.filter_eq_self.2 hfraction]

theorem isDigit_replicate_zero (z : Nat) : ∀ c ∈ List.replicate z '0', c.isDigit = true := by
  intro c hc
  rw [List.eq_of_mem_replicate hc]
  decide

theorem isDigit_append {xs ys : List Char} (hx : ∀ c ∈ xs, c.isDigit = true)
    (hy : ∀ c ∈ ys, c.isDigit = true) : ∀ c ∈ xs ++ ys, c.isDigit = true :=
  fun c hc => (List.mem_append.1 hc).elim (hx c) (hy c)

/-- **The digits are read off the text.** -/
theorem significand_lay (h : Significant ds) (layout : FloatLayout) (point : Int) :
    significand (layout.lay ds point) = ds := by
  have htake (n : Nat) : ∀ c ∈ ds.take n, c.isDigit = true :=
    fun c hc => h.digit c (List.mem_of_mem_take hc)
  have hdrop (n : Nat) : ∀ c ∈ ds.drop n, c.isDigit = true :=
    fun c hc => h.digit c (List.mem_of_mem_drop hc)
  by_cases hplain : layout.Plain point
  · rcases Int.lt_or_le 0 point with hpoint | hpoint
    · rw [lay_of_pos hplain hpoint]
      split
      · next hempty =>
        -- The point is not before the last digit: zeros lead up to it and one follows.
        have hle : ds.length ≤ point.toNat := by simpa using hempty
        have hdigits := digits_point
          (isDigit_append (htake point.toNat) (isDigit_replicate_zero (point.toNat - ds.length)))
          (isDigit_replicate_zero 1) (.inl rfl)
        refine significand_of_digits (a := 0) (b := point.toNat - ds.length + 1) h ?_
        simpa [List.take_of_length_le hle, List.replicate_add] using hdigits
      · next hsome =>
        have hlt : point.toNat - ds.length = 0 := by
          simp only [List.isEmpty_iff, List.drop_eq_nil_iff] at hsome
          omega
        have hdigits := digits_point (htake point.toNat) (hdrop point.toNat) (.inl rfl)
        rw [List.take_append_drop, List.append_nil] at hdigits
        refine significand_of_digits (a := 0) (b := 0) h ?_
        simpa [hlt] using hdigits
    · have hdigits := digits_point (isDigit_replicate_zero 1)
        (isDigit_append (isDigit_replicate_zero (-point).toNat) h.digit) (.inl rfl)
      rw [List.append_nil] at hdigits
      rw [lay_of_nonpos hplain hpoint]
      refine significand_of_digits (a := (-point).toNat + 1) (b := 0) h ?_
      simpa [List.replicate_succ] using hdigits
  · rw [lay_of_not_plain hplain]
    refine significand_of_digits (a := 0) (b := 0) h ?_
    split
    · next hempty =>
      have hle : ds.length ≤ 1 := List.drop_eq_nil_iff.1 (List.isEmpty_iff.1 hempty)
      rw [List.append_nil, digits_whole (htake 1) (.inr ⟨_, rfl⟩), List.take_of_length_le hle]
      simp
    · rw [List.append_assoc, List.cons_append, digits_point (htake 1) (hdrop 1) (.inr ⟨_, rfl⟩),
        List.take_append_drop]
      simp

/-! ### Reading off the point -/

/-- An exponent is written exactly when the decimal is not plain. -/
theorem mem_lay_iff (h : Significant ds) : 'e' ∈ layout.lay ds point ↔ ¬layout.Plain point := by
  have hne : 'e' ∉ ds := fun hmem => ne_of_isDigit (h.digit _ hmem) (by decide) rfl
  by_cases hplain : layout.Plain point
  · rcases Int.lt_or_le 0 point with hpoint | hpoint
    · have htake : 'e' ∉ ds.take point.toNat := fun hmem => hne (List.mem_of_mem_take hmem)
      have hdrop : 'e' ∉ ds.drop point.toNat := fun hmem => hne (List.mem_of_mem_drop hmem)
      rw [lay_of_pos hplain hpoint]
      split <;> simp [hplain, htake, hdrop]
    · rw [lay_of_nonpos hplain hpoint]
      simp [hplain, hne]
  · rw [lay_of_not_plain hplain]
    simp [hplain]

/-- A text begins with a zero or with the first digit. -/
theorem head?_lay (h : Significant ds) :
    (layout.lay ds point).head? =
      if layout.Plain point ∧ point ≤ 0 then some '0' else ds.head? := by
  obtain ⟨d, rest, rfl⟩ := List.exists_cons_of_ne_nil h.ne_nil
  by_cases hplain : layout.Plain point
  · rcases Int.lt_or_le 0 point with hpoint | hpoint
    · obtain ⟨n, hn⟩ : ∃ n, point.toNat = n + 1 := ⟨point.toNat - 1, by omega⟩
      rw [lay_of_pos hplain hpoint, hn]
      simp [Int.not_le.2 hpoint]
    · rw [lay_of_nonpos hplain hpoint]
      simp [hplain, hpoint]
  · rw [lay_of_not_plain hplain]
    simp [hplain]

/-- It begins with a zero exactly when the point is not after the first digit and there is no
exponent. -/
theorem head?_lay_eq_zero_iff (h : Significant ds) :
    (layout.lay ds point).head? = some '0' ↔ layout.Plain point ∧ point ≤ 0 := by
  rw [head?_lay h]
  split
  · next hzero => simp [hzero]
  · next hdigit => simp [hdigit, h.head]

/-- As many digits stand before the point as it says. -/
theorem length_whole_lay (h : Significant ds) (hplain : layout.Plain point) (hpoint : 0 < point) :
    ((layout.lay ds point).takeWhile (· != '.')).length = point.toNat := by
  have htake : ∀ c ∈ ds.take point.toNat, c.isDigit = true :=
    fun c hc => h.digit c (List.mem_of_mem_take hc)
  have hdigits := isDigit_append htake (isDigit_replicate_zero (point.toNat - ds.length))
  have hne : ∀ c ∈ ds.take point.toNat ++ List.replicate (point.toNat - ds.length) '0',
      (c != '.') = true := by
    intro c hc
    simpa using ne_of_isDigit (hdigits c hc) (show Char.isDigit '.' = false by decide)
  rw [lay_of_pos hplain hpoint, List.takeWhile_append_of_pos hne,
    List.takeWhile_cons_of_neg (by decide), List.append_nil, List.length_append, List.length_take,
    List.length_replicate]
  omega

theorem toDigits_injective {n m : Nat} (h : Nat.toDigits 10 n = Nat.toDigits 10 m) : n = m := by
  rw [← Nat.ofDigitChars_ten_toDigits (n := n), h, Nat.ofDigitChars_ten_toDigits]

/-- The same digits are laid out as the same text for one point only. -/
theorem eq_of_lay_eq {p q : Int} (h : Significant ds) (heq : layout.lay ds p = layout.lay ds q) :
    p = q := by
  have hplain_iff : layout.Plain p ↔ layout.Plain q := by
    rw [← not_iff_not, ← mem_lay_iff h, ← mem_lay_iff h, heq]
  have hzero_iff : layout.Plain p ∧ p ≤ 0 ↔ layout.Plain q ∧ q ≤ 0 := by
    rw [← head?_lay_eq_zero_iff h, ← head?_lay_eq_zero_iff h, heq]
  by_cases hp : layout.Plain p
  · have hq := hplain_iff.1 hp
    rcases Int.lt_or_le 0 p with hpos | hnonpos
    · have hpos' : 0 < q := by
        by_contra hnot
        have := (hzero_iff.2 ⟨hq, Int.not_lt.1 hnot⟩).2
        omega
      have hlength := length_whole_lay h hp hpos
      rw [heq, length_whole_lay h hq hpos'] at hlength
      omega
    · have hnonpos' := (hzero_iff.1 ⟨hp, hnonpos⟩).2
      rw [lay_of_nonpos hp hnonpos, lay_of_nonpos hq hnonpos'] at heq
      have hlength := congrArg List.length heq
      simp only [List.length_cons, List.length_append, List.length_replicate] at hlength
      omega
  · have hq := fun hq => hp (hplain_iff.2 hq)
    rw [lay_of_not_plain hp, lay_of_not_plain hq, List.append_cancel_left_eq] at heq
    simp only [List.cons.injEq, true_and] at heq
    obtain ⟨hsign, hdigits⟩ := heq
    have habs := toDigits_injective hdigits
    by_cases hneg : p - 1 < 0
    · rw [if_pos hneg] at hsign
      by_cases hneg' : q - 1 < 0
      · omega
      · simp [hneg'] at hsign
    · rw [if_neg hneg] at hsign
      by_cases hneg' : q - 1 < 0
      · simp [hneg'] at hsign
      · omega

/-- **The text determines digits and point.** -/
theorem lay_inj {ds' : List Char} {p q : Int} (h : Significant ds) (h' : Significant ds')
    (heq : layout.lay ds p = layout.lay ds' q) : ds = ds' ∧ p = q := by
  have hds : ds = ds' := by rw [← significand_lay h layout p, heq, significand_lay h']
  subst hds
  exact ⟨rfl, eq_of_lay_eq h heq⟩

/-- A text has a point or an exponent. -/
theorem mem_lay (layout : FloatLayout) (ds : List Char) (point : Int) :
    '.' ∈ layout.lay ds point ∨ 'e' ∈ layout.lay ds point := by
  by_cases hplain : layout.Plain point
  · left
    rcases Int.lt_or_le 0 point with hpoint | hpoint
    · simp [lay_of_pos hplain hpoint]
    · simp [lay_of_nonpos hplain hpoint]
  · right
    simp [lay_of_not_plain hplain]

/-- The characters that may stand in a number. -/
def isNumeral (c : Char) : Bool := c.isDigit || c ∈ ['.', 'e', '-', '+']

theorem isNumeral_of_isDigit {c : Char} (h : c.isDigit = true) : isNumeral c = true := by
  simp [isNumeral, h]

theorem isNumeral_toDigits {n : Nat} : ∀ c ∈ Nat.toDigits 10 n, isNumeral c = true :=
  fun _ hc => isNumeral_of_isDigit (Nat.isDigit_of_mem_toDigits (by decide) (by decide) hc)

/-- A text has no other characters than digits, a point, a sign and the letter of an exponent. -/
theorem isNumeral_lay (hds : ∀ c ∈ ds, c.isDigit = true) (layout : FloatLayout) (point : Int) :
    ∀ c ∈ layout.lay ds point, isNumeral c = true := by
  have htake (n : Nat) : ∀ c ∈ ds.take n, isNumeral c = true :=
    fun c hc => isNumeral_of_isDigit (hds c (List.mem_of_mem_take hc))
  have hdrop (n : Nat) : ∀ c ∈ ds.drop n, isNumeral c = true :=
    fun c hc => isNumeral_of_isDigit (hds c (List.mem_of_mem_drop hc))
  have hzeros (n : Nat) : ∀ c ∈ List.replicate n '0', isNumeral c = true :=
    fun c hc => isNumeral_of_isDigit (isDigit_replicate_zero n c hc)
  by_cases hplain : layout.Plain point
  · rcases Int.lt_or_le 0 point with hpoint | hpoint
    · rw [lay_of_pos hplain hpoint]
      simp only [List.forall_mem_append, List.forall_mem_cons]
      refine ⟨⟨htake _, hzeros _⟩, by decide, ?_⟩
      split
      · exact hzeros 1
      · exact hdrop _
    · rw [lay_of_nonpos hplain hpoint]
      simp only [List.forall_mem_append, List.forall_mem_cons]
      exact ⟨by decide, by decide, hzeros _, fun c hc => isNumeral_of_isDigit (hds c hc)⟩
  · rw [lay_of_not_plain hplain]
    simp only [List.forall_mem_append, List.forall_mem_cons]
    refine ⟨⟨htake 1, ?_⟩, by decide, ?_, isNumeral_toDigits⟩
    · split
      · simp
      · exact List.forall_mem_cons.2 ⟨by decide, hdrop 1⟩
    · split <;> decide

end FloatLayout

end DataTier
