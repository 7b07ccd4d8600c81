/-
**Different floating-point numbers have different texts.**

The digits and the point of a shortest decimal are those of a point that stands for the magnitude,
and a point stands for one magnitude only; the text determines digits and point.

Main results:

* `DataTier.Shortest.exists_point` — the point behind a shortest decimal;
* `DataTier.Shortest.decimal_inj` — the decimal determines the magnitude;
* `DataTier.Binary.charsIn_inj` — the text determines the number.
-/

import DataTier.Proofs.Numeral.Layout
import DataTier.Proofs.Numeral.Magnitudes

set_option relaxedAutoImplicit false
set_option autoImplicit false

namespace DataTier

namespace Shortest

variable {f : BinaryFormat} {r q : Nat}

theorem low_pos (h : r ≠ 0) : 0 < (interval f r).low := by
  have hpos := f.scaled_strictMono (Nat.pos_of_ne_zero h)
  refine Nat.mul_pos ?_ (fine_pos f)
  omega

/-- The point behind a shortest decimal: it stands for the magnitude, and the decimal has its
digits without the zeros at their end. -/
theorem exists_point (h : r ≠ 0) :
    ∃ n k : Nat, (interval f r).holds (n * 10 ^ k) = true ∧ n ≠ 0 ∧
      decimal f r = (Chars.trimEnd (· == '0') (Nat.toDigits 10 n),
        ((Nat.toDigits 10 n).length : Int) + k - (f.unitExponent + 1)) := by
  have hholds := holds_search (holds_mid (f := f) h)
    ((Nat.toDigits 10 (interval f r).mid).length - 1)
  refine ⟨_, _, hholds, ?_, rfl⟩
  intro hzero
  rw [hzero, Nat.zero_mul] at hholds
  have := (Interval.le_of_holds hholds).1
  have := low_pos (f := f) h
  omega

theorem significant_decimal (h : r ≠ 0) : Significant (decimal f r).1 := by
  obtain ⟨n, k, -, hn, hdecimal⟩ := exists_point (f := f) h
  rw [hdecimal]
  exact significant_trimEnd hn

/-- **The decimal determines the magnitude.** -/
theorem decimal_inj (hr : r ≠ 0) (hq : q ≠ 0) (h : decimal f r = decimal f q) : r = q := by
  obtain ⟨n, k, hn, -, hdecimal⟩ := exists_point (f := f) hr
  obtain ⟨m, l, hm, -, hdecimal'⟩ := exists_point (f := f) hq
  rw [hdecimal, hdecimal', Prod.mk.injEq] at h
  obtain ⟨hdigits, hpoint⟩ := h
  obtain ⟨y, hy⟩ := trimEnd_append_zeros (Nat.toDigits 10 n)
  obtain ⟨z, hz⟩ := trimEnd_append_zeros (Nat.toDigits 10 m)
  rw [hdigits] at hy
  generalize Chars.trimEnd (· == '0') (Nat.toDigits 10 m) = ds at hy hz
  -- The zeros that one point has more at its end the other has more places.
  have hplaces : y + k = z + l := by
    rw [← hy, ← hz] at hpoint
    simp only [List.length_append, List.length_replicate] at hpoint
    omega
  have hvalue : n = 10 ^ y * Nat.ofDigitChars 10 ds 0 := by
    rw [← Nat.ofDigitChars_ten_toDigits (n := n), ← hy, Nat.ofDigitChars_append,
      Nat.ofDigitChars_replicate_zero]
  have hvalue' : m = 10 ^ z * Nat.ofDigitChars 10 ds 0 := by
    rw [← Nat.ofDigitChars_ten_toDigits (n := m), ← hz, Nat.ofDigitChars_append,
      Nat.ofDigitChars_replicate_zero]
  have hsame : n * 10 ^ k = m * 10 ^ l := by
    calc n * 10 ^ k = Nat.ofDigitChars 10 ds 0 * 10 ^ (y + k) := by
          rw [hvalue, Nat.pow_add, Nat.mul_comm (10 ^ y), Nat.mul_assoc]
      _ = Nat.ofDigitChars 10 ds 0 * 10 ^ (z + l) := by rw [hplaces]
      _ = m * 10 ^ l := by
          rw [hvalue', Nat.pow_add, Nat.mul_comm (10 ^ z) (Nat.ofDigitChars ..), Nat.mul_assoc]
  exact eq_of_holds hn (hsame ▸ hm)

end Shortest

namespace Binary

variable {f : BinaryFormat} {layout : FloatLayout}

/-- The text of a magnitude. -/
def magnitudeChars (layout : FloatLayout) (f : BinaryFormat) (rank : Nat) : List Char :=
  if rank = 0 then ['0', '.', '0']
  else layout.lay (Shortest.decimal f rank).1 (Shortest.decimal f rank).2

theorem charsIn_eq (layout : FloatLayout) (x : Binary f) :
    x.charsIn layout =
      if x.negative then '-' :: magnitudeChars layout f x.rank
      else magnitudeChars layout f x.rank := rfl

theorem head?_magnitudeChars (layout : FloatLayout) (f : BinaryFormat) (rank : Nat) :
    ∃ d, (magnitudeChars layout f rank).head? = some d ∧ d.isDigit = true := by
  unfold magnitudeChars
  split
  · exact ⟨'0', rfl, by decide⟩
  · next h =>
    have hds := Shortest.significant_decimal (f := f) h
    rw [FloatLayout.head?_lay hds]
    split
    · exact ⟨'0', rfl, by decide⟩
    · obtain ⟨d, rest, hd⟩ := List.exists_cons_of_ne_nil hds.ne_nil
      exact ⟨d, by rw [hd]; rfl, hds.digit d (by rw [hd]; exact List.mem_cons_self)⟩

theorem magnitudeChars_inj {r q : Nat}
    (h : magnitudeChars layout f r = magnitudeChars layout f q) : r = q := by
  have hzero : FloatLayout.significand ['0', '.', '0'] = [] := by decide
  unfold magnitudeChars at h
  by_cases hr : r = 0
  · by_cases hq : q = 0
    · rw [hr, hq]
    · have hds := Shortest.significant_decimal (f := f) hq
      rw [if_pos hr, if_neg hq] at h
      rw [h, FloatLayout.significand_lay hds] at hzero
      exact absurd hzero hds.ne_nil
  · have hds := Shortest.significant_decimal (f := f) hr
    by_cases hq : q = 0
    · rw [if_neg hr, if_pos hq] at h
      rw [← h, FloatLayout.significand_lay hds] at hzero
      exact absurd hzero hds.ne_nil
    · rw [if_neg hr, if_neg hq] at h
      obtain ⟨hdigits, hpoint⟩ :=
        FloatLayout.lay_inj hds (Shortest.significant_decimal (f := f) hq) h
      exact Shortest.decimal_inj hr hq (Prod.ext hdigits hpoint)

/-- A number is negative exactly when its text begins with a sign. -/
theorem head?_charsIn_iff (layout : FloatLayout) (x : Binary f) :
    (x.charsIn layout).head? = some '-' ↔ x.negative = true := by
  obtain ⟨d, hd, hdigit⟩ := head?_magnitudeChars layout f x.rank
  rw [charsIn_eq]
  split
  · next hneg => simp [hneg]
  · next hpos =>
    rw [hd]
    refine iff_of_false (fun h => ?_) hpos
    exact FloatLayout.ne_of_isDigit hdigit (show Char.isDigit '-' = false by decide)
      (Option.some.inj h)

/-- **The text determines the number.** -/
theorem charsIn_inj {x y : Binary f} (h : x.charsIn layout = y.charsIn layout) : x = y := by
  have hsign : x.negative = y.negative := by
    rw [Bool.eq_iff_iff, ← head?_charsIn_iff layout, h, head?_charsIn_iff]
  have hmagnitude : magnitudeChars layout f x.rank = magnitudeChars layout f y.rank := by
    rw [charsIn_eq, charsIn_eq, hsign] at h
    split at h
    · exact (List.cons.inj h).2
    · exact h
  obtain ⟨negative, rank, hlt⟩ := x
  obtain ⟨negative', rank', hlt'⟩ := y
  obtain rfl : negative = negative' := hsign
  obtain rfl : rank = rank' := magnitudeChars_inj hmagnitude
  rfl

/-- A text has a point or an exponent. -/
theorem mem_charsIn (layout : FloatLayout) (x : Binary f) :
    '.' ∈ x.charsIn layout ∨ 'e' ∈ x.charsIn layout := by
  have hmagnitude : '.' ∈ magnitudeChars layout f x.rank ∨
      'e' ∈ magnitudeChars layout f x.rank := by
    unfold magnitudeChars
    split
    · exact .inl (by decide)
    · exact FloatLayout.mem_lay ..
  rw [charsIn_eq]
  split
  · exact hmagnitude.imp (List.mem_cons_of_mem _) (List.mem_cons_of_mem _)
  · exact hmagnitude

/-- A text has only characters of a number. -/
theorem isNumeral_charsIn (layout : FloatLayout) (x : Binary f) :
    ∀ c ∈ x.charsIn layout, FloatLayout.isNumeral c = true := by
  have hmagnitude : ∀ c ∈ magnitudeChars layout f x.rank, FloatLayout.isNumeral c = true := by
    unfold magnitudeChars
    split
    · simp only [List.forall_mem_cons]
      exact ⟨by decide, by decide, by decide, nofun⟩
    · next h => exact FloatLayout.isNumeral_lay (Shortest.significant_decimal h).digit layout _
  rw [charsIn_eq]
  split
  · exact List.forall_mem_cons.2 ⟨by decide, hmagnitude⟩
  · exact hmagnitude

end Binary

end DataTier
