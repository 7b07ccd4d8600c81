/-
**Numbers of 32 bits keep their magnitude in the format of 64 bits.**

A magnitude that a format has is rounded to itself, and a format has every number of few enough
digits times a power of two.  So widening loses nothing, and numbers that differ stay different.

Main results:

* `DataTier.BinaryFormat.nearestRank_of_eq` — what a format can hold is not rounded;
* `DataTier.BinaryFormat.exists_scaled_eq` — what a format can hold;
* `DataTier.Binary.widen_ne_none` — every number of 32 bits has its magnitude among those of 64;
* `DataTier.Binary.widen_inj` — **different numbers of 32 bits are different numbers of 64 bits**.
-/

import DataTier.Proofs.Numeral.Magnitudes
import Mathlib.Data.Nat.Log

set_option relaxedAutoImplicit false
set_option autoImplicit false

namespace DataTier

namespace BinaryFormat

variable (f : BinaryFormat)

theorem fractions_eq : f.fractions = 2 ^ f.fractionBits := Nat.one_shiftLeft _

/-- Where a leading digit begins, the magnitude is a power of two. -/
theorem scaled_fractions (exponent : Nat) :
    f.scaled (f.fractions * (exponent + 1)) = 2 ^ f.fractionBits * 2 ^ exponent := by
  rw [← f.fractions_eq]
  exact f.scaled_add f.fractions_pos exponent

/-! ### What a format can hold -/

/-- A format holds every number of one digit more than its fractions have, times a power of two. -/
theorem exists_scaled_eq : ∀ (exponent m : Nat), m < 2 * f.fractions →
    ∃ rank, f.scaled rank = m * 2 ^ exponent := by
  intro exponent
  induction exponent with
  | zero =>
      intro m hm
      by_cases hsub : m < f.fractions
      · exact ⟨m, by rw [f.scaled_of_lt hsub, Nat.pow_zero, Nat.mul_one]⟩
      · refine ⟨f.fractions * (0 + 1) + (m - f.fractions), ?_⟩
        rw [f.scaled_add (by omega)]
        congr 1
        omega
  | succ exponent ih =>
      intro m hm
      by_cases hsub : m < f.fractions
      · -- One more digit can be taken from the power.
        obtain ⟨rank, hrank⟩ := ih (2 * m) (by omega)
        exact ⟨rank, by rw [hrank, Nat.pow_succ, Nat.mul_comm 2 m, Nat.mul_assoc, Nat.mul_comm 2]⟩
      · refine ⟨f.fractions * (exponent + 1 + 1) + (m - f.fractions), ?_⟩
        rw [f.scaled_add (by omega)]
        congr 1
        omega

/-- A magnitude has no more digits than that, and they and the power make its rank. -/
theorem exists_digits (rank : Nat) :
    ∃ digits < 2 * f.fractions,
      f.scaled rank = digits * 2 ^ ((f.scaled rank).log2 - f.fractionBits) ∧
      ((f.scaled rank).log2 - f.fractionBits) * f.fractions + digits = rank := by
  have hpos := f.fractions_pos
  by_cases hsub : rank < f.fractions
  · rw [f.scaled_of_lt hsub]
    have hshort : rank.log2 - f.fractionBits = 0 := by
      rcases Nat.eq_zero_or_pos rank with rfl | hrank
      · simp
      · have hlog := (Nat.log2_lt (Nat.ne_of_gt hrank)).2 (f.fractions_eq ▸ hsub)
        omega
    exact ⟨rank, by omega, by simp [hshort], by simp [hshort]⟩
  · obtain ⟨exponent, fraction, hlt, rfl⟩ := f.exists_eq_of_le (Nat.le_of_not_lt hsub)
    rw [f.scaled_add hlt]
    have hlog : ((f.fractions + fraction) * 2 ^ exponent).log2 = f.fractionBits + exponent := by
      have hlow : 2 ^ f.fractionBits ≤ f.fractions + fraction := f.fractions_eq ▸ by omega
      have hhigh : f.fractions + fraction < 2 ^ (f.fractionBits + 1) := by
        rw [Nat.pow_succ, ← f.fractions_eq]
        omega
      rw [Nat.log2_eq_iff (Nat.ne_of_gt (Nat.mul_pos (by omega) (Nat.two_pow_pos _)))]
      refine ⟨?_, ?_⟩
      · rw [Nat.pow_add]
        exact Nat.mul_le_mul_right _ hlow
      · rw [Nat.add_right_comm, Nat.pow_add]
        exact Nat.mul_lt_mul_of_pos_right hhigh (Nat.two_pow_pos _)
    rw [hlog, Nat.add_sub_cancel_left]
    refine ⟨f.fractions + fraction, by omega, rfl, ?_⟩
    rw [Nat.mul_succ, Nat.mul_comm]
    omega

/-- **A magnitude that the format has is rounded to itself.** -/
theorem nearestRank_of_eq {num den rank : Nat} (hden : 0 < den)
    (h : num <<< f.unitExponent = den * f.scaled rank) : f.nearestRank num den = rank := by
  obtain ⟨digits, -, hscaled, hrank⟩ := f.exists_digits rank
  have hquotient : den * f.scaled rank / den = f.scaled rank := Nat.mul_div_cancel_left _ hden
  simp only [nearestRank, h, hquotient]
  generalize hshift : (f.scaled rank).log2 - f.fractionBits = shift at hscaled hrank ⊢
  have hstep : den <<< shift = den * 2 ^ shift := Nat.shiftLeft_eq ..
  have hpos : 0 < den * 2 ^ shift := Nat.mul_pos hden (Nat.two_pow_pos _)
  have htotal : den * f.scaled rank = den * 2 ^ shift * digits := by
    rw [hscaled, Nat.mul_comm digits, Nat.mul_assoc]
  have hlow : den * f.scaled rank / den <<< shift = digits := by
    rw [hstep, htotal, Nat.mul_div_cancel_left _ hpos]
  have hleft : den * f.scaled rank % den <<< shift = 0 := by
    rw [hstep, htotal, Nat.mul_mod_right]
  rw [hlow, hleft, if_neg (by rw [hstep]; omega), Nat.shiftLeft_eq, ← f.fractions_eq, hrank]

end BinaryFormat

/-! ### Widening -/

namespace Binary

open BinaryFormat

/-- Magnitudes of 32 bits end long before those of 64 do, however far the units are apart. -/
theorem scaled_ranks_le {gap : Nat} (hgap : double.unitExponent = gap + single.unitExponent) :
    single.scaled single.ranks * 2 ^ gap ≤ double.scaled double.ranks := by
  have hsingle : single.ranks = single.fractions * (254 + 1) := by decide
  have hdouble : double.ranks = double.fractions * (2046 + 1) := by decide
  rw [hsingle, hdouble, scaled_fractions, scaled_fractions, ← Nat.pow_add, ← Nat.pow_add,
    ← Nat.pow_add]
  refine Nat.pow_le_pow_right (by decide) ?_
  have hfar : gap + 149 = 1074 := hgap.symm
  simp only [single, double]
  omega

section Gap

variable {gap : Nat} (hgap : double.unitExponent = gap + single.unitExponent)

include hgap

/-- Every magnitude of 32 bits is one of 64 bits, in other units. -/
theorem exists_rank (x : Binary .single) :
    ∃ rank < double.ranks, double.scaled rank = single.scaled x.rank * 2 ^ gap := by
  obtain ⟨digits, hdigits, hscaled, -⟩ := single.exists_digits x.rank
  have hfew : digits < 2 * double.fractions := Nat.lt_trans hdigits (by decide)
  obtain ⟨rank, hrank⟩ := double.exists_scaled_eq (_ + gap) digits hfew
  rw [Nat.pow_add, ← Nat.mul_assoc, ← hscaled] at hrank
  refine ⟨rank, double.scaled_strictMono.lt_iff_lt.1 ?_, hrank⟩
  rw [hrank]
  refine Nat.lt_of_lt_of_le ?_ (scaled_ranks_le hgap)
  exact Nat.mul_lt_mul_of_pos_right (single.scaled_strictMono x.rank_lt) (Nat.two_pow_pos _)

/-- **A number of 32 bits has its magnitude among those of 64 bits.** -/
theorem exists_widen (x : Binary .single) :
    ∃ y : Double, x.widen? = some y ∧ y.negative = x.negative ∧
      double.scaled y.rank = single.scaled x.rank * 2 ^ gap := by
  obtain ⟨rank, hlt, hscaled⟩ := exists_rank hgap x
  have hunits : single.scaled x.rank <<< double.unitExponent =
      2 ^ single.unitExponent * double.scaled rank := by
    rw [hscaled, Nat.shiftLeft_eq, hgap, Nat.pow_add, Nat.mul_comm, Nat.mul_comm (2 ^ gap),
      Nat.mul_assoc, Nat.mul_comm (2 ^ gap)]
  have hrank := double.nearestRank_of_eq (Nat.two_pow_pos _) hunits
  refine ⟨⟨x.negative, rank, hlt⟩, ?_, rfl, hscaled⟩
  rw [widen?, ofRatio?, Nat.one_shiftLeft, hrank, ofRank?, dif_pos hlt]

end Gap

theorem exists_gap : ∃ gap, double.unitExponent = gap + single.unitExponent := ⟨925, rfl⟩

theorem widen_ne_none (x : Binary .single) : x.widen? ≠ none := by
  obtain ⟨gap, hgap⟩ := exists_gap
  obtain ⟨y, hy, -⟩ := exists_widen hgap x
  exact hy ▸ nofun

/-- **Different numbers of 32 bits are different numbers of 64 bits.** -/
theorem widen_inj {x y : Binary .single} (h : x.widen? = y.widen?) : x = y := by
  obtain ⟨gap, hgap⟩ := exists_gap
  obtain ⟨x', hx, hsign, hscaled⟩ := exists_widen hgap x
  obtain ⟨y', hy, hsign', hscaled'⟩ := exists_widen hgap y
  obtain rfl : x' = y' := Option.some.inj (hx.symm.trans (h.trans hy))
  have hrank : x.rank = y.rank := by
    refine single.scaled_strictMono.injective ?_
    exact Nat.eq_of_mul_eq_mul_right (Nat.two_pow_pos gap) (hscaled.symm.trans hscaled')
  obtain ⟨negative, rank, rank_lt⟩ := x
  obtain ⟨negative', rank', rank_lt'⟩ := y
  obtain rfl : rank = rank' := hrank
  obtain rfl : negative = negative' := hsign.symm.trans hsign'
  rfl

end Binary

end DataTier
