/-
**Different magnitudes have no decimal in common.**

The magnitudes of a binary format increase with their rank, and the decimals that stand for one of
them lie between the points half way to its neighbours.  Two neighbours share such a point, but it
stands for the one of even rank only.

Main results:

* `DataTier.BinaryFormat.scaled_strictMono` — magnitudes increase;
* `DataTier.Shortest.eq_of_holds` — a point stands for one magnitude at most;
* `DataTier.Shortest.holds_search` — the point that the search finds stands for its magnitude.
-/

import DataTier.Numeral.Shortest
import Mathlib.Order.Monotone.Basic
import Mathlib.Algebra.Group.Nat.Defs

set_option relaxedAutoImplicit false
set_option autoImplicit false

namespace DataTier

/-! ### Magnitudes -/

namespace BinaryFormat

variable (f : BinaryFormat)

/-- The number of fractions: as many magnitudes share an exponent. -/
def fractions : Nat := 1 <<< f.fractionBits

theorem fractions_pos : 0 < f.fractions := by
  rw [fractions, Nat.one_shiftLeft]
  exact Nat.two_pow_pos _

theorem scaled_of_lt {rank : Nat} (h : rank < f.fractions) : f.scaled rank = rank := if_pos h

theorem scaled_add {fraction : Nat} (h : fraction < f.fractions) (exponent : Nat) :
    f.scaled (f.fractions * (exponent + 1) + fraction) =
      (f.fractions + fraction) * 2 ^ exponent := by
  have hpos := f.fractions_pos
  have hle : ¬f.fractions * (exponent + 1) + fraction < f.fractions := by
    rw [Nat.mul_succ]
    omega
  have hmod : (f.fractions * (exponent + 1) + fraction) % f.fractions = fraction := by
    rw [Nat.mul_add_mod, Nat.mod_eq_of_lt h]
  have hdiv : (f.fractions * (exponent + 1) + fraction) / f.fractions = exponent + 1 := by
    rw [Nat.mul_add_div hpos, Nat.div_eq_of_lt h, Nat.add_zero]
  refine (if_neg hle).trans ?_
  change (f.fractions + (_ % f.fractions)) <<< (_ / f.fractions - 1) = _
  rw [hmod, hdiv, Nat.shiftLeft_eq, Nat.add_sub_cancel]

/-- The rank of a magnitude with a leading digit is made of its exponent and its fraction. -/
theorem exists_eq_of_le {rank : Nat} (h : f.fractions ≤ rank) :
    ∃ exponent fraction, fraction < f.fractions ∧
      rank = f.fractions * (exponent + 1) + fraction := by
  obtain ⟨exponent, hexponent⟩ : ∃ e, rank / f.fractions = e + 1 :=
    Nat.exists_eq_succ_of_ne_zero (Nat.ne_of_gt (Nat.div_pos h f.fractions_pos))
  refine ⟨exponent, rank % f.fractions, Nat.mod_lt rank f.fractions_pos, ?_⟩
  rw [← hexponent, Nat.div_add_mod]

theorem scaled_lt_succ (rank : Nat) : f.scaled rank < f.scaled (rank + 1) := by
  have hpos := f.fractions_pos
  by_cases hsub : rank < f.fractions
  · rw [f.scaled_of_lt hsub]
    by_cases hsub' : rank + 1 < f.fractions
    · rw [f.scaled_of_lt hsub']
      exact Nat.lt_succ_self rank
    · -- The least magnitude with a leading one.
      have hedge : rank + 1 = f.fractions * (0 + 1) + 0 := by omega
      rw [hedge, f.scaled_add hpos]
      omega
  · obtain ⟨exponent, fraction, hlt, rfl⟩ := f.exists_eq_of_le (Nat.le_of_not_lt hsub)
    rw [f.scaled_add hlt]
    by_cases hnext : fraction + 1 < f.fractions
    · rw [Nat.add_assoc, f.scaled_add hnext]
      exact Nat.mul_lt_mul_of_pos_right (by omega) (Nat.two_pow_pos exponent)
    · -- The exponent goes up, and the fraction back to zero.
      have hwrap : f.fractions * (exponent + 1) + fraction + 1 =
          f.fractions * (exponent + 1 + 1) + 0 := by
        rw [Nat.mul_succ f.fractions (exponent + 1)]
        omega
      rw [hwrap, f.scaled_add hpos, Nat.pow_succ, Nat.add_zero, Nat.mul_comm (2 ^ exponent),
        ← Nat.mul_assoc]
      exact Nat.mul_lt_mul_of_pos_right (by omega) (Nat.two_pow_pos exponent)

theorem scaled_strictMono : StrictMono f.scaled := strictMono_nat_of_lt_succ f.scaled_lt_succ

end BinaryFormat

/-! ### Points that stand for a magnitude -/

namespace Shortest

variable {f : BinaryFormat} {i : Interval} {n : Nat}

theorem Interval.le_of_holds (h : i.holds n = true) : i.low ≤ n ∧ n ≤ i.high := by
  unfold holds at h
  split at h
  · simpa using h
  · simp only [Bool.and_eq_true, decide_eq_true_eq] at h
    omega

theorem Interval.lt_of_holds (h : i.holds n = true) (hopen : i.closed = false) :
    i.low < n ∧ n < i.high := by
  simpa [holds, hopen] using h

theorem fine_pos (f : BinaryFormat) : 0 < Nat.pow 5 (f.unitExponent + 1) :=
  Nat.pow_pos (by decide)

/-- The stretch of a magnitude ends where that of a greater one begins, or before. -/
theorem high_le_low {r q : Nat} (h : r < q) : (interval f r).high ≤ (interval f q).low := by
  have hmono := f.scaled_strictMono.monotone
  refine Nat.mul_le_mul_right _ (Nat.add_le_add (hmono ?_) (hmono h))
  omega

theorem high_lt_low {r q : Nat} (h : r + 1 < q) : (interval f r).high < (interval f q).low := by
  have hmono := f.scaled_strictMono
  refine Nat.mul_lt_mul_of_pos_right (Nat.add_lt_add (hmono ?_) (hmono ?_)) (fine_pos f)
  · omega
  · omega

theorem not_holds_of_lt {r q : Nat} (h : r < q) (hr : (interval f r).holds n = true) :
    (interval f q).holds n = false := by
  by_contra hq
  rw [Bool.not_eq_false] at hq
  have hle := high_le_low (f := f) h
  have hin := Interval.le_of_holds hr
  have hin' := Interval.le_of_holds hq
  by_cases hnext : r + 1 = q
  · -- Of two neighbours one has an odd rank, and its ends do not stand for it.
    rcases Nat.mod_two_eq_zero_or_one r with heven | hodd
    · have hopen : (interval f q).closed = false := by
        simp only [interval, beq_eq_false_iff_ne]
        omega
      have := Interval.lt_of_holds hq hopen
      omega
    · have hopen : (interval f r).closed = false := by
        simp only [interval, beq_eq_false_iff_ne]
        omega
      have := Interval.lt_of_holds hr hopen
      omega
  · have := high_lt_low (f := f) (show r + 1 < q by omega)
    omega

/-- **A point stands for one magnitude at most.** -/
theorem eq_of_holds {r q : Nat} (hr : (interval f r).holds n = true)
    (hq : (interval f q).holds n = true) : r = q := by
  rcases Nat.lt_trichotomy r q with h | h | h
  · rw [not_holds_of_lt h hr] at hq
    cases hq
  · exact h
  · rw [not_holds_of_lt h hq] at hr
    cases hr

/-! ### The search -/

theorem holds_mid {rank : Nat} (h : rank ≠ 0) :
    (interval f rank).holds (interval f rank).mid = true := by
  have hbelow := f.scaled_strictMono (show rank - 1 < rank by omega)
  have habove := f.scaled_lt_succ rank
  have hfine := fine_pos f
  have hlow : (interval f rank).low < (interval f rank).mid :=
    Nat.mul_lt_mul_of_pos_right (by omega) hfine
  have hhigh : (interval f rank).mid < (interval f rank).high :=
    Nat.mul_lt_mul_of_pos_right (by omega) hfine
  unfold Interval.holds
  split
  · simp [Nat.le_of_lt hlow, Nat.le_of_lt hhigh]
  · simp [hlow, hhigh]

theorem holds_onGrid {k : Nat} (h : onGrid i k = some n) : i.holds (n * 10 ^ k) = true := by
  unfold onGrid at h
  simp only at h
  split at h
  · next hbelow habove =>
    split at h
    · rw [← Option.some.inj h]
      exact hbelow
    · rw [← Option.some.inj h]
      exact habove
  · next hbelow _ =>
    rw [← Option.some.inj h]
    exact hbelow
  · next _ habove =>
    rw [← Option.some.inj h]
    exact habove
  · cases h

/-- **What the search finds stands for the value**, if the value stands for itself. -/
theorem holds_search (hmid : i.holds i.mid = true) (k : Nat) :
    i.holds ((search i k).1 * 10 ^ (search i k).2) = true := by
  induction k with
  | zero => simpa [search] using hmid
  | succ k ih =>
      unfold search
      cases h : onGrid i (k + 1) with
      | none => exact ih
      | some n => exact holds_onGrid h

end Shortest

end DataTier
