/-
**Hexadecimal digits read back.**

Main results:

* `DataTier.Hex.value?_fixed` — the digits of a number spell what is left of it in their width;
* `DataTier.Hex.fixed_inj` — different numbers that fit have different digits;
* `DataTier.Hex.fixed_eq_leftpad` — the digits of a number that fits are its hexadecimal digits
  behind zeros.
-/

import DataTier.Text.Hex
import Mathlib.Algebra.Group.Nat.Defs

set_option relaxedAutoImplicit false
set_option autoImplicit false

namespace DataTier.Hex

theorem digit_mod (n : Nat) : digit (n % 16) = digit n := by
  rw [digit, Nat.mod_mod, digit]

theorem digitValue?_digit (n : Nat) : digitValue? (digit n) = some (n % 16) := by
  have hall : ∀ d < 16, digitValue? (digit d) = some d := by decide
  rw [← digit_mod, hall (n % 16) (Nat.mod_lt n (by decide))]

/-- One more digit at the end. -/
theorem value?_append_digit {cs : List Char} {m : Nat} (h : value? cs = some m) (n : Nat) :
    value? (cs ++ [digit n]) = some (16 * m + n % 16) := by
  unfold value? at h ⊢
  rw [List.foldl_append, h]
  simp [digitValue?_digit]

/-- **The digits of a number spell what is left of it in their width.** -/
theorem value?_fixed (width n : Nat) : value? (fixed width n) = some (n % 16 ^ width) := by
  induction width generalizing n with
  | zero => simp [fixed, value?, Nat.mod_one]
  | succ width ih =>
      rw [fixed, value?_append_digit (ih (n / 16)), Nat.pow_succ, Nat.mul_comm (16 ^ width),
        Nat.mod_mul, Nat.add_comm]

/-- **Different numbers that fit have different digits.** -/
theorem fixed_inj {width n m : Nat} (hn : n < 16 ^ width) (hm : m < 16 ^ width)
    (h : fixed width n = fixed width m) : n = m := by
  have hvalue := congrArg value? h
  rw [value?_fixed, value?_fixed, Nat.mod_eq_of_lt hn, Nat.mod_eq_of_lt hm] at hvalue
  exact Option.some.inj hvalue

/-- A digit is one of `0` to `9` or `a` to `f`. -/
theorem digit_range (n : Nat) :
    '0' ≤ digit n ∧ digit n ≤ '9' ∨ 'a' ≤ digit n ∧ digit n ≤ 'f' := by
  have hall : ∀ d < 16, '0' ≤ digit d ∧ digit d ≤ '9' ∨ 'a' ≤ digit d ∧ digit d ≤ 'f' := by decide
  exact digit_mod n ▸ hall (n % 16) (Nat.mod_lt n (by decide))

theorem range_of_mem_fixed {width n : Nat} {c : Char} (h : c ∈ fixed width n) :
    '0' ≤ c ∧ c ≤ '9' ∨ 'a' ≤ c ∧ c ≤ 'f' := by
  induction width generalizing n with
  | zero => cases h
  | succ width ih =>
      rcases List.mem_append.1 h with hhigh | hlow
      · exact ih hhigh
      · exact List.mem_singleton.1 hlow ▸ digit_range n

theorem fixed_zero (width : Nat) : fixed width 0 = List.replicate width '0' := by
  induction width with
  | zero => rfl
  | succ width ih =>
      rw [fixed, Nat.zero_div, ih, List.replicate_succ']
      rfl

theorem toDigits_of_lt {n : Nat} (h : n < 16) : Nat.toDigits 16 n = [digit n] := by
  have hall : ∀ d < 16, Nat.digitChar d = digit d := by decide
  rw [Nat.toDigits_of_lt_base h, hall n h]

/-- **The digits of a number that fits are its hexadecimal digits behind zeros.** -/
theorem fixed_eq_leftpad {width n : Nat} (h : n < 16 ^ (width + 1)) :
    fixed (width + 1) n = (Nat.toDigits 16 n).leftpad (width + 1) '0' := by
  induction width generalizing n with
  | zero =>
      rw [toDigits_of_lt h]
      rfl
  | succ width ih =>
      rw [fixed]
      rcases Nat.eq_zero_or_pos (n / 16) with hsmall | hlarge
      · -- Nothing but zeros stands before the only digit.
        rw [hsmall, fixed_zero, toDigits_of_lt (by omega)]
        rfl
      · have hlow : n % 16 < 16 := Nat.mod_lt n (by decide)
        have hdigits := Nat.toDigits_append_toDigits (by decide) hlarge hlow
        rw [Nat.div_add_mod, toDigits_of_lt hlow, digit_mod] at hdigits
        rw [ih (by omega), ← hdigits, List.leftpad, List.leftpad, List.length_append,
          List.length_singleton, Nat.add_sub_add_right, List.append_assoc]

end DataTier.Hex
