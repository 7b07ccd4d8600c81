/-
**Which texts are read as which numbers.**

A number is read from a text when blanks, an optional plus sign, one or more digits and blanks make
up the text; it is the number that the digits stand for by their places, with any zeros in front.
A number too large for its bound is not read at all.

Main definitions:

* `DataTier.Digits.placeValue` — the number that digits stand for;
* `DataTier.Digits.Frame` — what may stand around the digits;
* `DataTier.Digits.Spells` — whether a text spells a number;
* `DataTier.Digits.Style` — a way to write numbers.

Main results:

* `DataTier.Digits.below?_trim_eq_some_iff` — **a number is read exactly from the texts that spell
  it**;
* `DataTier.Digits.Style.spells_written` — however a number is written, the text spells it.
-/

import DataTier.Proofs.Text.Chars
import DataTier.Text.Blank
import DataTier.Text.Digits
import Mathlib.Data.List.Induction
import Mathlib.Data.Nat.Digits.Defs

set_option relaxedAutoImplicit false
set_option autoImplicit false

namespace DataTier

/-- No digit is blank. -/
theorem Blank.isBlank_of_isDigit {c : Char} (h : c.isDigit = true) : isBlank c = false := by
  have hdigit : 48 ≤ c.toNat ∧ c.toNat ≤ 57 := by
    simpa [Char.isDigit, UInt32.le_iff_toNat_le] using h
  simp only [isBlank, Bool.or_eq_false_iff, Bool.and_eq_false_iff, decide_eq_false_iff_not,
    beq_eq_false_iff_ne]
  omega

namespace Digits

variable {cs digits : List Char} {n bound : Nat}

/-! ### Digits -/

theorem value_toDigits (n : Nat) : value (Nat.toDigits 10 n) = n :=
  Nat.ofDigitChars_ten_toDigits

theorem isDigit_toDigits {c : Char} (h : c ∈ Nat.toDigits 10 n) : c.isDigit = true :=
  Nat.isDigit_of_mem_toDigits (by decide) (by decide) h

/-- The number that digits stand for: each counts as much as its place says, the last one ones. -/
def placeValue (digits : List Char) : Nat :=
  Nat.ofDigits 10 (digits.reverse.map fun c => c.toNat - '0'.toNat)

theorem value_concat (digits : List Char) (c : Char) :
    value (digits ++ [c]) = 10 * value digits + (c.toNat - '0'.toNat) := by
  rw [value, List.foldl_append]
  rfl

/-- Reading from left to right counts the digits by their places. -/
theorem value_eq_placeValue (digits : List Char) : value digits = placeValue digits := by
  induction digits using List.reverseRecOn with
  | nil => rfl
  | append_singleton digits c ih =>
      rw [value_concat, ih, placeValue, placeValue, List.reverse_concat, List.map_cons,
        Nat.ofDigits_cons, Nat.add_comm]

theorem value_replicate_append (zeros : Nat) (digits : List Char) :
    value (List.replicate zeros '0' ++ digits) = value digits := by
  show Nat.ofDigitChars 10 _ 0 = Nat.ofDigitChars 10 _ 0
  rw [Nat.ofDigitChars_append, Nat.ofDigitChars_replicate_zero, Nat.mul_zero]

theorem natural?_eq_some_iff :
    natural? cs = some n ↔ cs ≠ [] ∧ (∀ c ∈ cs, c.isDigit = true) ∧ placeValue cs = n := by
  rw [natural?, value_eq_placeValue]
  by_cases h : cs.isEmpty = true ∨ ¬ cs.all Char.isDigit = true
  · rw [if_pos h]
    refine ⟨nofun, fun ⟨hne, hall, _⟩ => ?_⟩
    rcases h with hempty | hother
    · exact absurd (List.isEmpty_iff.1 hempty) hne
    · exact absurd (List.all_eq_true.2 hall) hother
  · rw [if_neg h]
    obtain ⟨hne, hall⟩ := not_or.1 h
    have hall := List.all_eq_true.1 (Classical.not_not.1 hall)
    refine ⟨fun hvalue => ⟨?_, hall, Option.some.inj hvalue⟩, fun ⟨_, _, hvalue⟩ => by rw [hvalue]⟩
    rintro rfl
    exact hne rfl

/-- A plus sign, if one is wanted. -/
def sign (plus : Bool) : List Char := if plus then ['+'] else []

/-- A number below a bound is what digits with or without a plus sign stand for. -/
theorem below?_eq_some_iff :
    below? bound cs = some n ↔
      n < bound ∧ ∃ plus digits, cs = sign plus ++ digits ∧ natural? digits = some n := by
  constructor
  · intro h
    obtain ⟨hnatural, hbound⟩ := Option.filter_eq_some_iff.1 h
    refine ⟨of_decide_eq_true hbound, ?_⟩
    split at hnatural
    · next rest => exact ⟨true, rest, rfl, hnatural⟩
    · exact ⟨false, cs, rfl, hnatural⟩
  · rintro ⟨hbound, plus, digits, rfl, hnatural⟩
    refine Option.filter_eq_some_iff.2 ⟨?_, decide_eq_true hbound⟩
    cases plus with
    | true => exact hnatural
    | false =>
        split
        · next rest hplus =>
          -- Digits do not begin with a sign.
          obtain ⟨-, hdigits, -⟩ := natural?_eq_some_iff.1 hnatural
          obtain rfl : digits = '+' :: rest := hplus
          exact absurd (hdigits '+' List.mem_cons_self) (by decide)
        · exact hnatural

/-! ### Texts -/

/-- What may stand around the digits of a number: blanks, and a plus sign before them. -/
structure Frame where
  /-- What stands first. -/
  before : List Char := []
  /-- Whether there is a plus sign. -/
  plus : Bool := false
  /-- What stands last. -/
  after : List Char := []
  before_blank : before.all Blank.isBlank = true := by decide
  after_blank : after.all Blank.isBlank = true := by decide

/-- Digits with what stands around them. -/
def Frame.around (f : Frame) (digits : List Char) : List Char :=
  f.before ++ (sign f.plus ++ digits) ++ f.after

/-- Whether a text spells a number: one or more digits stand for it, and nothing is around them but
blanks and a plus sign. -/
def Spells (text : List Char) (n : Nat) : Prop :=
  ∃ (f : Frame) (digits : List Char), text = f.around digits ∧
    digits ≠ [] ∧ (∀ c ∈ digits, c.isDigit = true) ∧ placeValue digits = n

/-- Trimming leaves the sign and the digits. -/
theorem Frame.trim_around (f : Frame) (h : ∀ c ∈ digits, c.isDigit = true) :
    Blank.trim (f.around digits) = sign f.plus ++ digits := by
  refine Chars.trim_append (List.all_eq_true.1 f.before_blank) (fun c hc => ?_)
    (List.all_eq_true.1 f.after_blank)
  rcases List.mem_append.1 hc with hsign | hdigit
  · cases hplus : f.plus with
    | true =>
        rw [hplus] at hsign
        rw [List.mem_singleton.1 hsign]
        decide
    | false =>
        rw [hplus] at hsign
        cases hsign
  · exact Blank.isBlank_of_isDigit (h c hdigit)

/-- **A number is read exactly from the texts that spell it**, if it is below the bound. -/
theorem below?_trim_eq_some_iff :
    below? bound (Blank.trim cs) = some n ↔ n < bound ∧ Spells cs n := by
  rw [below?_eq_some_iff]
  refine and_congr_right fun _ => ⟨?_, ?_⟩
  · rintro ⟨plus, digits, htrim, hnatural⟩
    obtain ⟨before, after, hcs, hbefore, hafter⟩ := Chars.exists_trim Blank.isBlank cs
    refine ⟨⟨before, plus, after, List.all_eq_true.2 hbefore, List.all_eq_true.2 hafter⟩, digits,
      ?_, natural?_eq_some_iff.1 hnatural⟩
    rw [Frame.around, ← htrim]
    exact hcs
  · rintro ⟨f, digits, rfl, hne, hdigits, hvalue⟩
    exact ⟨f.plus, digits, f.trim_around hdigits,
      natural?_eq_some_iff.2 ⟨hne, hdigits, hvalue⟩⟩

/-! ### Writing -/

/-- A way to write numbers: what stands around the digits, and how many zeros before them. -/
structure Style extends Frame where
  /-- How many zeros stand first among the digits. -/
  zeros : Nat := 0

/-- A number in decimal, with leading zeros and what stands around the digits. -/
def Style.written (s : Style) (n : Nat) : List Char :=
  s.around (List.replicate s.zeros '0' ++ Nat.toDigits 10 n)

/-- **However a number is written, the text spells it.** -/
theorem Style.spells_written (s : Style) (n : Nat) : Spells (s.written n) n := by
  refine ⟨s.toFrame, _, rfl, ?_, ?_, ?_⟩
  · exact List.append_ne_nil_of_right_ne_nil _ Nat.toDigits_ne_nil
  · intro c hc
    rcases List.mem_append.1 hc with hzero | hdigit
    · rw [List.eq_of_mem_replicate hzero]
      decide
    · exact isDigit_toDigits hdigit
  · rw [← value_eq_placeValue, value_replicate_append, value_toDigits]

end Digits

end DataTier
