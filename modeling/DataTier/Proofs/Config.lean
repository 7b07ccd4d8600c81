/-
**Which settings variables can ask for.**

Main results:

* `DataTier.Config.number?_eq_some_iff` — **which numbers a variable holds**;
* `DataTier.Config.number?_of_digits` — one that holds the digits of a number is read as that
  number, that of the life span by `cacheDefaultTtl_of_digits`;
* `DataTier.Config.nanos_cacheTtl` — results live for the configured number of seconds, which fits
  a word of 64 bits.
-/

import DataTier.Config
import DataTier.Proofs.Text.Decimal

set_option relaxedAutoImplicit false
set_option autoImplicit false

namespace DataTier

namespace Config

variable {vars : Variables} {name : String} {n bound : Nat}

/-- **The number that a variable holds**: its text spells one, and that is below the bound. -/
theorem number?_eq_some_iff :
    number? vars name bound = some n ↔
      ∃ text, vars name = some text ∧ n < bound ∧ Digits.Spells text.toList n := by
  rw [number?, Option.bind_eq_some_iff]
  simp only [Digits.below?_trim_eq_some_iff]

/-- A variable that holds the digits of a number below the bound is read as that number. -/
theorem number?_of_digits (hvar : vars name = some (String.ofList (Nat.toDigits 10 n)))
    (h : n < bound) : number? vars name bound = some n := by
  refine number?_eq_some_iff.2 ⟨_, hvar, h, ?_⟩
  have hspells := Digits.Style.spells_written {} n
  simpa [Digits.Style.written, Digits.Frame.around, Digits.sign] using hspells

theorem number?_lt (h : number? vars name bound = some n) : n < bound := by
  obtain ⟨text, -, hlt, -⟩ := number?_eq_some_iff.1 h
  exact hlt

theorem cacheDefaultTtl_lt (vars : Variables) :
    (ofVariables vars).cacheDefaultTtl < Word.size := by
  rw [ofVariables]
  cases h : number? vars "CACHE_DEFAULT_TTL" Word.size with
  | none => exact show 300 < Word.size by decide
  | some n => exact number?_lt h

theorem cacheDefaultTtl_of_digits (h : n < Word.size)
    (hvar : vars "CACHE_DEFAULT_TTL" = some (String.ofList (Nat.toDigits 10 n))) :
    (ofVariables vars).cacheDefaultTtl = n := by
  rw [ofVariables, number?_of_digits hvar h, Option.getD_some]

/-- Results live for the configured number of seconds. -/
theorem nanos_cacheTtl (vars : Variables) :
    (ofVariables vars).cacheTtl.nanos = (ofVariables vars).cacheDefaultTtl * nanosPerSecond := by
  have hlt := cacheDefaultTtl_lt vars
  exact Duration.nanos_ofNanos (Nat.mul_lt_mul_of_pos_right hlt (by decide))

end Config

end DataTier
