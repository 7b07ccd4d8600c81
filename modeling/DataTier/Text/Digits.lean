/-
Numbers that texts spell in decimal.

Main definitions:

* `DataTier.Digits.value` — the number that digits spell;
* `DataTier.Digits.natural?` — the number of a text of digits;
* `DataTier.Digits.below?` — the number below a bound, after an optional plus sign;
* `DataTier.Digits.integer?` — the integer of digits after an optional sign.
-/

import DataTier.Word

set_option relaxedAutoImplicit false
set_option autoImplicit false

namespace DataTier.Digits

/-- The number that decimal digits spell. -/
def value (digits : List Char) : Nat :=
  digits.foldl (fun n c => 10 * n + (c.toNat - '0'.toNat)) 0

/-- The number that a text spells, none for the empty text and for one with a character that is no
ASCII digit. -/
def natural? (cs : List Char) : Option Nat :=
  if cs.isEmpty ∨ ¬ cs.all Char.isDigit then none else some (value cs)

/-- The number below `bound` that an optional plus sign and digits spell. -/
def below? (bound : Nat) (cs : List Char) : Option Nat :=
  let digits := match cs with
    | '+' :: rest => rest
    | _ => cs
  (natural? digits).filter (· < bound)

/-- The integer that an optional sign and digits spell. -/
def integer? : List Char → Option Int
  | '-' :: digits => (natural? digits).map fun n => -(n : Int)
  | '+' :: digits => (natural? digits).map fun n => (n : Int)
  | digits => (natural? digits).map fun n => (n : Int)

/-- Whether a text spells an integer that fits a word of 64 bits. -/
def isInteger (cs : List Char) : Bool :=
  match integer? cs with
  | some n => -(Word.signedSize : Int) ≤ n && n < Word.signedSize
  | none => false

end DataTier.Digits
