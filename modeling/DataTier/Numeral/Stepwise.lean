/-
**Decimals scaled in rounded steps.**

The digits of a decimal are taken from the left as one whole number, as many as fit a word of 64
bits; what comes after them counts by its length only.  That whole number is rounded to the format
of 64 bits and is then multiplied by, or divided by, a power of ten that is rounded too, and so is
the result.  Up to 15 digits and a power of ten up to the 22nd this is the nearest number; beyond
that the last bits can differ from it.

Main definitions:

* `DataTier.Stepwise.absorb` — a whole number takes the digits that fit;
* `DataTier.Stepwise.scale?` — a magnitude times a power of ten;
* `DataTier.Binary.ofDigits?` — the number that digits, a point and an exponent spell.
-/

import DataTier.Numeral.Binary
import DataTier.Text.Digits

set_option relaxedAutoImplicit false
set_option autoImplicit false

namespace DataTier

namespace Stepwise

/-- A whole number takes digits on its right while the result fits a word: the result, and how many
digits it took. -/
def absorb : Nat → List Char → Nat × Nat
  | n, [] => (n, 0)
  | n, c :: cs =>
    let next := 10 * n + Digits.value [c]
    if next < Word.size then
      let (m, taken) := absorb next cs
      (m, taken + 1)
    else (n, 0)

/-- The largest exponent of a power of ten that the format of 64 bits holds. -/
def widest : Nat := 308

/-- The rank of the magnitude nearest to a power of ten. -/
def powerRank (n : Nat) : Nat := BinaryFormat.double.nearestRank (Nat.pow 10 n) 1

/-- A magnitude divided by ten to the power `n`, by the largest power of ten first and as often as
it takes. -/
def shrink (rank n : Nat) : Nat :=
  if rank = 0 then 0
  else if n ≤ widest then BinaryFormat.double.quotientRank rank (powerRank n)
  else shrink (BinaryFormat.double.quotientRank rank (powerRank widest)) (n - widest)
termination_by n
decreasing_by unfold widest at *; omega

/-- A magnitude times ten to the power of an exponent, none when that power is beyond the format.
The result may be so too. -/
def scale? (rank : Nat) : Int → Option Nat
  | .ofNat n =>
    if n ≤ widest then some (BinaryFormat.double.productRank rank (powerRank n))
    else if rank = 0 then some 0
    else none
  | .negSucc n => some (shrink rank (n + 1))

end Stepwise

/-- The number that digits on both sides of a point and an exponent spell, with a sign; none when
it overflows. -/
def Binary.ofDigits? (negative : Bool) (whole fraction : List Char) (exponent : Int) :
    Option Double :=
  let (n, ahead) := Stepwise.absorb 0 whole
  let (n, behind) := Stepwise.absorb n fraction
  let power : Int := whole.length - ahead - behind + exponent
  (Stepwise.scale? (BinaryFormat.double.nearestRank n 1) power).bind (Binary.ofRank? negative)

end DataTier
