/-
Floating-point words from their texts.

Main definitions:

* `DataTier.Extended.ofText?` — the word nearest to the number that a text spells, with the names
  of the infinities and of what is not a number.
-/

import DataTier.Numeral.Binary
import DataTier.Text.Digits

set_option relaxedAutoImplicit false
set_option autoImplicit false

namespace DataTier

namespace Extended

variable {f : BinaryFormat}

/-- The word of a sign, the digits on both sides of the point and the exponent. -/
def ofParts? (negative : Bool) (whole fraction : List Char) (exponent : Option Int) :
    Option (Extended f) :=
  if (whole ++ fraction).isEmpty then none
  else exponent.map fun e =>
    match Binary.ofDecimal? negative (Digits.value (whole ++ fraction)) (e - fraction.length) with
    | some x => .finite x
    | none => .infinite negative

/-- The word of a text without a sign. -/
def magnitude? (negative : Bool) (cs : List Char) : Option (Extended f) :=
  let lower := cs.map Char.toLower
  if lower = ['n', 'a', 'n'] then some .nan
  else if lower = ['i', 'n', 'f'] ∨ lower = ['i', 'n', 'f', 'i', 'n', 'i', 't', 'y'] then
    some (.infinite negative)
  else
    let whole := lower.takeWhile Char.isDigit
    let rest := lower.dropWhile Char.isDigit
    let (fraction, rest) := match rest with
      | '.' :: rest => (rest.takeWhile Char.isDigit, rest.dropWhile Char.isDigit)
      | _ => ([], rest)
    match rest with
    | [] => ofParts? negative whole fraction (some 0)
    | 'e' :: rest => ofParts? negative whole fraction (Digits.integer? rest)
    | _ => none

/-- The word nearest to the number that a text spells; a number too large is infinite. -/
def ofText? (text : String) : Option (Extended f) :=
  match text.toList with
  | '-' :: cs => magnitude? true cs
  | '+' :: cs => magnitude? false cs
  | cs => magnitude? false cs

end Extended

end DataTier
