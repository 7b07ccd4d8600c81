/-
Binary floating-point numbers, exactly.

A format has finitely many finite magnitudes, and they are in order: a finite number is a sign and
the **rank** of its magnitude in that order.  Rank zero is zero, rank one the least positive
magnitude, and the rank is the bit pattern without its sign bit.  Every magnitude is a whole
multiple of the least one, so rounding a quotient of naturals is arithmetic on naturals.

Main definitions:

* `DataTier.BinaryFormat` — the widths of a format, with `BinaryFormat.single` and `.double`;
* `DataTier.BinaryFormat.scaled` — the magnitude of a rank, in units of the least one;
* `DataTier.BinaryFormat.nearestRank` — the magnitude nearest to a quotient, ties to the even rank,
  and `productRank`, `quotientRank`, which compute with magnitudes and round;
* `DataTier.Binary` — a finite number; `Binary.ofDecimal?` rounds a decimal to one;
* `DataTier.Extended` — a finite number, an infinity or not a number.
-/

set_option relaxedAutoImplicit false
set_option autoImplicit false

namespace DataTier

/-- The widths of the fields of a binary floating-point format. -/
structure BinaryFormat where
  /-- The bits of the fraction, without the leading one. -/
  fractionBits : Nat
  /-- The bits of the exponent. -/
  exponentBits : Nat

namespace BinaryFormat

/-- The format of 32 bits. -/
def single : BinaryFormat := ⟨23, 8⟩

/-- The format of 64 bits. -/
def double : BinaryFormat := ⟨52, 11⟩

variable (f : BinaryFormat)

/-- The number of finite magnitudes. -/
def ranks : Nat := (1 <<< f.exponentBits - 1) <<< f.fractionBits

/-- The least positive magnitude is two to the power of minus this. -/
def unitExponent : Nat := 1 <<< (f.exponentBits - 1) + f.fractionBits - 2

/-- The magnitude of a rank, in units of the least positive magnitude. -/
def scaled (rank : Nat) : Nat :=
  let fractions := 1 <<< f.fractionBits
  if rank < fractions then rank
  else (fractions + rank % fractions) <<< (rank / fractions - 1)

/-- The rank of the magnitude nearest to `num / den`, of two equally near the even one.  A result
that is not below `ranks` means that the quotient is too large for the format. -/
def nearestRank (num den : Nat) : Nat :=
  let total := num <<< f.unitExponent
  let shift := (total / den).log2 - f.fractionBits
  let step := den <<< shift
  let low := total / step
  let left := total % step
  let rank := shift <<< f.fractionBits + low
  if step < 2 * left ∨ (2 * left = step ∧ low % 2 = 1) then rank + 1 else rank

/-- The rank of the magnitude nearest to the product of two magnitudes. -/
def productRank (a b : Nat) : Nat :=
  f.nearestRank (f.scaled a * f.scaled b) (1 <<< (2 * f.unitExponent))

/-- The rank of the magnitude nearest to the quotient of two magnitudes. -/
def quotientRank (a b : Nat) : Nat := f.nearestRank (f.scaled a) (f.scaled b)

end BinaryFormat

/-- A finite number of a format. -/
structure Binary (f : BinaryFormat) where
  /-- Whether the sign bit is set; zero has a sign too. -/
  negative : Bool
  /-- The place of the magnitude in the order of magnitudes. -/
  rank : Nat
  /-- The magnitude is finite. -/
  rank_lt : rank < f.ranks
  deriving DecidableEq

/-- A finite number of 64 bits. -/
abbrev Double := Binary .double

namespace Binary

variable {f : BinaryFormat}

/-- The number of a sign and a rank, none when the rank is beyond the finite ones. -/
def ofRank? (negative : Bool) (rank : Nat) : Option (Binary f) :=
  if h : rank < f.ranks then some ⟨negative, rank, h⟩ else none

/-- The number nearest to `num / den` with a sign, none when that overflows. -/
def ofRatio? (negative : Bool) (num den : Nat) : Option (Binary f) :=
  ofRank? negative (f.nearestRank num den)

/-- The number of digits of a natural number, none for zero. -/
def digitCount (n : Nat) : Nat := if n = 0 then 0 else (Nat.toDigits 10 n).length

/-- The number nearest to `coefficient * 10 ^ exponent` with a sign, none when that overflows.
Far outside the format's range the answer is known without the power. -/
def ofDecimal? (negative : Bool) (coefficient : Nat) (exponent : Int) : Option (Binary f) :=
  let order := digitCount coefficient + exponent
  if coefficient = 0 then ofRank? negative 0
  else if Int.ofNat (1 <<< (f.exponentBits - 1)) + 1 < order then none
  else if order < -(f.unitExponent + 2 : Int) then ofRank? negative 0
  else if 0 ≤ exponent then ofRatio? negative (coefficient * Nat.pow 10 exponent.toNat) 1
  else ofRatio? negative coefficient (Nat.pow 10 (-exponent).toNat)

/-- Zero with a positive sign. -/
def zero : Double := ⟨false, 0, by decide⟩

/-- The number of 64 bits nearest to a natural number that it can hold. -/
def ofNat? (n : Nat) : Option Double := ofRatio? false n 1

/-- The same number in the format of 64 bits. -/
def widen? (x : Binary f) : Option Double :=
  ofRatio? x.negative (f.scaled x.rank) (1 <<< f.unitExponent)

end Binary

/-- What a floating-point word of a format can hold. -/
inductive Extended (f : BinaryFormat) where
  /-- A finite number. -/
  | finite (x : Binary f)
  /-- Infinity of either sign. -/
  | infinite (negative : Bool)
  /-- Not a number. -/
  | nan
  deriving DecidableEq

/-- The name of an infinity, or of what is not a number. -/
def Extended.nonFiniteName? {f : BinaryFormat} : Extended f → Option String
  | .finite _ => none
  | .infinite false => some "inf"
  | .infinite true => some "-inf"
  | .nan => some "NaN"

/-- The quotient of two counts as it is computed in the format of 64 bits: both are rounded to the
format, then their quotient is.  Zero when nothing was counted. -/
def countRatio (part whole : Nat) : Double :=
  if whole = 0 then Binary.zero
  else
    let f := BinaryFormat.double
    (Binary.ofRank? false (f.quotientRank (f.nearestRank part 1) (f.nearestRank whole 1))).getD
      Binary.zero

end DataTier
