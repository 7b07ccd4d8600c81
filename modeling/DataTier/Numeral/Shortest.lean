/-
**The fewest digits that read back.**

A finite binary number is spelled by the shortest decimal that rounds to it, and of those by the
nearest; of two equally near ones by the one with an even last digit.  Every magnitude of a format
is a finite decimal, so the number, its two neighbours and the points half way between them are
whole numbers on one fine decimal grid.  The search starts at the coarsest grid and takes the first
one that has a point within the interval.

Main definitions:

* `DataTier.Shortest.decimal` — digits and exponent of the shortest decimal;
* `DataTier.FloatLayout` — how digits and exponent are laid out as text;
* `DataTier.Binary.chars` — the text of a finite number.
-/

import DataTier.Numeral.Binary
import DataTier.Text.Chars

set_option relaxedAutoImplicit false
set_option autoImplicit false

namespace DataTier

namespace Shortest

/-- A stretch of whole numbers around a value: the points that stand for that value. -/
structure Interval where
  /-- The lower end. -/
  low : Nat
  /-- The value itself. -/
  mid : Nat
  /-- The upper end. -/
  high : Nat
  /-- Whether the ends belong to the interval. -/
  closed : Bool

/-- Whether a point stands for the value. -/
def Interval.holds (i : Interval) (n : Nat) : Bool :=
  if i.closed then i.low ≤ n && n ≤ i.high else i.low < n && n < i.high

/-- The reals that round to the magnitude of a rank, in units of ten to the power of minus
`unitExponent + 1`.  The ends round to the magnitude exactly when its rank is even. -/
def interval (f : BinaryFormat) (rank : Nat) : Interval :=
  let fine := Nat.pow 5 (f.unitExponent + 1)
  { low := (f.scaled (rank - 1) + f.scaled rank) * fine
    mid := 2 * f.scaled rank * fine
    high := (f.scaled rank + f.scaled (rank + 1)) * fine
    closed := rank % 2 == 0 }

/-- The point nearest to the value among its two neighbours on the grid of step `10 ^ k`, if one of
them stands for the value; of two equally near the one with an even last digit. -/
def onGrid (i : Interval) (k : Nat) : Option Nat :=
  let step := Nat.pow 10 k
  let below := i.mid / step
  let above := below + 1
  match i.holds (below * step), i.holds (above * step) with
  | true, true =>
    let toBelow := i.mid - below * step
    let toAbove := above * step - i.mid
    if toBelow < toAbove ∨ (toBelow = toAbove ∧ below % 2 = 0) then some below else some above
  | true, false => some below
  | false, true => some above
  | false, false => none

/-- The first grid with a point for the value, from the step `10 ^ k` down. -/
def search (i : Interval) : Nat → Nat × Nat
  | 0 => (i.mid, 0)
  | k + 1 =>
    match onGrid i (k + 1) with
    | some n => (n, k + 1)
    | none => search i k

/-- The digits of the shortest decimal for the magnitude of a positive rank, and the number of
places that the decimal point stands to the right of the first digit's left side. -/
def decimal (f : BinaryFormat) (rank : Nat) : List Char × Int :=
  let i := interval f rank
  let width := (Nat.toDigits 10 i.mid).length
  let (n, k) := search i (width - 1)
  let digits := Nat.toDigits 10 n
  (Chars.trimEnd (· == '0') digits,
    (digits.length : Int) + k - (f.unitExponent + 1))

end Shortest

/-- How a decimal is laid out: for which exponents it is written without an exponent. -/
structure FloatLayout where
  /-- The least decimal exponent written plainly. -/
  plainFrom : Int
  /-- The greatest decimal exponent written plainly. -/
  plainTo : Int

namespace FloatLayout

/-- Numbers of 64 bits are written plainly from `1e-5` up to below `1e16`. -/
def double : FloatLayout := ⟨-5, 15⟩

/-- Numbers of 32 bits are written plainly from `1e-6` up to below `1e13`. -/
def single : FloatLayout := ⟨-6, 12⟩

/-- Digits with the point `point` places to the right of their beginning.  A plain number has at
least one digit on either side of the point; any other has one digit before it, and an exponent
with its sign. -/
def lay (layout : FloatLayout) (digits : List Char) (point : Int) : List Char :=
  let exponent := point - 1
  if layout.plainFrom ≤ exponent ∧ exponent ≤ layout.plainTo then
    if point ≤ 0 then '0' :: '.' :: (List.replicate (-point).toNat '0' ++ digits)
    else
      let whole := digits.take point.toNat
      let fraction := digits.drop point.toNat
      whole ++ List.replicate (point.toNat - digits.length) '0' ++
        '.' :: (if fraction.isEmpty then ['0'] else fraction)
  else
    let fraction := digits.drop 1
    digits.take 1 ++ (if fraction.isEmpty then [] else '.' :: fraction) ++
      'e' :: (if exponent < 0 then '-' else '+') :: Nat.toDigits 10 exponent.natAbs

end FloatLayout

/-- The text of a finite number under a layout; zero is `0.0`, with its sign. -/
def Binary.charsIn (layout : FloatLayout) {f : BinaryFormat} (x : Binary f) : List Char :=
  let magnitude :=
    if x.rank = 0 then ['0', '.', '0']
    else
      let (digits, point) := Shortest.decimal f x.rank
      layout.lay digits point
  if x.negative then '-' :: magnitude else magnitude

/-- The text of a finite number of 64 bits. -/
def Binary.chars (x : Double) : List Char := x.charsIn .double

end DataTier
