/-
Hexadecimal digits, lower case.

Main definitions:

* `DataTier.Hex.fixed` — a number in exactly `width` digits;
* `DataTier.Hex.value?` — the number that a list of digits spells;
* `DataTier.Hex.ofBytes`, `DataTier.Hex.bytes?` — two digits a byte, and back.
-/

import DataTier.Text.Utf8

set_option relaxedAutoImplicit false
set_option autoImplicit false

namespace DataTier.Hex

/-- The digit of a number below sixteen. -/
def digit (n : Nat) : Char :=
  if n % 16 < 10 then Char.ofNat (48 + n % 16) else Char.ofNat (87 + n % 16)

/-- The number of a digit of either case. -/
def digitValue? (c : Char) : Option Nat :=
  if '0' ≤ c ∧ c ≤ '9' then some (c.toNat - 48)
  else if 'a' ≤ c ∧ c ≤ 'f' then some (c.toNat - 87)
  else if 'A' ≤ c ∧ c ≤ 'F' then some (c.toNat - 55)
  else none

/-- The last `width` hexadecimal digits of a number, the highest first. -/
def fixed : Nat → Nat → List Char
  | 0, _ => []
  | width + 1, n => fixed width (n / 16) ++ [digit n]

@[simp] theorem length_fixed (width n : Nat) : (fixed width n).length = width := by
  induction width generalizing n with
  | zero => rfl
  | succ width ih => simp [fixed, ih]

/-- The number that digits of either case spell, none for any other character. -/
def value? (cs : List Char) : Option Nat :=
  cs.foldl (fun total c => total.bind fun n => (digitValue? c).map (16 * n + ·)) (some 0)

/-- Two digits for each byte. -/
def ofBytes (bs : Bytes) : String := String.ofList (bs.flatMap fun b => fixed 2 b.toNat)

/-- The bytes that pairs of digits spell. -/
def bytesOf? : List Char → Option Bytes
  | [] => some []
  | high :: low :: rest => do
    let n ← value? [high, low]
    let bs ← bytesOf? rest
    return UInt8.ofNat n :: bs
  | [_] => none

end DataTier.Hex
