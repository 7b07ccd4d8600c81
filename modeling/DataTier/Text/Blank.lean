/-
Blank characters: the Unicode property `White_Space`.

Main definitions:

* `DataTier.Blank.isBlank` — whether a character has the property;
* `DataTier.Blank.trim` — a list of characters without the blanks at both its ends.
-/

import DataTier.Text.Chars

set_option relaxedAutoImplicit false
set_option autoImplicit false

namespace DataTier.Blank

/-- Whether a character has the Unicode property `White_Space`. -/
def isBlank (c : Char) : Bool :=
  let n := c.toNat
  (9 ≤ n && n ≤ 13) || n == 0x20 || n == 0x85 || n == 0xA0 || n == 0x1680
    || (0x2000 ≤ n && n ≤ 0x200A) || n == 0x2028 || n == 0x2029 || n == 0x202F || n == 0x205F
    || n == 0x3000

/-- A list of characters without the blanks at both its ends. -/
def trim (cs : List Char) : List Char := Chars.trim isBlank cs

end DataTier.Blank
