/-
The sizes of machine words.

Main definitions:

* `DataTier.Word.size`, `Word.size32`, `Word.size16` — how many naturals fit a word;
* `DataTier.Word.signedSize` — how many naturals fit a word of 64 bits with a sign.
-/

set_option relaxedAutoImplicit false
set_option autoImplicit false

namespace DataTier.Word

/-- The naturals below this fit a word of 64 bits. -/
abbrev size : Nat := 18446744073709551616

/-- The naturals below this fit a word of 32 bits. -/
abbrev size32 : Nat := 4294967296

/-- The naturals below this fit a word of 16 bits. -/
abbrev size16 : Nat := 65536

/-- The naturals below this fit a word of 64 bits with a sign. -/
abbrev signedSize : Nat := 9223372036854775808

end DataTier.Word
