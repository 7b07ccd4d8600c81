/-
Percent escapes and query strings.

Main definitions:

* `DataTier.Percent.decode` — bytes with every well-formed escape replaced by its byte;
* `DataTier.Percent.query` — the pairs of a query string.
-/

import DataTier.Text.Chars
import DataTier.Text.Hex

set_option relaxedAutoImplicit false
set_option autoImplicit false

namespace DataTier.Percent

/-- The number of a hexadecimal digit that stands as a byte. -/
def digit? (b : UInt8) : Option Nat := Hex.digitValue? (Char.ofNat b.toNat)

/-- Every percent sign with two hexadecimal digits after it replaced by the byte they spell;
everything else stays. -/
def decode : Bytes → Bytes
  | 0x25 :: a :: b :: rest =>
    match digit? a, digit? b with
    | some high, some low => UInt8.ofNat (16 * high + low) :: decode rest
    | _, _ => 0x25 :: decode (a :: b :: rest)
  | b :: rest => b :: decode rest
  | [] => []
termination_by bs => bs.length

/-- The text of decoded bytes, with U+FFFD for each gap in them. -/
def lossyText (bs : Bytes) : String :=
  String.ofList ((Utf8.units bs).map fun u => u.getD (Char.ofNat 0xFFFD))

/-- A name or a value of a query string: a plus sign is a blank. -/
def queryText (cs : List Char) : String :=
  lossyText (decode (Utf8.encode (cs.map fun c => if c = '+' then ' ' else c)))

/-- The pairs of a query string, in its order. -/
def query (cs : List Char) : List (String × String) :=
  ((Chars.splitOn '&' cs).filter (!·.isEmpty)).map fun part =>
    let (name, value) := Chars.cut '=' part
    (queryText name, queryText (value.getD []))

end DataTier.Percent
