/-
How results are kept as JSON text.

Main definitions:

* `DataTier.Codec` — a writer and a reader for one type of result;
* `DataTier.Codec.encode`, `DataTier.Codec.decode?` — results to stored bytes and back;
* `DataTier.Codec.value`, `.word`, `.optionalInteger`, `.text` — codecs of common types.
-/

import DataTier.Datum
import DataTier.Json.Typed

set_option relaxedAutoImplicit false
set_option autoImplicit false

namespace DataTier

/-- A writer and a reader of JSON text for one type of result. -/
structure Codec (R : Type) where
  /-- The text of a result, unless it has none. -/
  write : R → Except Datum.Fault (List Char)
  /-- Reads a result. -/
  reader : Json.Reader R
  /-- The result that a missing field stands for, if any. -/
  absent : Option R := none

namespace Codec

variable {R : Type}

/-- The bytes that a result is stored as. -/
def encode (c : Codec R) (r : R) : Except Datum.Fault Bytes := (c.write r).map Utf8.encode

/-- The result that stored bytes are. -/
def decode? (c : Codec R) (bs : Bytes) : Option R := c.reader.decode? bs

/-- Any JSON value. -/
def value : Codec Json where
  write v := .ok v.chars
  reader := Json.read

/-- A natural number of 64 bits. -/
def word : Codec UInt64 where
  write n := .ok (Json.Number.natural n).chars
  reader := Json.readWord

/-- An integer of 64 bits, or nothing. -/
def optionalInteger : Codec (Option Int64) where
  write
    | some n => .ok (Json.integerChars n.toInt)
    | none => .ok (Json.chars .null)
  reader := Json.readOptional Json.readInteger
  absent := some none

/-- A text. -/
def text : Codec String where
  write s := .ok (Json.quote s [])
  reader := Json.readString

end Codec

end DataTier
