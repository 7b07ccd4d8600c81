/-
A query that a service answers: the sum of the first numbers, with the label that was asked for
and the resource that served it.

Main definitions:

* `DataTier.RangeSummary` — the answer, and `RangeSummary.codec`, how it is cached;
* `DataTier.RangeSummary.arguments` — what the answer depends on.
-/

import DataTier.Cache.Codec

set_option relaxedAutoImplicit false
set_option autoImplicit false

namespace DataTier

/-- The sum of the first numbers. -/
structure RangeSummary where
  /-- The label that was asked for. -/
  label : String
  /-- The sum. -/
  total : UInt64
  /-- The number of the resource that served it. -/
  servedBy : UInt64
  deriving DecidableEq

namespace RangeSummary

/-- What the keys of the answers begin with. -/
def keyPrefix : String := "range_summary"

/-- What an answer depends on: how many numbers, and the label. -/
def arguments (n : Nat) (label : String) : Datum :=
  .record [("n", .integer n), ("label", .string label)]

/-- The sum of the numbers below `n`, served by a resource. -/
def ofQuery (n : Nat) (label : String) (servedBy : Nat) : RangeSummary :=
  ⟨label, .ofNat (n * (n - 1) / 2), .ofNat servedBy⟩

/-- The answer as a described value. -/
def toDatum (r : RangeSummary) : Datum :=
  .record [("label", .string r.label), ("total", .integer r.total.toNat),
    ("served_by", .integer r.servedBy.toNat)]

/-- Reads the field of a name: a text, or a number. -/
def readField : String → Json.Reader (String ⊕ UInt64)
  | "label" => Json.readString.filterMap (some ∘ .inl)
  | _ => Json.readWord.filterMap (some ∘ .inr)

/-- The answer of its fields, none of which may be missing. -/
def ofFields? (fields : List (String × (String ⊕ UInt64))) : Option RangeSummary := do
  let label ← (fields.lookup "label").bind Sum.getLeft?
  let total ← (fields.lookup "total").bind Sum.getRight?
  let servedBy ← (fields.lookup "served_by").bind Sum.getRight?
  return ⟨label, total, servedBy⟩

/-- How an answer is cached. -/
def codec : Codec RangeSummary where
  write r := r.toDatum.chars
  reader := (Json.readRecord ["label", "total", "served_by"] readField).filterMap ofFields?

end RangeSummary

end DataTier
