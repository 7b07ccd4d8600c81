/-
The types of result that a service caches.

Main definitions:

* `DataTier.ResultType` — the types;
* `DataTier.ResultType.codec` — how results of a type are stored.
-/

import DataTier.Cache.Codec

set_option relaxedAutoImplicit false
set_option autoImplicit false

namespace DataTier

/-- A type of result. -/
inductive ResultType where
  /-- Any JSON value. -/
  | value
  /-- A natural number of 64 bits. -/
  | word
  /-- An integer of 64 bits. -/
  | integer
  /-- A natural number of 8 bits. -/
  | byte
  /-- A floating-point number of 64 bits. -/
  | real
  /-- A truth value. -/
  | bool
  /-- A character. -/
  | char
  /-- A text. -/
  | text
  /-- Nothing. -/
  | unit
  /-- A list of integers. -/
  | integers
  /-- An integer or nothing. -/
  | optionalInteger
  /-- An integer and a text. -/
  | pair
  /-- Integers under names. -/
  | integerMap
  /-- A record of a count and a mean. -/
  | summary
  /-- Where data came from. -/
  | source
  /-- Any JSON value; an object of the name `$fail` refuses to be stored. -/
  | fragile
  deriving DecidableEq

namespace ResultType

open Json

/-- An integer as a described value. -/
def describeInteger (n : Int64) : Datum := .integer n.toInt

/-- The fields of a summary. -/
def readSummaryField : String → Reader Datum
  | "count" => readWord.filterMap fun n => some (.integer n.toNat)
  | _ => readReal.filterMap fun x => some (.double (.finite x))

/-- Reads a result of a type as a described value. -/
def reader : ResultType → Reader Datum
  | .value => fun depth s => (read depth s).map fun (v, s) => (.json v, s)
  | .word => readWord.filterMap fun n => some (.integer n.toNat)
  | .integer => readInteger.filterMap (some ∘ describeInteger)
  | .byte => readByte.filterMap fun n => some (.integer n.toNat)
  | .real => readReal.filterMap fun x => some (.double (.finite x))
  | .bool => readBool.filterMap (some ∘ .bool)
  | .char => readChar.filterMap (some ∘ .char)
  | .text => readString.filterMap (some ∘ .string)
  | .unit => readNull.filterMap fun _ => some .null
  | .integers => (readArray readInteger).filterMap fun ns =>
    some (.sequence (ns.map describeInteger))
  | .optionalInteger => (readOptional readInteger).filterMap fun
    | some n => some (describeInteger n)
    | none => some .null
  | .pair => fun depth s =>
    match depth, skipBlank s with
    | depth + 1, some '[' :: s =>
      (readTupleBody
        [readInteger.filterMap (some ∘ describeInteger) depth,
          readString.filterMap (some ∘ .string) depth] s).map fun (items, s) => (.sequence items, s)
    | _, _ => none
  | .integerMap => (readObject fun _ => readInteger).filterMap fun members =>
    some (.record ((Named.ofList members).map fun (name, n) => (name, describeInteger n)))
  | .summary => (readRecord ["count", "mean"] readSummaryField).filterMap fun fields => do
    let count ← fields.lookup "count"
    let mean ← fields.lookup "mean"
    return .record [("count", count), ("mean", mean)]
  | .source => (readVariant ["cache", "computed"]).filterMap (some ∘ .variant)
  | .fragile => fun depth s => (read depth s).map fun (v, s) => (.json v, s)

/-- The refusal of a value that does not want to be stored. -/
def refusal? : Datum → Option String
  | .json v =>
    match v.member? "$fail" with
    | some (.string message) => some message
    | _ => none
  | _ => none

/-- How results of a type are stored. -/
def codec (t : ResultType) : Codec Datum where
  write d :=
    match (if t = .fragile then refusal? d else none) with
    | some message => .error (.refused message)
    | none => d.chars
  reader := t.reader
  absent := if t = .optionalInteger then some .null else none

end ResultType

end DataTier
