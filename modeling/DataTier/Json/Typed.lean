/-
Reading JSON text as a value of a given type.

An integer is read only from a number that is written as one; a floating-point number from any.
A record is read from an object in any order of members, others than its fields passed over, or
from an array of exactly its fields in their order.

Main definitions:

* `DataTier.Json.readWord`, `readInteger`, `readReal`, … — readers of single values;
* `DataTier.Json.readOptional` — `null`, or what another reader takes;
* `DataTier.Json.readRecord` — the fields of a record, each with a reader of its own.
-/

import DataTier.Json.Reader

set_option relaxedAutoImplicit false
set_option autoImplicit false

namespace DataTier.Json

section Generic

variable {α β : Type}

/-- A reader followed by a check that turns the value into another one or refuses it. -/
def Reader.filterMap (reader : Reader α) (f : α → Option β) : Reader β := fun depth s =>
  match reader depth s with
  | some (x, s) => (f x).map (·, s)
  | none => none

/-- `null`, or what another reader takes. -/
def readOptional (reader : Reader α) : Reader (Option α) := fun depth s =>
  match skipBlank s with
  | some 'n' :: s => (skipWord ['u', 'l', 'l'] s).map (none, ·)
  | s => (reader depth s).map fun (x, s) => (some x, s)

end Generic

/-! ### Single values -/

/-- `null`. -/
def readNull : Reader Unit := fun _ s =>
  (skipWord ['n', 'u', 'l', 'l'] (skipBlank s)).map ((), ·)

/-- `true` or `false`. -/
def readBool : Reader Bool := fun _ s =>
  match skipBlank s with
  | some 't' :: s => (skipWord ['r', 'u', 'e'] s).map (true, ·)
  | some 'f' :: s => (skipWord ['a', 'l', 's', 'e'] s).map (false, ·)
  | _ => none

/-- A natural number of 64 bits. -/
def readWord : Reader UInt64 := readNumber.filterMap fun
  | .natural n => some n
  | _ => none

/-- A natural number of 8 bits. -/
def readByte : Reader UInt8 := readNumber.filterMap fun
  | .natural n => if n.toNat < 256 then some (UInt8.ofNat n.toNat) else none
  | _ => none

/-- An integer of 64 bits. -/
def readInteger : Reader Int64 := readNumber.filterMap fun
  | .natural n => if n.toNat < Word.signedSize then some (Int64.ofNat n.toNat) else none
  | .negSucc n => some (Int64.ofInt (Int.negSucc n))
  | .real _ => none

/-- The floating-point number nearest to a number. -/
def Number.toReal? : Number → Option Double
  | .natural n => Binary.ofNat? n.toNat
  | .negSucc n => Binary.ofRatio? true (n.val + 1) 1
  | .real x => some x

/-- A finite floating-point number of 64 bits. -/
def readReal : Reader Double := readNumber.filterMap Number.toReal?

/-- A string of one character. -/
def readChar : Reader Char := readString.filterMap fun s =>
  match s.toList with
  | [c] => some c
  | _ => none

/-! ### Tuples and records -/

section Records

variable {β : Type}

/-- The items of a tuple after its first one, each by its own reader, and the closing bracket. -/
def readTupleTail : List (Input → Option (β × Input)) → Input → Option (List β × Input)
  | [], s =>
    match skipBlank s with
    | some ']' :: s => some ([], s)
    | _ => none
  | item :: items, s =>
    match skipBlank s with
    | some ',' :: s => readCons item (readTupleTail items) s
    | _ => none

/-- A tuple after its opening bracket: exactly one item for each reader. -/
def readTupleBody : List (Input → Option (β × Input)) → Input → Option (List β × Input)
  | [], s => readTupleTail [] s
  | item :: items, s => readCons item (readTupleTail items) s

/-- A field's value, or nothing for a member that is no field. -/
def readField (names : List String) (field : String → Input → Option (β × Input)) (name : String)
    (s : Input) : Option (Option β × Input) :=
  if name ∈ names then (field name s).map fun (x, s) => (some x, s)
  else (skip s).map (none, ·)

/-- The fields among the members of an object; none of them may stand twice. -/
def knownFields (members : List (String × Option β)) : Option (List (String × β)) :=
  let known := members.filterMap fun (name, x) => x.map (name, ·)
  if (known.map Prod.fst).Nodup then some known else none

/-- The fields of a record, from an object or from an array. -/
def readRecord (names : List String) (field : String → Reader β) : Reader (List (String × β))
  | 0, _ => none
  | depth + 1, s =>
    match skipBlank s with
    | some '{' :: s => do
      let (members, s) ←
        readSeparated '}' (readMember (readField names fun name => field name depth)) s
      let known ← knownFields members
      return (known, s)
    | some '[' :: s => do
      let (xs, s) ← readTupleBody (names.map fun name => field name depth) s
      return (names.zip xs, s)
    | _ => none

/-- One of several names: a string, or an object of that name with the value `null`. -/
def readVariant (names : List String) : Reader String := fun depth s =>
  match skipBlank s with
  | some '"' :: s => do
    let (name, s) ← readStringBody s
    if name ∈ names then return (name, s) else none
  | some '{' :: s =>
    match depth with
    | 0 => none
    | depth + 1 => do
      let (name, s) ← readString depth s
      if name ∉ names then none
      match skipBlank s with
      | some ':' :: s => do
        let (_, s) ← readNull depth s
        match skipBlank s with
        | some '}' :: s => return (name, s)
        | _ => none
      | _ => none
  | _ => none

end Records

end DataTier.Json
