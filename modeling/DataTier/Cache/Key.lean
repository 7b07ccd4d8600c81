/-
**Cache keys.**

A call is its positional arguments in order and its named arguments by name.  Its canonical text
is a JSON object of the two, and its key is the operation's name, a colon and the hash of the
canonical text in sixteen hexadecimal digits.  The hash is a parameter: what holds of keys holds
for any hash, up to its collisions.

Main definitions:

* `DataTier.CallArgs` — the arguments of a call, and `CallArgs.canonical`, their text;
* `DataTier.CallArgs.ofDatum` — arguments from one value: a record's fields are named arguments;
* `DataTier.keyWith`, `DataTier.deriveKey` — the key of an operation and its arguments.
-/

import DataTier.Datum
import DataTier.Hash.Xxh64

set_option relaxedAutoImplicit false
set_option autoImplicit false

namespace DataTier

/-- The arguments of a call. -/
structure CallArgs where
  /-- The arguments without names, in order. -/
  positional : List Json := []
  /-- The arguments with names. -/
  named : Named Json := []
  /-- Named arguments stand in the order of their names. -/
  sorted : named.Sorted := by simp

namespace CallArgs

/-- A call without arguments. -/
def empty : CallArgs := {}

/-- One more positional argument. -/
def push (c : CallArgs) (v : Json) : CallArgs := { c with positional := c.positional ++ [v] }

/-- A named argument set, in place of an earlier one of that name. -/
def set (c : CallArgs) (name : String) (v : Json) : CallArgs :=
  { c with named := c.named.insert name v, sorted := c.sorted.insert }

/-- The arguments that a JSON value stands for: an object's members are named arguments, any other
value is the only positional one. -/
def ofJson : Json → CallArgs
  | .object members => { named := Named.ofList members, sorted := Named.sorted_ofList members }
  | v => { positional := [v] }

/-- The arguments that a described value stands for. -/
def ofDatum (d : Datum) : Except Datum.Fault CallArgs := d.toJson.map ofJson

/-- One more positional argument, described. -/
def arg (c : CallArgs) (d : Datum) : Except Datum.Fault CallArgs := d.toJson.map c.push

/-- A named argument, described. -/
def kwarg (c : CallArgs) (name : String) (d : Datum) : Except Datum.Fault CallArgs :=
  d.toJson.map (c.set name)

/-- The arguments as one JSON value. -/
def toJson (c : CallArgs) : Json :=
  .object
    [("args", .array c.positional),
      ("kwargs", .array (c.named.map fun (name, v) => .array [.string name, v]))]

/-- The text that is hashed into the key. -/
def canonical (c : CallArgs) : List Char := c.toJson.chars

end CallArgs

/-- How many hexadecimal digits of the hash stand in a key. -/
def keyHashWidth : Nat := 16

/-- The key of an operation and its arguments under a hash of 64 bits. -/
def keyWith (hash : Bytes → UInt64) (operation : String) (c : CallArgs) : String :=
  operation ++ ":" ++
    String.ofList (Hex.fixed keyHashWidth (hash (Utf8.encode c.canonical)).toNat)

/-- The key of an operation and its arguments. -/
def deriveKey (operation : String) (c : CallArgs) : String := keyWith Xxh64.hash operation c

end DataTier
