/-
JSON values.

Numbers come in three kinds, each with its own range: a natural number of 64 bits, a negative
integer of 64 bits, and a finite floating-point number of 64 bits.  `1`, `1.0` and `-0.0` are
three different values.  An object keeps its members as a list; the readers and builders of this
library put them in the order of their names.

Main definitions:

* `DataTier.Json` — a JSON value, and `DataTier.Json.Number`, a JSON number;
* `DataTier.Json.Number.ofInt?` — the number of an integer that fits one of the ranges;
* `DataTier.Json.depth` — how deep arrays and objects nest.
-/

import DataTier.Named
import DataTier.Numeral.Binary
import DataTier.Word

set_option relaxedAutoImplicit false
set_option autoImplicit false

namespace DataTier

/-- A JSON number. -/
inductive Json.Number where
  /-- A natural number. -/
  | natural (n : UInt64)
  /-- The negative integer `-(n + 1)`. -/
  | negSucc (n : Fin Word.signedSize)
  /-- A finite floating-point number. -/
  | real (x : Double)
  deriving DecidableEq

/-- A JSON value. -/
inductive Json where
  /-- The absent value. -/
  | null
  /-- A truth value. -/
  | bool (b : Bool)
  /-- A number. -/
  | number (n : Json.Number)
  /-- A text. -/
  | string (s : String)
  /-- A list of values. -/
  | array (items : List Json)
  /-- Values under names. -/
  | object (members : List (String × Json))

namespace Json

instance : Inhabited Json := ⟨.null⟩

/-- The number of an integer, if it fits 64 bits without a sign, or with one. -/
def Number.ofInt? : Int → Option Number
  | .ofNat n => if n < Word.size then some (.natural (UInt64.ofNat n)) else none
  | .negSucc n => if h : n < Word.signedSize then some (.negSucc ⟨n, h⟩) else none

/-- The integer that a number is, none for a floating-point one. -/
def Number.toInt? : Number → Option Int
  | .natural n => some n.toNat
  | .negSucc n => some (.negSucc n)
  | .real _ => none

theorem Number.toInt?_ofInt? {i : Int} {n : Number} (h : Number.ofInt? i = some n) :
    n.toInt? = some i := by
  cases i with
  | ofNat m =>
    simp only [ofInt?, Option.ite_none_right_eq_some, Option.some.injEq] at h
    obtain ⟨hm, rfl⟩ := h
    exact congrArg (fun k : Nat => some (k : Int)) (UInt64.toNat_ofNat_of_lt' hm)
  | negSucc m =>
    simp only [ofInt?, Option.dite_none_right_eq_some, Option.some.injEq] at h
    obtain ⟨hm, rfl⟩ := h
    rfl

/-- A natural number as JSON; one beyond 64 bits is cut down to them. -/
def ofNat (n : Nat) : Json := .number (.natural (UInt64.ofNat n))

/-- An object with its members put in order. -/
def ofMembers (members : List (String × Json)) : Json := .object (Named.ofList members)

/-- The member of a name, none for a value that is no object. -/
def member? (name : String) : Json → Option Json
  | .object members => Named.find? name members
  | _ => none

mutual

/-- How deep arrays and objects nest: zero for a value that is neither. -/
def depth : Json → Nat
  | .array items => depthOfItems items + 1
  | .object members => depthOfMembers members + 1
  | _ => 0

/-- The greatest depth among the items. -/
def depthOfItems : List Json → Nat
  | [] => 0
  | item :: rest => max (depth item) (depthOfItems rest)

/-- The greatest depth among the members' values. -/
def depthOfMembers : List (String × Json) → Nat
  | [] => 0
  | (_, value) :: rest => max (depth value) (depthOfMembers rest)

end

end Json

end DataTier
