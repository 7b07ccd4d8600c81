/-
Values as a caller describes them.

An argument or a result is described by what it is made of before it becomes JSON: a record, a
variant, a word of 32 bits, a map whose keys are values.  There are two ways to JSON.
`Datum.toJson` gives a value, where members are ordered and every number fits 64 bits;
`Datum.chars` gives text, where members keep their order and numbers their own width.

Main definitions:

* `DataTier.Datum` — a described value;
* `DataTier.Datum.Fault` — why a value has no JSON, with `Fault.message`;
* `DataTier.Datum.key` — the text that a value is as the key of a map;
* `DataTier.Datum.toJson`, `DataTier.Datum.chars` — the value as JSON and as JSON text.
-/

import DataTier.Json.Printer

set_option relaxedAutoImplicit false
set_option autoImplicit false

namespace DataTier

/-- A value as its owner describes it. -/
inductive Datum where
  /-- Nothing: the empty tuple, or an optional value that is absent. -/
  | null
  /-- A truth value. -/
  | bool (b : Bool)
  /-- An integer of any width. -/
  | integer (n : Int)
  /-- A floating-point word of 32 bits. -/
  | single (x : Extended .single)
  /-- A floating-point word of 64 bits. -/
  | double (x : Extended .double)
  /-- A character. -/
  | char (c : Char)
  /-- A text. -/
  | string (s : String)
  /-- Raw bytes. -/
  | bytes (bs : Bytes)
  /-- An optional value that is present. -/
  | present (d : Datum)
  /-- A value in a type of its own. -/
  | wrapped (d : Datum)
  /-- A list or a tuple. -/
  | sequence (items : List Datum)
  /-- Values under keys, which are values themselves. -/
  | map (entries : List (Datum × Datum))
  /-- Values under field names. -/
  | record (fields : List (String × Datum))
  /-- One of several names. -/
  | variant (name : String)
  /-- One of several names, with a payload. -/
  | variantOf (name : String) (payload : Datum)
  /-- A JSON value. -/
  | json (v : Json)
  /-- A value that refuses to be described further. -/
  | failing (message : String)

namespace Datum

instance : Inhabited Datum := ⟨.null⟩

/-- Why a value has no JSON. -/
inductive Fault where
  /-- An integer fits no JSON number. -/
  | numberOutOfRange
  /-- The key of a map is no text and has none of its own. -/
  | keyNotText
  /-- The key of a map is an infinity or not a number. -/
  | keyNotFinite
  /-- The value refused. -/
  | refused (message : String)
  deriving DecidableEq

/-- The wording of a fault. -/
def Fault.message : Fault → String
  | .numberOutOfRange => "number out of range"
  | .keyNotText => "key must be a string"
  | .keyNotFinite => "float key must be finite (got NaN or +/-inf)"
  | .refused message => message

/-- The text of a truth value. -/
def boolText (b : Bool) : String := if b then "true" else "false"

/-- The text that a JSON value is as a key. -/
def jsonKey : Json → Except Fault String
  | .string s => .ok s
  | .bool b => .ok (boolText b)
  | .number n => .ok (String.ofList n.chars)
  | _ => .error .keyNotText

/-- The text that a value is as a key. -/
def key : Datum → Except Fault String
  | .string s => .ok s
  | .char c => .ok (String.singleton c)
  | .variant name => .ok name
  | .integer n => .ok (String.ofList (Json.integerChars n))
  | .bool b => .ok (boolText b)
  | .single (.finite x) => .ok (String.ofList (x.charsIn .single))
  | .double (.finite x) => .ok (String.ofList x.chars)
  | .single _ => .error .keyNotFinite
  | .double _ => .error .keyNotFinite
  | .wrapped d => key d
  | .json v => jsonKey v
  | .failing message => .error (.refused message)
  | _ => .error .keyNotText

/-- A floating-point word as JSON: an infinity, or what is not a number, is absent. -/
def extendedJson {f : BinaryFormat} : Extended f → Json
  | .finite x => (x.widen?).elim .null fun y => .number (.real y)
  | _ => .null

mutual

/-- The JSON value of a value. -/
def toJson : Datum → Except Fault Json
  | .null => .ok .null
  | .bool b => .ok (.bool b)
  | .integer n =>
    match Json.Number.ofInt? n with
    | some n => .ok (.number n)
    | none => .error .numberOutOfRange
  | .single x => .ok (extendedJson x)
  | .double (.finite x) => .ok (.number (.real x))
  | .double _ => .ok .null
  | .char c => .ok (.string (String.singleton c))
  | .string s => .ok (.string s)
  | .bytes bs => .ok (.array (bs.map fun b => Json.ofNat b.toNat))
  | .present d => toJson d
  | .wrapped d => toJson d
  | .sequence items => (itemsToJson items).map .array
  | .map entries => (entriesToJson entries).map Json.ofMembers
  | .record fields => (fieldsToJson fields).map Json.ofMembers
  | .variant name => .ok (.string name)
  | .variantOf name payload => (toJson payload).map fun v => .object [(name, v)]
  | .json v => .ok v
  | .failing message => .error (.refused message)

/-- The JSON values of the items. -/
def itemsToJson : List Datum → Except Fault (List Json)
  | [] => .ok []
  | item :: rest => do
    let v ← toJson item
    let vs ← itemsToJson rest
    return v :: vs

/-- The members of a map, in its own order. -/
def entriesToJson : List (Datum × Datum) → Except Fault (List (String × Json))
  | [] => .ok []
  | (k, d) :: rest => do
    let name ← key k
    let v ← toJson d
    let members ← entriesToJson rest
    return (name, v) :: members

/-- The members of a record, in its own order. -/
def fieldsToJson : List (String × Datum) → Except Fault (List (String × Json))
  | [] => .ok []
  | (name, d) :: rest => do
    let v ← toJson d
    let members ← fieldsToJson rest
    return (name, v) :: members

end

/-! ### JSON text -/

/-- Texts between two brackets, with commas between them. -/
def enclose (opening closing : Char) : List (List Char) → List Char
  | [] => [opening, closing]
  | first :: rest => opening :: (first ++ rest.flatMap (',' :: ·) ++ [closing])

/-- The text of a floating-point word: an infinity, or what is not a number, is absent. -/
def extendedChars {f : BinaryFormat} (layout : FloatLayout) : Extended f → List Char
  | .finite x => x.charsIn layout
  | _ => Json.chars .null

mutual

/-- The JSON text of a value. -/
def chars : Datum → Except Fault (List Char)
  | .null => .ok (Json.chars .null)
  | .bool b => .ok (Json.chars (.bool b))
  | .integer n => .ok (Json.integerChars n)
  | .single x => .ok (extendedChars .single x)
  | .double x => .ok (extendedChars .double x)
  | .char c => .ok (Json.quote (String.singleton c) [])
  | .string s => .ok (Json.quote s [])
  | .bytes bs => .ok (enclose '[' ']' (bs.map fun b => Nat.toDigits 10 b.toNat))
  | .present d => chars d
  | .wrapped d => chars d
  | .sequence items => (itemsChars items).map (enclose '[' ']')
  | .map entries => (entriesChars entries).map (enclose '{' '}')
  | .record fields => (fieldsChars fields).map (enclose '{' '}')
  | .variant name => .ok (Json.quote name [])
  | .variantOf name payload =>
    (chars payload).map fun text => enclose '{' '}' [Json.quote name (':' :: text)]
  | .json v => .ok v.chars
  | .failing message => .error (.refused message)

/-- The texts of the items. -/
def itemsChars : List Datum → Except Fault (List (List Char))
  | [] => .ok []
  | item :: rest => do
    let text ← chars item
    let texts ← itemsChars rest
    return text :: texts

/-- The texts of the members of a map. -/
def entriesChars : List (Datum × Datum) → Except Fault (List (List Char))
  | [] => .ok []
  | (k, d) :: rest => do
    let name ← key k
    let text ← chars d
    let texts ← entriesChars rest
    return Json.quote name (':' :: text) :: texts

/-- The texts of the members of a record. -/
def fieldsChars : List (String × Datum) → Except Fault (List (List Char))
  | [] => .ok []
  | (name, d) :: rest => do
    let text ← chars d
    let texts ← fieldsChars rest
    return Json.quote name (':' :: text) :: texts

end

end Datum

end DataTier
