/-
**Reading JSON text.**

A reader takes a value off the front of the input, with a bound on how deep arrays and objects may
nest in it.  The input is a list of characters and gaps (`Utf8.units`); a gap is refused wherever
it is read, but is passed over inside the strings of a value that nobody asks for.  The grammar is
that of the standard: no comments, no trailing commas, no leading zeros; a lone surrogate escape
spells no character, and a number too large for a floating-point word is refused.

Main definitions:

* `DataTier.Json.Reader` — a reader, and `Reader.decode?`, which reads a whole text;
* `DataTier.Json.readSeparated` — elements with commas between them, up to a closing mark;
* `DataTier.Json.readArray`, `readObject` — items and members, each with a reader of its own;
* `DataTier.Json.read` — a value of any kind;
* `DataTier.Json.skip` — passes over a value of any kind and any depth.
-/

import DataTier.Json.Value
import DataTier.Numeral.Stepwise
import DataTier.Text.Digits
import DataTier.Text.Hex

set_option relaxedAutoImplicit false
set_option autoImplicit false

namespace DataTier.Json

/-- Characters, and gaps where bytes spell none. -/
abbrev Input := List (Option Char)

/-- Takes a value off the front of the input, in which arrays and objects nest at most as deep as
the given number. -/
abbrev Reader (α : Type) := Nat → Input → Option (α × Input)

/-- The input after the blanks at its front. -/
def skipBlank : Input → Input
  | some c :: s => if c = ' ' ∨ c = '\t' ∨ c = '\n' ∨ c = '\r' then skipBlank s else some c :: s
  | s => s

/-- The input after characters that it has to begin with. -/
def skipWord : List Char → Input → Option Input
  | [], s => some s
  | c :: cs, some d :: s => if c = d then skipWord cs s else none
  | _, _ => none

/-! ### Strings -/

/-- A piece of a string between quotation marks: a character that stands for itself, or a unit of
16 bits that an escape spells. -/
inductive Piece where
  /-- A character, as it stands or by a short escape. -/
  | plain (c : Char)
  /-- A unit of 16 bits. -/
  | unit (n : Nat)

/-- The character of a short escape. -/
def shortEscape? : Char → Option Char
  | '"' => some '"'
  | '\\' => some '\\'
  | '/' => some '/'
  | 'b' => some '\x08'
  | 'f' => some '\x0c'
  | 'n' => some '\n'
  | 'r' => some '\r'
  | 't' => some '\t'
  | _ => none

/-- The pieces of a string up to its closing mark, and the input after that. -/
def readPieces : Input → Option (List Piece × Input)
  | some '"' :: s => some ([], s)
  | some '\\' :: some 'u' :: some a :: some b :: some c :: some d :: s => do
    let n ← Hex.value? [a, b, c, d]
    let (pieces, s) ← readPieces s
    return (.unit n :: pieces, s)
  | some '\\' :: some e :: s => do
    let c ← shortEscape? e
    let (pieces, s) ← readPieces s
    return (.plain c :: pieces, s)
  | some c :: s =>
    if c.toNat < 0x20 ∨ c = '\\' then none
    else do
      let (pieces, s) ← readPieces s
      return (.plain c :: pieces, s)
  | _ => none

/-- The characters that pieces spell: a high surrogate needs a low one after it. -/
def joinPieces : List Piece → Option (List Char)
  | [] => some []
  | .plain c :: rest => (joinPieces rest).map (c :: ·)
  | .unit n :: rest =>
    if h : n.isValidChar then (joinPieces rest).map (Char.ofNatAux n h :: ·)
    else
      match rest with
      | .unit m :: rest =>
        if 0xD800 ≤ n ∧ n < 0xDC00 ∧ 0xDC00 ≤ m ∧ m < 0xE000 then
          (joinPieces rest).map (Char.ofNat (0x10000 + (n - 0xD800) * 0x400 + (m - 0xDC00)) :: ·)
        else none
      | _ => none

/-- A string after its opening mark. -/
def readStringBody (s : Input) : Option (String × Input) := do
  let (pieces, s) ← readPieces s
  let cs ← joinPieces pieces
  return (String.ofList cs, s)

/-- A string. -/
def readString : Reader String := fun _ s =>
  match skipBlank s with
  | some '"' :: s => readStringBody s
  | _ => none

/-! ### Numbers -/

/-- The digits at the front of the input. -/
def spanDigits : Input → List Char × Input
  | some c :: s =>
    if c.isDigit then
      let (digits, rest) := spanDigits s
      (c :: digits, rest)
    else ([], some c :: s)
  | s => ([], s)

/-- A number as it is written. -/
structure Numeral where
  /-- Whether it begins with a minus sign. -/
  negative : Bool
  /-- The digits before the point. -/
  whole : List Char
  /-- The digits after the point, none without one. -/
  fraction : List Char
  /-- The exponent, none without one. -/
  exponent : Option Int
  /-- Whether it has neither point nor exponent. -/
  integral : Bool

/-- One digit or more. -/
def readDigits (s : Input) : Option (List Char × Input) :=
  match spanDigits s with
  | ([], _) => none
  | spanned => some spanned

/-- The exponent after its letter. -/
def readExponent : Input → Option (Int × Input)
  | some '-' :: s => (readDigits s).map fun (digits, s) => (-(Digits.value digits : Int), s)
  | some '+' :: s => (readDigits s).map fun (digits, s) => ((Digits.value digits : Int), s)
  | s => (readDigits s).map fun (digits, s) => ((Digits.value digits : Int), s)

/-- The digits after a point, if there is one. -/
def readFraction : Input → Option (Option (List Char) × Input)
  | some '.' :: s => (readDigits s).map fun (digits, s) => (some digits, s)
  | s => some (none, s)

/-- The exponent after its letter, if there is one. -/
def readScale : Input → Option (Option Int × Input)
  | some 'e' :: s => (readExponent s).map fun (e, s) => (some e, s)
  | some 'E' :: s => (readExponent s).map fun (e, s) => (some e, s)
  | s => some (none, s)

/-- A number as it is written; no zero stands in front of another digit. -/
def readNumeral (s : Input) : Option (Numeral × Input) := do
  let (negative, s) := match s with
    | some '-' :: s => (true, s)
    | s => (false, s)
  let (whole, s) ← readDigits s
  if whole.head? = some '0' ∧ 1 < whole.length then none
  let (fraction, s) ← readFraction s
  let (exponent, s) ← readScale s
  return (⟨negative, whole, fraction.getD [], exponent, fraction.isNone && exponent.isNone⟩, s)

/-- The floating-point number of a written one, none when that overflows. -/
def Numeral.real? (n : Numeral) : Option Double :=
  Binary.ofDigits? n.negative n.whole n.fraction (n.exponent.getD 0)

/-- The value of a written number: an integer where it is written as one and fits 64 bits (minus
zero does not), otherwise a floating-point number. -/
def Numeral.number? (n : Numeral) : Option Number :=
  let value := Digits.value n.whole
  let integer :=
    if n.integral = false then none
    else if n.negative then
      if value = 0 then none else Number.ofInt? (-(value : Int))
    else Number.ofInt? value
  match integer with
  | some i => some i
  | none => n.real?.map .real

/-- A number. -/
def readNumber : Reader Number := fun _ s => do
  let (numeral, s) ← readNumeral (skipBlank s)
  let n ← numeral.number?
  return (n, s)

/-! ### Arrays and objects -/

section Containers

variable {α : Type}

/-- An element, and what is read of the input after it. -/
def readCons (element : Input → Option (α × Input)) (more : Input → Option (List α × Input))
    (s : Input) : Option (List α × Input) :=
  (element s).bind fun (x, s) => (more s).map fun (xs, s) => (x :: xs, s)

/-- The elements that come after one, each behind a comma, up to the closing mark. -/
def readMore (closing : Char) (element : Input → Option (α × Input)) :
    Nat → Input → Option (List α × Input)
  | 0, _ => none
  | fuel + 1, s =>
    match skipBlank s with
    | some ',' :: s => readCons element (readMore closing element fuel) s
    | s => (skipWord [closing] s).map ([], ·)

/-- Elements with commas between them, after an opening mark and up to the closing one. -/
def readSeparated (closing : Char) (element : Input → Option (α × Input)) (s : Input) :
    Option (List α × Input) :=
  match skipWord [closing] (skipBlank s) with
  | some s => some ([], s)
  | none => readCons element (readMore closing element s.length) s

/-- An array whose items are read by `item`. -/
def readArray (item : Reader α) : Reader (List α)
  | 0, _ => none
  | depth + 1, s =>
    match skipBlank s with
    | some '[' :: s => readSeparated ']' (item depth) s
    | _ => none

/-- A member: its name, a colon, and what `value` reads under that name. -/
def readMember (value : String → Input → Option (α × Input)) (s : Input) :
    Option ((String × α) × Input) := do
  let (name, s) ← readString 0 s
  match skipBlank s with
  | some ':' :: s => do
    let (v, s) ← value name s
    return ((name, v), s)
  | _ => none

/-- An object whose members are read by `value`, in the order of the text. -/
def readObject (value : String → Reader α) : Reader (List (String × α))
  | 0, _ => none
  | depth + 1, s =>
    match skipBlank s with
    | some '{' :: s => readSeparated '}' (readMember fun name => value name depth) s
    | _ => none

end Containers

/-! ### Values of any kind -/

/-- A value of any kind. -/
def read : Nat → Input → Option (Json × Input)
  | depth, s =>
    match skipBlank s with
    | some 'n' :: s => (skipWord ['u', 'l', 'l'] s).map (.null, ·)
    | some 't' :: s => (skipWord ['r', 'u', 'e'] s).map (.bool true, ·)
    | some 'f' :: s => (skipWord ['a', 'l', 's', 'e'] s).map (.bool false, ·)
    | some '"' :: s => (readStringBody s).map fun (text, s) => (.string text, s)
    | some '[' :: s =>
      match depth with
      | 0 => none
      | depth + 1 =>
        (readSeparated ']' (read depth) s).map fun (items, s) => (.array items, s)
    | some '{' :: s =>
      match depth with
      | 0 => none
      | depth + 1 =>
        (readSeparated '}' (readMember fun _ => read depth) s).map fun (members, s) =>
          (ofMembers members, s)
    | s => (readNumber 0 s).map fun (n, s) => (.number n, s)

/-! ### Values that nobody asks for -/

/-- The input after a string whose opening mark has been read.  Only its escapes and control
characters are looked at. -/
def skipStringBody : Input → Option Input
  | some '"' :: s => some s
  | some '\\' :: some 'u' :: some a :: some b :: some c :: some d :: s =>
    if (Hex.value? [a, b, c, d]).isSome then skipStringBody s else none
  | some '\\' :: some e :: s => if (shortEscape? e).isSome then skipStringBody s else none
  | some c :: s => if c.toNat < 0x20 ∨ c = '\\' then none else skipStringBody s
  | none :: s => skipStringBody s
  | [] => none

/-- What stands around a value that is passed over: an array or an object. -/
inductive Frame where
  /-- The value is an item. -/
  | array
  /-- The value is that of a member. -/
  | object

/-- The input after the name of a member and its colon. -/
def skipName (s : Input) : Option Input :=
  match skipBlank s with
  | some '"' :: s => do
    let s ← skipStringBody s
    match skipBlank s with
    | some ':' :: s => some s
    | _ => none
  | _ => none

/-- The input after what follows a finished value: commas lead to the next one, closing brackets
finish the values around it, and none around means that all is done. -/
def skipOn (value : List Frame → Input → Option Input) : List Frame → Input → Option Input
  | [], s => some s
  | .array :: around, s =>
    match skipBlank s with
    | some ',' :: s => value (.array :: around) s
    | some ']' :: s => skipOn value around s
    | _ => none
  | .object :: around, s =>
    match skipBlank s with
    | some ',' :: s => (skipName s).bind (value (.object :: around))
    | some '}' :: s => skipOn value around s
    | _ => none

/-- The input after a value and the rest of all that stands around it. -/
def skipWithin : Nat → List Frame → Input → Option Input
  | 0, _, _ => none
  | fuel + 1, around, s =>
    let next := skipOn (skipWithin fuel) around
    match skipBlank s with
    | some 'n' :: s => (skipWord ['u', 'l', 'l'] s).bind next
    | some 't' :: s => (skipWord ['r', 'u', 'e'] s).bind next
    | some 'f' :: s => (skipWord ['a', 'l', 's', 'e'] s).bind next
    | some '"' :: s => (skipStringBody s).bind next
    | some '[' :: s =>
      match skipBlank s with
      | some ']' :: s => next s
      | _ => skipWithin fuel (.array :: around) s
    | some '{' :: s =>
      match skipBlank s with
      | some '}' :: s => next s
      | _ => (skipName s).bind (skipWithin fuel (.object :: around))
    | s => (readNumeral s).bind fun (_, s) => next s

/-- The input after a value of any kind, however deep. -/
def skip (s : Input) : Option Input := skipWithin s.length [] s

/-! ### Whole texts -/

/-- How deep arrays and objects may nest in a text. -/
def depthLimit : Nat := 127

/-- The value of a whole text: nothing but blanks may follow it. -/
def Reader.finish? {α : Type} (reader : Reader α) (depth : Nat) (s : Input) : Option α :=
  match reader depth s with
  | some (x, s) => if skipBlank s = [] then some x else none
  | none => none

/-- The value that bytes spell. -/
def Reader.decode? {α : Type} (reader : Reader α) (bs : Bytes) : Option α :=
  reader.finish? depthLimit (Utf8.units bs)

end DataTier.Json
