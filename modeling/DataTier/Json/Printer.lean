/-
The compact text of JSON values.

There are no blanks, members stand in the order in which the object holds them, and a string
escapes only the quotation mark, the backslash and the control characters below the blank.  The
writers put a text in front of a given rest, which is what the reader has to give back.

Main definitions:

* `DataTier.Json.quote` — a string between quotation marks;
* `DataTier.Json.write` — the text of a value in front of a rest;
* `DataTier.Json.text` — the text of a value.
-/

import DataTier.Json.Value
import DataTier.Numeral.Shortest
import DataTier.Text.Hex

set_option relaxedAutoImplicit false
set_option autoImplicit false

namespace DataTier.Json

/-- A character as it stands between quotation marks. -/
def escape (c : Char) : List Char :=
  if c = '"' then ['\\', '"']
  else if c = '\\' then ['\\', '\\']
  else if c = '\x08' then ['\\', 'b']
  else if c = '\t' then ['\\', 't']
  else if c = '\n' then ['\\', 'n']
  else if c = '\x0c' then ['\\', 'f']
  else if c = '\r' then ['\\', 'r']
  else if c.toNat < 0x20 then '\\' :: 'u' :: Hex.fixed 4 c.toNat
  else [c]

/-- A string between quotation marks. -/
def quote (s : String) (rest : List Char) : List Char :=
  '"' :: (s.toList.flatMap escape ++ '"' :: rest)

/-- The text of an integer. -/
def integerChars : Int → List Char
  | .ofNat n => Nat.toDigits 10 n
  | .negSucc n => '-' :: Nat.toDigits 10 (n + 1)

/-- The text of a number. -/
def Number.chars : Number → List Char
  | .natural n => Nat.toDigits 10 n.toNat
  | .negSucc n => '-' :: Nat.toDigits 10 (n.val + 1)
  | .real x => x.chars

mutual

/-- The text of a value in front of a rest. -/
def write : Json → List Char → List Char
  | .null, rest => 'n' :: 'u' :: 'l' :: 'l' :: rest
  | .bool true, rest => 't' :: 'r' :: 'u' :: 'e' :: rest
  | .bool false, rest => 'f' :: 'a' :: 'l' :: 's' :: 'e' :: rest
  | .number n, rest => n.chars ++ rest
  | .string s, rest => quote s rest
  | .array [], rest => '[' :: ']' :: rest
  | .array (item :: items), rest => '[' :: write item (writeItems items (']' :: rest))
  | .object [], rest => '{' :: '}' :: rest
  | .object ((name, value) :: members), rest =>
    '{' :: quote name (':' :: write value (writeMembers members ('}' :: rest)))

/-- Items, each after a comma. -/
def writeItems : List Json → List Char → List Char
  | [], rest => rest
  | item :: items, rest => ',' :: write item (writeItems items rest)

/-- Members, each after a comma. -/
def writeMembers : List (String × Json) → List Char → List Char
  | [], rest => rest
  | (name, value) :: members, rest =>
    ',' :: quote name (':' :: write value (writeMembers members rest))

end

/-- The characters of the text of a value. -/
def chars (v : Json) : List Char := v.write []

/-- The text of a value. -/
def text (v : Json) : String := String.ofList v.chars

/-- The bytes of the text of a value. -/
def bytes (v : Json) : Bytes := Utf8.encode v.chars

end DataTier.Json
