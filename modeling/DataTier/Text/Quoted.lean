/-
Texts between quotation marks, as a developer reads them.

A character that shows nothing or joins the one before it stands as its code in braces, so that
two texts which look alike are told apart.

Main definitions:

* `DataTier.Quoted.escape` — a character as it stands between the marks;
* `DataTier.Quoted.text` — a text between quotation marks;
* `DataTier.Quoted.optional` — an optional text.
-/

import DataTier.Text.Hex
import DataTier.Text.Hidden

set_option relaxedAutoImplicit false
set_option autoImplicit false

namespace DataTier.Quoted

/-- A character as it stands between the marks. -/
def escape (c : Char) : List Char :=
  if c = '"' then ['\\', '"']
  else if c = '\\' then ['\\', '\\']
  else if c = '\n' then ['\\', 'n']
  else if c = '\r' then ['\\', 'r']
  else if c = '\t' then ['\\', 't']
  else if c = '\x00' then ['\\', '0']
  else if Hidden.isHidden c then '\\' :: 'u' :: '{' :: (Nat.toDigits 16 c.toNat ++ ['}'])
  else [c]

/-- A text between quotation marks. -/
def text (s : String) : String :=
  "\"" ++ String.ofList (s.toList.flatMap escape) ++ "\""

/-- An optional text. -/
def optional : Option String → String
  | none => "None"
  | some s => "Some(" ++ text s ++ ")"

end DataTier.Quoted
