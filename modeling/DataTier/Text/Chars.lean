/-
Lists of characters cut to pieces.

Main definitions:

* `DataTier.Chars.splitOn` — a list cut at every occurrence of a separator;
* `DataTier.Chars.cut` — a list cut at the first occurrence of a separator;
* `DataTier.Chars.strip?` — the rest of a list that begins with another one;
* `DataTier.Chars.trim` — a list without the characters of a class at both its ends.
-/

set_option relaxedAutoImplicit false
set_option autoImplicit false

namespace DataTier.Chars

/-- A list cut at every occurrence of a separator. -/
def splitOn (separator : Char) : List Char → List (List Char)
  | [] => [[]]
  | c :: cs =>
    if c = separator then [] :: splitOn separator cs
    else
      match splitOn separator cs with
      | [] => [[c]]
      | part :: parts => (c :: part) :: parts

/-- A list cut at the first occurrence of a separator; the second part is none without one. -/
def cut (separator : Char) (cs : List Char) : List Char × Option (List Char) :=
  match cs.dropWhile (· != separator) with
  | [] => (cs, none)
  | _ :: rest => (cs.takeWhile (· != separator), some rest)

/-- The rest of a list that begins with another one. -/
def strip? (beginning cs : List Char) : Option (List Char) :=
  if beginning.isPrefixOf cs then some (cs.drop beginning.length) else none

/-- A list without the characters of a class at its end. -/
def trimEnd (p : Char → Bool) (cs : List Char) : List Char := (cs.reverse.dropWhile p).reverse

/-- A list without the characters of a class at both its ends. -/
def trim (p : Char → Bool) (cs : List Char) : List Char := trimEnd p (cs.dropWhile p)

end DataTier.Chars
