/-
Paths in a file system.

Main definitions:

* `DataTier.Path.places` — the names on the way to a file;
* `DataTier.Path.isSame` — whether two paths lead to one place.
-/

import DataTier.Text.Utf8

set_option relaxedAutoImplicit false
set_option autoImplicit false

namespace DataTier.Path

/-- The names on the way to a file: slashes that follow each other count once, and a point is no
step. -/
def places (path : Bytes) : List Bytes :=
  let add (b : UInt8) (parts : List Bytes) : List Bytes :=
    if b = 0x2F then [] :: parts
    else
      match parts with
      | [] => [[b]]
      | part :: rest => (b :: part) :: rest
  (path.foldr add [[]]).filter fun part => part ≠ [] ∧ part ≠ [0x2E]

/-- Whether two paths lead to one place. -/
def isSame (p q : Bytes) : Bool := places p == places q

end DataTier.Path
