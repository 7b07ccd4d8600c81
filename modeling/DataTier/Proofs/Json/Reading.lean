/-
**Written values are read back, down to the depth that the reader allows.**

The writer has no bound on how deep arrays and objects nest, the reader has one.  A value that
nests no deeper is read back from its text, whatever comes after it, and a deeper one is refused.
What is needed of the value is that the members of its objects stand in order, because the reader
puts them in order, and that its floating-point numbers read back.

Main definitions:

* `DataTier.Json.InOrder` — the members of all objects within a value stand in order;
* `DataTier.Json.reals` — the floating-point numbers within a value.

Main results:

* `DataTier.Json.readCons_ite`, `DataTier.Json.forall_of_readSeparated` — what separated
  elements take and give, by what one of them does;
* `DataTier.Json.read_write` — **a written value is read back if it does not nest too deep**;
* `DataTier.Json.inOrder_of_read` — **what is read is in order and nests no deeper than allowed**;
* `DataTier.Json.decode?_bytes` — the bytes of a text are decoded if it does not nest too deep.
-/

import DataTier.Cache.Codec
import DataTier.Proofs.Json.Numbers
import DataTier.Proofs.Named
import DataTier.Proofs.Text.Utf8

set_option relaxedAutoImplicit false
set_option autoImplicit false

namespace DataTier.Json

open FloatLayout (isNumeral)

/-! ### Values that can be read back -/

mutual

/-- The members of all objects within a value stand in order. -/
def InOrder : Json → Prop
  | .array items => ItemsInOrder items
  | .object members => Named.Sorted members ∧ MembersInOrder members
  | _ => True

/-- The members of all objects within items stand in order. -/
def ItemsInOrder : List Json → Prop
  | [] => True
  | item :: items => InOrder item ∧ ItemsInOrder items

/-- The members of all objects within the members' values stand in order. -/
def MembersInOrder : List (String × Json) → Prop
  | [] => True
  | (_, value) :: members => InOrder value ∧ MembersInOrder members

end

mutual

/-- The floating-point numbers within a value. -/
def reals : Json → List Double
  | .number (.real x) => [x]
  | .array items => realsOfItems items
  | .object members => realsOfMembers members
  | _ => []

/-- The floating-point numbers within items. -/
def realsOfItems : List Json → List Double
  | [] => []
  | item :: items => reals item ++ realsOfItems items

/-- The floating-point numbers within the members' values. -/
def realsOfMembers : List (String × Json) → List Double
  | [] => []
  | (_, value) :: members => reals value ++ realsOfMembers members

end

/-- The floating-point numbers of a list read back. -/
def ReadBack (xs : List Double) : Prop := ∀ x ∈ xs, (Number.real x).ReadsBack

theorem readBack_append {xs ys : List Double} : ReadBack (xs ++ ys) ↔ ReadBack xs ∧ ReadBack ys :=
  List.forall_mem_append

/-- A number reads back when it is an integer, or when it is assumed to. -/
theorem Number.readsBack {n : Number} (h : ReadBack (Json.number n).reals) : n.ReadsBack := by
  cases n with
  | natural n => exact readsBack_of_integer nofun
  | negSucc n => exact readsBack_of_integer nofun
  | real x => exact h x (List.mem_singleton_self x)

theorem itemsInOrder_iff {items : List Json} :
    ItemsInOrder items ↔ ∀ item ∈ items, item.InOrder := by
  induction items with
  | nil => simp [ItemsInOrder]
  | cons item items ih => rw [ItemsInOrder, ih, List.forall_mem_cons]

theorem membersInOrder_iff {members : List (String × Json)} :
    MembersInOrder members ↔ ∀ m ∈ members, m.2.InOrder := by
  induction members with
  | nil => simp [MembersInOrder]
  | cons m members ih => rw [MembersInOrder, ih, List.forall_mem_cons]

theorem depthOfItems_le_iff {items : List Json} {d : Nat} :
    depthOfItems items ≤ d ↔ ∀ item ∈ items, item.depth ≤ d := by
  induction items with
  | nil => simp [depthOfItems]
  | cons item items ih => rw [depthOfItems, Nat.max_le, ih, List.forall_mem_cons]

theorem depthOfMembers_le_iff {members : List (String × Json)} {d : Nat} :
    depthOfMembers members ≤ d ↔ ∀ m ∈ members, m.2.depth ≤ d := by
  induction members with
  | nil => simp [depthOfMembers]
  | cons m members ih => rw [depthOfMembers, Nat.max_le, ih, List.forall_mem_cons]

/-! ### Texts in front of a rest -/

mutual

/-- The text of a value does not depend on what follows. -/
theorem write_append (v : Json) (r rest : List Char) : write v (r ++ rest) = write v r ++ rest := by
  match v with
  | .null | .bool true | .bool false | .array [] | .object [] => rfl
  | .number n => simp only [write, List.append_assoc]
  | .string s => simp only [write, quote, List.cons_append, List.append_assoc]
  | .array (item :: items) =>
    rw [write, write, List.cons_append, ← write_append item, ← writeItems_append items]
    rfl
  | .object ((name, value) :: members) =>
    simp only [write, quote, List.cons_append, List.append_assoc]
    rw [← write_append value, ← writeMembers_append members]
    rfl

/-- The text of items does not depend on what follows. -/
theorem writeItems_append (items : List Json) (r rest : List Char) :
    writeItems items (r ++ rest) = writeItems items r ++ rest := by
  match items with
  | [] => rfl
  | item :: items =>
    rw [writeItems, writeItems, List.cons_append, ← write_append item, ← writeItems_append items]

/-- The text of members does not depend on what follows. -/
theorem writeMembers_append (members : List (String × Json)) (r rest : List Char) :
    writeMembers members (r ++ rest) = writeMembers members r ++ rest := by
  match members with
  | [] => rfl
  | (name, value) :: members =>
    simp only [writeMembers, quote, List.cons_append, List.append_assoc]
    rw [← write_append value, ← writeMembers_append members]

end

theorem quote_append (s : String) (r rest : List Char) :
    Json.quote s r ++ rest = Json.quote s (r ++ rest) := by
  simp only [Json.quote, List.cons_append, List.append_assoc]

theorem write_eq_append (v : Json) (rest : List Char) : write v rest = v.chars ++ rest :=
  write_append v [] rest

/-- A value has at least one character. -/
theorem length_lt_length_write (v : Json) (rest : List Char) :
    rest.length < (write v rest).length := by
  have hne : v.chars ≠ [] := by
    intro h
    have hhead := blurred_head?_write v []
    rw [show write v [] = [] from h] at hhead
    cases hhead
  have hpos := List.length_pos_of_ne_nil hne
  rw [write_eq_append, List.length_append]
  omega

/-- Every item has at least one character. -/
theorem length_le_length_writeItems (items : List Json) (rest : List Char) :
    items.length + rest.length ≤ (writeItems items rest).length := by
  induction items with
  | nil => simp only [writeItems, List.length_nil, Nat.zero_add, Nat.le_refl]
  | cons item items ih =>
      have hitem := length_lt_length_write item (writeItems items rest)
      simp only [writeItems, List.length_cons]
      omega

theorem length_lt_length_quote (name : String) (rest : List Char) :
    rest.length < (quote name rest).length := by
  simp only [quote, List.length_cons, List.length_append]
  omega

/-- Every member has at least one character. -/
theorem length_le_length_writeMembers (members : List (String × Json)) (rest : List Char) :
    members.length + rest.length ≤ (writeMembers members rest).length := by
  induction members with
  | nil => simp only [writeMembers, List.length_nil, Nat.zero_add, Nat.le_refl]
  | cons m members ih =>
      obtain ⟨name, value⟩ := m
      have hvalue := length_lt_length_write value (writeMembers members rest)
      have hname := length_lt_length_quote name (':' :: write value (writeMembers members rest))
      simp only [writeMembers, List.length_cons] at hname ⊢
      omega

/-! ### Readings under a condition -/

section Conditions

variable {α β : Type} {p q : Prop} [Decidable p] [Decidable q]

/-- What is made of a reading that succeeds under a condition. -/
theorem map_ite_some (f : α → β) (x : α) :
    (if p then some x else none).map f = if p then some (f x) else none := by
  split <;> rfl

/-- A reading that succeeds under a condition, and one after it under another, need both. -/
theorem bind_ite_some {f : α → Option β} {x : α} {y : β} (h : f x = if q then some y else none) :
    (if p then some x else none).bind f = if p ∧ q then some y else none := by
  by_cases hp : p
  · rw [if_pos hp, Option.bind_some, h]
    simp only [hp, true_and]
  · rw [if_neg hp, if_neg fun hpq => hp hpq.1]
    rfl

end Conditions

/-! ### Separated elements -/

section Containers

variable {α : Type} {closing : Char} {element : Input → Option (α × Input)}

/-- Elements are read when the first one is and all that come after it. -/
theorem readCons_ite {more : Input → Option (List α × Input)} {p q : Prop} [Decidable p]
    [Decidable q] {x : α} {xs : List α} {s s' s'' : Input}
    (hfirst : element s = if p then some (x, s') else none)
    (hmore : more s' = if q then some (xs, s'') else none) :
    readCons element more s = if p ∧ q then some (x :: xs, s'') else none := by
  rw [readCons, hfirst]
  exact bind_ite_some ((congrArg _ hmore).trans (map_ite_some _ _))

/-- Behind a comma there are an element and more of them. -/
theorem readMore_comma {fuel : Nat} (s : Input) :
    readMore closing element (fuel + 1) (some ',' :: s) =
      readCons element (readMore closing element fuel) s := rfl

/-- Without the closing mark there are an element and more of them. -/
theorem readSeparated_of_open {s : Input} (h : skipWord [closing] (skipBlank s) = none) :
    readSeparated closing element s = readCons element (readMore closing element s.length) s := by
  rw [readSeparated, h]

/-- A name is read back, and after the colon what the reader of its value takes. -/
theorem readMember_quote (value : String → Input → Option (α × Input)) (name : String)
    (cs : List Char) :
    readMember value (whole (quote name (':' :: cs))) =
      (value name (whole cs)).map fun (v, s) => ((name, v), s) := by
  have hname : readString 0 (whole (quote name (':' :: cs))) =
      some (name, some ':' :: whole cs) := readStringBody_spelled name (':' :: cs)
  rw [readMember, hname]
  show (value name (whole cs)).bind _ = _
  cases value name (whole cs) <;> rfl

end Containers

/-! ### Reading what was written -/

section Heads

variable (d : Nat) (s : Input)

theorem read_null : read d (some 'n' :: s) = (skipWord ['u', 'l', 'l'] s).map (.null, ·) := by
  rw [read.eq_def]
  rfl

theorem read_true : read d (some 't' :: s) = (skipWord ['r', 'u', 'e'] s).map (.bool true, ·) := by
  rw [read.eq_def]
  rfl

theorem read_false :
    read d (some 'f' :: s) = (skipWord ['a', 'l', 's', 'e'] s).map (.bool false, ·) := by
  rw [read.eq_def]
  rfl

theorem read_string :
    read d (some '"' :: s) = (readStringBody s).map fun (text, s) => (.string text, s) := by
  rw [read.eq_def]
  rfl

theorem read_array :
    read (d + 1) (some '[' :: s) =
      (readSeparated ']' (read d) s).map fun (items, s) => (.array items, s) := by
  rw [read.eq_def]
  rfl

theorem read_object :
    read (d + 1) (some '{' :: s) =
      (readSeparated '}' (readMember fun _ => read d) s).map fun (members, s) =>
        (ofMembers members, s) := by
  rw [read.eq_def]
  rfl

theorem read_container_zero {c : Char} (h : c = '[' ∨ c = '{') : read 0 (some c :: s) = none := by
  rw [read.eq_def]
  rcases h with rfl | rfl <;> rfl

end Heads

/-- A character of a number does not begin a value of another kind. -/
theorem read_number {d : Nat} {c : Char} (hc : isNumeral c = true) (s : Input) :
    read d (some c :: s) =
      (readNumber 0 (some c :: s)).map fun (n, s) => (.number n, s) := by
  have hne : ∀ other, isNumeral other = false → c ≠ other := by
    rintro _ hother rfl
    rw [hother] at hc
    cases hc
  have hblank : ¬(c = ' ' ∨ c = '\t' ∨ c = '\n' ∨ c = '\r') := by
    rintro (h | h | h | h)
    all_goals exact hne _ (by decide) h
  rw [read.eq_def]
  simp only
  rw [skipBlank_of_not_blank hblank]
  split
  case h_7 => rfl
  all_goals
    rename_i h
    exact absurd (Option.some.inj (List.cons.inj h).1) (hne _ (by decide))

/-- No value begins with a blank. -/
theorem skipBlank_write (v : Json) (rest : List Char) :
    skipBlank (whole (write v rest)) = whole (write v rest) := by
  match v with
  | .null | .bool true | .bool false | .array [] | .object [] => rfl
  | .number n =>
    rw [write, whole, List.map_append]
    exact n.skipBlank_chars _
  | .string s => rfl
  | .array (item :: items) => rfl
  | .object ((name, value) :: members) => rfl

/-- No value begins with the closing mark of an array. -/
theorem skipWord_closing_write (v : Json) (rest : List Char) :
    skipWord [']'] (skipBlank (whole (write v rest))) = none := by
  rw [skipBlank_write]
  cases hwritten : write v rest with
  | nil => rfl
  | cons c cs =>
      have hne : ']' ≠ c := by
        rintro rfl
        exact write_ne_cons (closing_ne v) rest cs hwritten
      exact if_neg hne

/-- No name begins with the closing mark of an object. -/
theorem skipWord_closing_quote (name : String) (cs : List Char) :
    skipWord ['}'] (skipBlank (whole (quote name cs))) = none := rfl

theorem delimited_writeItems (items : List Json) (rest : List Char) :
    Delimited (writeItems items (']' :: rest)) := by
  cases items with
  | nil => exact delimited_cons (.inr (.inl rfl)) rest
  | cons item items => exact delimited_cons (.inl rfl) _

theorem delimited_writeMembers (members : List (String × Json)) (rest : List Char) :
    Delimited (writeMembers members ('}' :: rest)) := by
  cases members with
  | nil => exact delimited_cons (.inr (.inr rfl)) rest
  | cons m members => exact delimited_cons (.inl rfl) _

/-- A member is read back when its value is. -/
theorem readMember_write {α : Type} {p : Prop} [Decidable p] {x : α} {cs : List Char} {s : Input}
    (reader : Input → Option (α × Input)) (name : String)
    (hvalue : reader (whole cs) = if p then some (x, s) else none) :
    readMember (fun _ => reader) (whole (quote name (':' :: cs))) =
      if p then some ((name, x), s) else none := by
  rw [readMember_quote, hvalue, map_ite_some]

/-- An array that is not empty is read back under the conditions of its first item and of the
others. -/
theorem read_array_of_items {d : Nat} {p q : Prop} [Decidable p] [Decidable q] {item : Json}
    {items : List Json} {rest : List Char}
    (hitem : read d (whole (write item (writeItems items (']' :: rest)))) =
      if p then some (item, whole (writeItems items (']' :: rest))) else none)
    (hitems : ∀ fuel, items.length < fuel →
      readMore ']' (read d) fuel (whole (writeItems items (']' :: rest))) =
        if q then some (items, whole rest) else none) :
    read (d + 1) (whole (write (.array (item :: items)) rest)) =
      if p ∧ q then some (.array (item :: items), whole rest) else none := by
  -- The text has more characters than the array has items.
  have hlength := length_lt_length_write item (writeItems items (']' :: rest))
  have hmany := length_le_length_writeItems items (']' :: rest)
  have hbody := (readSeparated_of_open (skipWord_closing_write item _)).trans
    (readCons_ite hitem (hitems _ (by rw [List.length_map]; omega)))
  refine (read_array d _).trans ?_
  rw [hbody, map_ite_some]

/-- An object that is not empty is read back under the conditions of its first value and of the
other members, if its names are in order. -/
theorem read_object_of_members {d : Nat} {p q : Prop} [Decidable p] [Decidable q] {name : String}
    {value : Json} {members : List (String × Json)} {rest : List Char}
    (hsorted : Named.Sorted ((name, value) :: members))
    (hvalue : read d (whole (write value (writeMembers members ('}' :: rest)))) =
      if p then some (value, whole (writeMembers members ('}' :: rest))) else none)
    (hmembers : ∀ fuel, members.length < fuel →
      readMore '}' (readMember fun _ => read d) fuel
          (whole (writeMembers members ('}' :: rest))) =
        if q then some (members, whole rest) else none) :
    read (d + 1) (whole (write (.object ((name, value) :: members)) rest)) =
      if p ∧ q then some (.object ((name, value) :: members), whole rest) else none := by
  -- The text has more characters than the object has members.
  have hmany := length_le_length_writeMembers members ('}' :: rest)
  have hlength := length_lt_length_write value (writeMembers members ('}' :: rest))
  have hname := length_lt_length_quote name
    (':' :: write value (writeMembers members ('}' :: rest)))
  rw [List.length_cons] at hname
  have hbody := (readSeparated_of_open (skipWord_closing_quote name _)).trans
    (readCons_ite (readMember_write (read d) name hvalue)
      (hmembers _ (by rw [List.length_map]; omega)))
  have hmade : ofMembers ((name, value) :: members) = .object ((name, value) :: members) :=
    congrArg object (Named.ofList_of_sorted hsorted)
  refine (read_object d _).trans ?_
  rw [hbody, map_ite_some]
  simp only [hmade]

mutual

/-- **A written value is read back if it does not nest too deep**, and is refused if it does. -/
theorem read_write (v : Json) {d : Nat} {rest : List Char} (hv : v.InOrder)
    (hreals : ReadBack v.reals) (hrest : Delimited rest) :
    read d (whole (write v rest)) = if v.depth ≤ d then some (v, whole rest) else none := by
  match v with
  | .null => exact (read_null d _).trans (if_pos (Nat.zero_le d)).symm
  | .bool true => exact (read_true d _).trans (if_pos (Nat.zero_le d)).symm
  | .bool false => exact (read_false d _).trans (if_pos (Nat.zero_le d)).symm
  | .number n =>
    have hread := (Number.readsBack hreals).readNumber hrest 0
    refine Eq.trans ?_ (if_pos (Nat.zero_le d)).symm
    cases hchars : n.chars with
    | nil => exact absurd hchars n.chars_ne_nil
    | cons c cs =>
        have hc := n.isNumeral_chars c (hchars ▸ List.mem_cons_self)
        rw [hchars] at hread
        rw [write, hchars]
        exact (read_number hc _).trans (congrArg (Option.map _) hread)
  | .string s =>
    refine Eq.trans ?_ (if_pos (Nat.zero_le d)).symm
    exact (read_string d _).trans (congrArg (Option.map _) (readStringBody_spelled s rest))
  | .array [] =>
    cases d with
    | zero => exact read_container_zero _ (.inl rfl)
    | succ d => exact (read_array d _).trans (if_pos (Nat.succ_le_succ (Nat.zero_le d))).symm
  | .array (item :: items) =>
    cases d with
    | zero => exact read_container_zero _ (.inl rfl)
    | succ d =>
        obtain ⟨hitem, hitems⟩ := hv
        obtain ⟨hitemReals, hitemsReals⟩ := readBack_append.1 hreals
        have hread := read_array_of_items
          (read_write item (d := d) hitem hitemReals (delimited_writeItems items rest))
          fun fuel => readMore_writeItems items (d := d) rest hitems hitemsReals
        simp only [depth, depthOfItems, Nat.succ_le_succ_iff, Nat.max_le]
        exact hread
  | .object [] =>
    cases d with
    | zero => exact read_container_zero _ (.inr rfl)
    | succ d => exact (read_object d _).trans (if_pos (Nat.succ_le_succ (Nat.zero_le d))).symm
  | .object ((name, value) :: members) =>
    cases d with
    | zero => exact read_container_zero _ (.inr rfl)
    | succ d =>
        obtain ⟨hsorted, hvalue, hmembers⟩ := hv
        obtain ⟨hvalueReals, hmembersReals⟩ := readBack_append.1 hreals
        have hread := read_object_of_members hsorted
          (read_write value (d := d) hvalue hvalueReals (delimited_writeMembers members rest))
          fun fuel => readMore_writeMembers members (d := d) rest hmembers hmembersReals
        simp only [depth, depthOfMembers, Nat.succ_le_succ_iff, Nat.max_le]
        exact hread

/-- Items after another one are read back, down to the end of the array. -/
theorem readMore_writeItems (items : List Json) {d fuel : Nat} (rest : List Char)
    (hitems : ItemsInOrder items) (hreals : ReadBack (realsOfItems items))
    (hfuel : items.length < fuel) :
    readMore ']' (read d) fuel (whole (writeItems items (']' :: rest))) =
      if depthOfItems items ≤ d then some (items, whole rest) else none := by
  obtain ⟨fuel, rfl⟩ := Nat.exists_eq_add_one_of_ne_zero (Nat.ne_zero_of_lt hfuel)
  match items with
  | [] => exact (if_pos (Nat.zero_le d)).symm
  | item :: items =>
    obtain ⟨hitem, hitems⟩ := hitems
    obtain ⟨hitemReals, hitemsReals⟩ := readBack_append.1 hreals
    have hfirst := read_write item (d := d) hitem hitemReals (delimited_writeItems items rest)
    have hmore := readMore_writeItems items (d := d) rest hitems hitemsReals
      (Nat.lt_of_succ_lt_succ hfuel)
    simp only [depthOfItems, Nat.max_le]
    exact (readMore_comma _).trans (readCons_ite hfirst hmore)

/-- Members after another one are read back, down to the end of the object. -/
theorem readMore_writeMembers (members : List (String × Json)) {d fuel : Nat} (rest : List Char)
    (hmembers : MembersInOrder members) (hreals : ReadBack (realsOfMembers members))
    (hfuel : members.length < fuel) :
    readMore '}' (readMember fun _ => read d) fuel (whole (writeMembers members ('}' :: rest))) =
      if depthOfMembers members ≤ d then some (members, whole rest) else none := by
  obtain ⟨fuel, rfl⟩ := Nat.exists_eq_add_one_of_ne_zero (Nat.ne_zero_of_lt hfuel)
  match members with
  | [] => exact (if_pos (Nat.zero_le d)).symm
  | (name, value) :: members =>
    obtain ⟨hvalue, hmembers⟩ := hmembers
    obtain ⟨hvalueReals, hmembersReals⟩ := readBack_append.1 hreals
    have hfirst := readMember_write (read d) name
      (read_write value (d := d) hvalue hvalueReals (delimited_writeMembers members rest))
    have hmore := readMore_writeMembers members (d := d) rest hmembers hmembersReals
      (Nat.lt_of_succ_lt_succ hfuel)
    simp only [depthOfMembers, Nat.max_le]
    exact (readMore_comma _).trans (readCons_ite hfirst hmore)

end

/-! ### What can be read -/

section Sound

variable {α : Type} {closing : Char} {element : Input → Option (α × Input)} {p : α → Prop}

/-- What holds of the first element that is read and of all after it holds of all. -/
theorem forall_of_readCons {more : Input → Option (List α × Input)}
    (helement : ∀ s x s', element s = some (x, s') → p x)
    (hmore : ∀ s xs s', more s = some (xs, s') → ∀ x ∈ xs, p x) {s s' : Input} {xs : List α}
    (h : readCons element more s = some (xs, s')) : ∀ x ∈ xs, p x := by
  obtain ⟨⟨x, t⟩, hx, h⟩ := Option.bind_eq_some_iff.1 h
  obtain ⟨⟨ys, t'⟩, hys, heq⟩ := Option.map_eq_some_iff.1 h
  obtain ⟨rfl, -⟩ := Prod.mk.inj heq
  exact List.forall_mem_cons.2 ⟨helement _ _ _ hx, hmore _ _ _ hys⟩

theorem forall_of_readMore (helement : ∀ s x s', element s = some (x, s') → p x) {fuel : Nat}
    {s s' : Input} {xs : List α} (h : readMore closing element fuel s = some (xs, s')) :
    ∀ x ∈ xs, p x := by
  induction fuel generalizing s xs s' with
  | zero => cases h
  | succ fuel ih =>
      rw [readMore] at h
      split at h
      · exact forall_of_readCons helement (fun _ _ _ => ih) h
      · obtain ⟨t, -, heq⟩ := Option.map_eq_some_iff.1 h
        obtain ⟨rfl, -⟩ := Prod.mk.inj heq
        exact fun _ hmem => absurd hmem List.not_mem_nil

/-- What holds of all that is read as an element holds of all elements. -/
theorem forall_of_readSeparated (helement : ∀ s x s', element s = some (x, s') → p x)
    {s s' : Input} {xs : List α} (h : readSeparated closing element s = some (xs, s')) :
    ∀ x ∈ xs, p x := by
  rw [readSeparated] at h
  split at h
  · obtain ⟨rfl, -⟩ := Prod.mk.inj (Option.some.inj h)
    exact fun _ hmem => absurd hmem List.not_mem_nil
  · exact forall_of_readCons helement (fun _ _ _ => forall_of_readMore helement) h

/-- What holds of all that is read under a name holds of the member of that name. -/
theorem of_readMember {value : String → Input → Option (α × Input)} {p : String → α → Prop}
    (hvalue : ∀ name s x s', value name s = some (x, s') → p name x) {s s' : Input}
    {m : String × α} (h : readMember value s = some (m, s')) : p m.1 m.2 := by
  obtain ⟨⟨name, t⟩, -, h⟩ := Option.bind_eq_some_iff.1 h
  simp only at h
  split at h
  · obtain ⟨⟨x, t'⟩, hx, heq⟩ := Option.bind_eq_some_iff.1 h
    obtain ⟨rfl, -⟩ := Prod.mk.inj (Option.some.inj heq)
    exact hvalue _ _ _ _ hx
  · cases h

end Sound

/-- **What is read is in order and nests no deeper than allowed.** -/
theorem inOrder_of_read {v : Json} {d : Nat} {s s' : Input} (h : read d s = some (v, s')) :
    v.InOrder ∧ v.depth ≤ d := by
  induction d using Nat.strongRecOn generalizing v s s' with
  | ind d ih =>
      rw [read.eq_def] at h
      simp only at h
      split at h
      case h_5 =>
          cases d with
          | zero => cases h
          | succ d =>
              obtain ⟨⟨items, t⟩, hbody, heq⟩ := Option.map_eq_some_iff.1 h
              obtain ⟨rfl, -⟩ := Prod.mk.inj heq
              have hitems := forall_of_readSeparated (p := fun v => v.InOrder ∧ v.depth ≤ d)
                (fun _ _ _ hitem => ih d (Nat.lt_succ_self d) hitem) hbody
              exact ⟨itemsInOrder_iff.2 fun item hmem => (hitems item hmem).1,
                Nat.succ_le_succ (depthOfItems_le_iff.2 fun item hmem => (hitems item hmem).2)⟩
      case h_6 =>
          cases d with
          | zero => cases h
          | succ d =>
              obtain ⟨⟨members, t⟩, hbody, heq⟩ := Option.map_eq_some_iff.1 h
              obtain ⟨rfl, -⟩ := Prod.mk.inj heq
              have hmembers := forall_of_readSeparated (p := fun m => m.2.InOrder ∧ m.2.depth ≤ d)
                (fun _ _ _ hm => of_readMember (p := fun _ v => v.InOrder ∧ v.depth ≤ d)
                  (fun _ _ _ _ hvalue => ih d (Nat.lt_succ_self d) hvalue) hm) hbody
              -- Putting the members in order makes up none.
              have hkept := fun m hmem => hmembers m (Named.mem_of_mem_ofList hmem)
              exact ⟨⟨Named.sorted_ofList members,
                  membersInOrder_iff.2 fun m hmem => (hkept m hmem).1⟩,
                Nat.succ_le_succ (depthOfMembers_le_iff.2 fun m hmem => (hkept m hmem).2)⟩
      all_goals
        obtain ⟨_, -, heq⟩ := Option.map_eq_some_iff.1 h
        obtain ⟨rfl, -⟩ := Prod.mk.inj heq
        exact ⟨trivial, Nat.zero_le d⟩

/-! ### Whole texts -/

/-- A whole text is read when its value does not nest too deep. -/
theorem finish?_write {v : Json} (hv : v.InOrder) (hreals : ReadBack v.reals) (d : Nat) :
    Reader.finish? read d (whole v.chars) = if v.depth ≤ d then some v else none := by
  rw [Reader.finish?, chars, read_write v hv hreals delimited_nil]
  by_cases hdepth : v.depth ≤ d
  · rw [if_pos hdepth, if_pos hdepth]
    rfl
  · rw [if_neg hdepth, if_neg hdepth]

/-- **The bytes of a value are decoded when it does not nest too deep.** -/
theorem decode?_bytes {v : Json} (hv : v.InOrder) (hreals : ReadBack v.reals) :
    Reader.decode? read v.bytes = if v.depth ≤ depthLimit then some v else none := by
  rw [Reader.decode?, bytes, Utf8.units_encode]
  exact finish?_write hv hreals depthLimit

end DataTier.Json
