/-
**Different JSON values have different texts.**

The first character of a text tells what kind of value it is of.  A number goes on as long as
there are characters of a number, and none of these may follow a value: what follows is a comma, a
closing bracket or nothing.

Main definitions:

* `DataTier.Json.Stops` — a rest into which no number goes on;
* `DataTier.Json.opening` — what the text of a value begins with.

Main results:

* `DataTier.Json.Number.chars_inj` — the text determines the number;
* `DataTier.Json.write_inj` — the text determines the value and the rest;
* `DataTier.Json.chars_injective` — different values have different texts.
-/

import DataTier.Proofs.Json.Strings
import DataTier.Proofs.Numeral.Shortest

set_option relaxedAutoImplicit false
set_option autoImplicit false

namespace DataTier.Json

open FloatLayout (isNumeral isNumeral_of_isDigit isNumeral_toDigits)

/-! ### Numbers -/

namespace Number

theorem isNumeral_chars (n : Number) : ∀ c ∈ n.chars, isNumeral c = true := by
  cases n with
  | natural n => exact isNumeral_toDigits
  | negSucc n => exact List.forall_mem_cons.2 ⟨by decide, isNumeral_toDigits⟩
  | real x => exact x.isNumeral_charsIn .double

theorem chars_ne_nil (n : Number) : n.chars ≠ [] := by
  cases n with
  | natural n => exact Nat.toDigits_ne_nil
  | negSucc n => exact List.cons_ne_nil _ _
  | real x =>
    intro h
    have hmem := x.mem_charsIn .double
    rw [show x.charsIn .double = [] from h] at hmem
    simp at hmem

/-- The text of an integer: digits, perhaps after a sign. -/
theorem chars_of_not_real {n : Number} (h : ∀ x, n ≠ .real x) :
    ∀ c ∈ n.chars, c.isDigit = true ∨ c = '-' := by
  have hdigits (k : Nat) : ∀ c ∈ Nat.toDigits 10 k, c.isDigit = true ∨ c = '-' :=
    fun c hc => .inl (Nat.isDigit_of_mem_toDigits (by decide) (by decide) hc)
  cases n with
  | natural n => exact hdigits _
  | negSucc n => exact List.forall_mem_cons.2 ⟨.inr rfl, hdigits _⟩
  | real x => exact absurd rfl (h x)

/-- No integer has the text of a floating-point number, which has a point or an exponent. -/
theorem real_chars_ne {n : Number} (h : ∀ x, n ≠ .real x) (x : Double) : x.chars ≠ n.chars := by
  intro heq
  have hn := heq ▸ chars_of_not_real h
  rcases x.mem_charsIn .double with hmem | hmem
  · exact absurd (hn _ hmem) (by decide)
  · exact absurd (hn _ hmem) (by decide)

theorem digits_ne_minus (n : Nat) (cs : List Char) : Nat.toDigits 10 n ≠ '-' :: cs := by
  intro h
  have hmem : '-' ∈ Nat.toDigits 10 n := h ▸ List.mem_cons_self
  exact absurd (Nat.isDigit_of_mem_toDigits (by decide) (by decide) hmem) (by decide)

/-- **The text determines the number.** -/
theorem chars_inj {n m : Number} (h : n.chars = m.chars) : n = m := by
  cases n with
  | natural n =>
    cases m with
    | natural m => rw [UInt64.toNat_inj.1 (FloatLayout.toDigits_injective h)]
    | negSucc m => exact absurd h (digits_ne_minus _ _)
    | real y => exact absurd h.symm (real_chars_ne (n := .natural n) nofun y)
  | negSucc n =>
    cases m with
    | natural m => exact absurd h.symm (digits_ne_minus _ _)
    | negSucc m =>
      have hsucc := FloatLayout.toDigits_injective (List.cons.inj h).2
      rw [Fin.ext (Nat.succ.inj hsucc)]
    | real y => exact absurd h.symm (real_chars_ne (n := .negSucc n) nofun y)
  | real x =>
    cases m with
    | natural m => exact absurd h (real_chars_ne (n := .natural m) nofun x)
    | negSucc m => exact absurd h (real_chars_ne (n := .negSucc m) nofun x)
    | real y => rw [Binary.charsIn_inj h]

end Number

/-! ### Where a number ends -/

/-- No number goes on into the rest. -/
def Stops (rest : List Char) : Prop := ∀ c ∈ rest.head?, isNumeral c = false

theorem stops_nil : Stops [] := nofun

theorem stops_cons {c : Char} (h : isNumeral c = false) (rest : List Char) : Stops (c :: rest) := by
  intro d hd
  rw [← Option.some.inj hd, h]

theorem takeWhile_of_stops {rest : List Char} (h : Stops rest) :
    rest.takeWhile isNumeral = [] := by
  cases rest with
  | nil => rfl
  | cons c rest => rw [List.takeWhile_cons, h c rfl]; rfl

/-- What follows a number tells where it ends. -/
theorem Number.chars_append_inj {n m : Number} {r r' : List Char} (hr : Stops r)
    (hr' : Stops r') (h : n.chars ++ r = m.chars ++ r') : n = m ∧ r = r' := by
  have hchars : n.chars = m.chars := by
    -- Both numbers are the longest stretch of characters that numbers have.
    have htake := congrArg (List.takeWhile isNumeral) h
    rwa [List.takeWhile_append_of_pos n.isNumeral_chars, takeWhile_of_stops hr,
      List.takeWhile_append_of_pos m.isNumeral_chars, takeWhile_of_stops hr', List.append_nil,
      List.append_nil] at htake
  rw [hchars] at h
  exact ⟨Number.chars_inj hchars, List.append_cancel_left h⟩

/-! ### How texts begin -/

/-- What the text of a value begins with, up to which number or truth value it is. -/
def opening : Json → Char
  | .null => 'n'
  | .bool _ => 't'
  | .number _ => '0'
  | .string _ => '"'
  | .array _ => '['
  | .object _ => '{'

/-- A character up to which number or truth value begins with it. -/
def blurred (c : Char) : Char := if isNumeral c then '0' else if c = 'f' then 't' else c

theorem blurred_head?_write (v : Json) (rest : List Char) :
    (write v rest).head?.map blurred = some (opening v) := by
  match v with
  | .null => rfl
  | .bool true => rfl
  | .bool false => rfl
  | .number n =>
    have hhead : (n.chars ++ rest).head? = some (n.chars.head n.chars_ne_nil) := by
      rw [List.head?_append_of_ne_nil _ n.chars_ne_nil, List.head?_eq_some_head]
    have hnumeral := n.isNumeral_chars _ (List.head_mem n.chars_ne_nil)
    rw [write, hhead, Option.map_some, blurred, if_pos hnumeral, opening]
  | .string s => rfl
  | .array [] => rfl
  | .array (_ :: _) => rfl
  | .object [] => rfl
  | .object (_ :: _) => rfl

/-- Equal texts are of values of one kind. -/
theorem opening_eq {v w : Json} {r r' : List Char} (h : write v r = write w r') :
    opening v = opening w := by
  have hhead := blurred_head?_write v r
  rw [h, blurred_head?_write w r'] at hhead
  exact (Option.some.inj hhead).symm

theorem closing_ne (v : Json) : blurred ']' ≠ opening v := by
  have hblurred : blurred ']' = ']' := by decide
  rw [hblurred]
  cases v <;> simp [opening]

theorem write_ne_cons {v : Json} {c : Char} (h : blurred c ≠ opening v) (r r' : List Char) :
    write v r ≠ c :: r' := by
  intro heq
  have hhead := blurred_head?_write v r
  rw [heq] at hhead
  exact h (Option.some.inj hhead)

/-! ### Values -/

theorem stops_writeItems (items : List Json) (rest : List Char) :
    Stops (writeItems items (']' :: rest)) := by
  cases items with
  | nil => exact stops_cons (by decide) _
  | cons item items => exact stops_cons (by decide) _

theorem stops_writeMembers (members : List (String × Json)) (rest : List Char) :
    Stops (writeMembers members ('}' :: rest)) := by
  cases members with
  | nil => exact stops_cons (by decide) _
  | cons m members => exact stops_cons (by decide) _

mutual

/-- **The text determines the value and the rest.** -/
theorem write_inj (v w : Json) {r r' : List Char} (hr : Stops r) (hr' : Stops r')
    (h : write v r = write w r') : v = w ∧ r = r' := by
  -- Values of different kinds begin differently, so only pairs of one kind are left.
  have hopening := opening_eq h
  match v with
  | .null =>
    cases w with
    | null => simpa [write] using h
    | _ => simp [opening] at hopening
  | .bool b =>
    cases w with
    | bool b' => cases b <;> cases b' <;> simp_all [write]
    | _ => simp [opening] at hopening
  | .number n =>
    cases w with
    | number m =>
      obtain ⟨hnumber, hrest⟩ := Number.chars_append_inj hr hr' h
      exact ⟨congrArg number hnumber, hrest⟩
    | _ => simp [opening] at hopening
  | .string s =>
    cases w with
    | string t =>
      obtain ⟨hstring, hrest⟩ := quote_inj h
      exact ⟨congrArg string hstring, hrest⟩
    | _ => simp [opening] at hopening
  | .array [] =>
    match w with
    | .array [] => simpa [write] using h
    | .array (item :: items) =>
      -- No item begins with the closing bracket.
      exact absurd (List.cons.inj h).2.symm (write_ne_cons (closing_ne item) _ _)
    | .null | .bool _ | .number _ | .string _ | .object _ => simp [opening] at hopening
  | .array (item :: items) =>
    match w with
    | .array [] => exact absurd (List.cons.inj h).2 (write_ne_cons (closing_ne item) _ _)
    | .array (item' :: items') =>
      obtain ⟨hitem, htail⟩ := write_inj item item' (stops_writeItems items r)
        (stops_writeItems items' r') (List.cons.inj h).2
      obtain ⟨hitems, hrest⟩ := writeItems_inj items items' htail
      exact ⟨by rw [hitem, hitems], hrest⟩
    | .null | .bool _ | .number _ | .string _ | .object _ => simp [opening] at hopening
  | .object [] =>
    match w with
    | .object [] => simpa [write] using h
    | .object ((name, value) :: members) => simp [write, quote] at h
    | .null | .bool _ | .number _ | .string _ | .array _ => simp [opening] at hopening
  | .object ((name, value) :: members) =>
    match w with
    | .object [] => simp [write, quote] at h
    | .object ((name', value') :: members') =>
      obtain ⟨hname, hcolon⟩ := quote_inj (List.cons.inj h).2
      obtain ⟨hvalue, htail⟩ := write_inj value value' (stops_writeMembers members r)
        (stops_writeMembers members' r') (List.cons.inj hcolon).2
      obtain ⟨hmembers, hrest⟩ := writeMembers_inj members members' htail
      exact ⟨by rw [hname, hvalue, hmembers], hrest⟩
    | .null | .bool _ | .number _ | .string _ | .array _ => simp [opening] at hopening

/-- The text of items in front of a closing bracket determines them and the rest. -/
theorem writeItems_inj (xs ys : List Json) {r r' : List Char}
    (h : writeItems xs (']' :: r) = writeItems ys (']' :: r')) : xs = ys ∧ r = r' := by
  match xs, ys with
  | [], [] => simpa [writeItems] using h
  | [], y :: ys => simp [writeItems] at h
  | x :: xs, [] => simp [writeItems] at h
  | x :: xs, y :: ys =>
    obtain ⟨hx, htail⟩ := write_inj x y (stops_writeItems xs r) (stops_writeItems ys r')
      (List.cons.inj h).2
    obtain ⟨hxs, hrest⟩ := writeItems_inj xs ys htail
    exact ⟨by rw [hx, hxs], hrest⟩

/-- The text of members in front of a closing brace determines them and the rest. -/
theorem writeMembers_inj (xs ys : List (String × Json)) {r r' : List Char}
    (h : writeMembers xs ('}' :: r) = writeMembers ys ('}' :: r')) : xs = ys ∧ r = r' := by
  match xs, ys with
  | [], [] => simpa [writeMembers] using h
  | [], (_, _) :: ys => simp [writeMembers] at h
  | (_, _) :: xs, [] => simp [writeMembers] at h
  | (name, v) :: xs, (name', w) :: ys =>
    obtain ⟨hname, hcolon⟩ := quote_inj (List.cons.inj h).2
    obtain ⟨hv, htail⟩ := write_inj v w (stops_writeMembers xs r) (stops_writeMembers ys r')
      (List.cons.inj hcolon).2
    obtain ⟨hxs, hrest⟩ := writeMembers_inj xs ys htail
    exact ⟨by rw [hname, hv, hxs], hrest⟩

end

/-- **Different values have different texts.** -/
theorem chars_injective {v w : Json} (h : v.chars = w.chars) : v = w :=
  (write_inj v w stops_nil stops_nil h).1

end DataTier.Json
