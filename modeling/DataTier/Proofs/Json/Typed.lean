/-
**Readers made of other readers.**

What a reader of tuples and records takes is put together from what the readers of its parts take.
So what holds of the parts holds of the whole, whichever of its spellings was read; and what is
written of a record is read back when its parts are.

Main results:

* `DataTier.Json.Reader.filterMap_eq_some_iff` — what a reader with a check takes;
* `DataTier.Json.readMore_member` — one more member is read back;
* `DataTier.Json.readOptional_number`, `DataTier.Json.readVariant_quote` — numbers that may be
  absent and names of variants are read back;
* `DataTier.Json.forall_of_readRecord` — **what holds of all that is read as a field holds of the
  fields of a record**.
-/

import DataTier.Json.Typed
import DataTier.Proofs.Json.Reading

set_option relaxedAutoImplicit false
set_option autoImplicit false

namespace DataTier.Json

/-! ### What was written is read back -/

theorem Reader.filterMap_eq_some_iff {α β : Type} {reader : Reader α} {f : α → Option β} {d : Nat}
    {s s' : Input} {y : β} :
    reader.filterMap f d s = some (y, s') ↔ ∃ x, reader d s = some (x, s') ∧ f x = some y := by
  rw [Reader.filterMap]
  cases reader d s with
  | none => simp
  | some x =>
      obtain ⟨x, t⟩ := x
      simp only [Option.map_eq_some_iff, Prod.mk.injEq, Option.some.injEq]
      constructor
      · rintro ⟨y, hy, rfl, rfl⟩
        exact ⟨x, ⟨rfl, rfl⟩, hy⟩
      · rintro ⟨_, ⟨rfl, rfl⟩, hy⟩
        exact ⟨y, hy, rfl, rfl⟩

/-- A text that is read to its end is read as a whole. -/
theorem finish?_of_read {α : Type} {reader : Reader α} {d : Nat} {s : Input} {x : α}
    (h : reader d s = some (x, [])) : reader.finish? d s = some x := by
  rw [Reader.finish?, h]
  rfl

section Members

variable {α : Type} {value : String → Input → Option (α × Input)} {name : String}
  {cs rest : List Char} {x : α} {xs : List (String × α)} {s : Input}

/-- A member is read back in front of what is read after it. -/
theorem readCons_member {more : Input → Option (List (String × α) × Input)}
    (hvalue : value name (whole cs) = some (x, whole rest))
    (hmore : more (whole rest) = some (xs, s)) :
    readCons (readMember value) more (whole (quote name (':' :: cs))) =
      some ((name, x) :: xs, s) := by
  rw [readCons, readMember_quote, hvalue]
  simp only [Option.map_some, Option.bind_some, hmore]

/-- One more member is read back behind a comma. -/
theorem readMore_member {fuel : Nat} (hvalue : value name (whole cs) = some (x, whole rest))
    (hmore : readMore '}' (readMember value) fuel (whole rest) = some (xs, s)) :
    readMore '}' (readMember value) (fuel + 1) (whole (',' :: quote name (':' :: cs))) =
      some ((name, x) :: xs, s) :=
  (readMore_comma _).trans (readCons_member hvalue hmore)

end Members

/-- No number begins as the absent value does. -/
theorem readOptional_number {α : Type} {reader : Reader α} {number : Number} {d : Nat}
    {rest : List Char} {x : α} {s : Input}
    (h : reader d (whole (number.chars ++ rest)) = some (x, s)) :
    readOptional reader d (whole (number.chars ++ rest)) = some (some x, s) := by
  have hfirst := number.isNumeral_chars
  rw [whole, List.map_append] at h ⊢
  rw [readOptional, number.skipBlank_chars]
  split
  · next t ht =>
    cases hchars : number.chars with
    | nil => exact absurd hchars number.chars_ne_nil
    | cons c cs =>
        rw [hchars] at ht hfirst
        obtain rfl := Option.some.inj (List.cons.inj ht).1
        exact absurd (hfirst 'n' List.mem_cons_self) (by decide)
  · rw [h]
    rfl

/-- A name that stands as a string is one of the names. -/
theorem readVariant_quote {names : List String} {name : String} (h : name ∈ names) (d : Nat)
    (rest : List Char) :
    readVariant names d (whole (quote name rest)) = some (name, whole rest) := by
  have hread : readVariant names d (whole (quote name rest)) =
      (readStringBody (whole (name.toList.flatMap escape ++ '"' :: rest))).bind fun x =>
        if x.1 ∈ names then some x else none := rfl
  rw [hread, readStringBody_spelled]
  exact if_pos h

/-! ### What holds of the parts -/

/-- What holds of all that is read as an item of a tuple holds of all its items. -/
theorem forall_of_readTupleTail {α : Type} {p : α → Prop}
    {readers : List (Input → Option (α × Input))}
    (hreaders : ∀ reader ∈ readers, ∀ s x s', reader s = some (x, s') → p x) {s s' : Input}
    {xs : List α} (h : readTupleTail readers s = some (xs, s')) : ∀ x ∈ xs, p x := by
  induction readers generalizing s xs s' with
  | nil =>
      rw [readTupleTail] at h
      split at h
      · obtain ⟨rfl, -⟩ := Prod.mk.inj (Option.some.inj h)
        exact fun _ hmem => absurd hmem List.not_mem_nil
      · cases h
  | cons reader readers ih =>
      obtain ⟨hreader, hreaders⟩ := List.forall_mem_cons.1 hreaders
      rw [readTupleTail] at h
      split at h
      · exact forall_of_readCons hreader (fun _ _ _ => ih hreaders) h
      · cases h

theorem forall_of_readTupleBody {α : Type} {p : α → Prop}
    {readers : List (Input → Option (α × Input))}
    (hreaders : ∀ reader ∈ readers, ∀ s x s', reader s = some (x, s') → p x) {s s' : Input}
    {xs : List α} (h : readTupleBody readers s = some (xs, s')) : ∀ x ∈ xs, p x := by
  cases readers with
  | nil => exact forall_of_readTupleTail hreaders h
  | cons reader readers =>
      obtain ⟨hreader, hreaders⟩ := List.forall_mem_cons.1 hreaders
      rw [readTupleBody] at h
      exact forall_of_readCons hreader (fun _ _ _ => forall_of_readTupleTail hreaders) h

/-- **What holds of all that is read as a field holds of all fields of a record**, which is read
from an object or from an array. -/
theorem forall_of_readRecord {α : Type} {p : α → Prop} {names : List String}
    {field : String → Reader α} {d : Nat} {s s' : Input} {fields : List (String × α)}
    (hfield : ∀ name s x s', field name d s = some (x, s') → p x)
    (h : readRecord names field (d + 1) s = some (fields, s')) : ∀ f ∈ fields, p f.2 := by
  rw [readRecord] at h
  split at h
  · -- An object: what is known of its members are the fields.
    obtain ⟨⟨members, t⟩, hmembers, h⟩ := Option.bind_eq_some_iff.1 h
    obtain ⟨known, hknown, heq⟩ := Option.bind_eq_some_iff.1 h
    obtain ⟨rfl, -⟩ := Prod.mk.inj (Option.some.inj heq)
    have hall := forall_of_readSeparated (p := fun m => ∀ y, m.2 = some y → p y)
      (fun _ _ _ hm => of_readMember (p := fun _ x => ∀ y, x = some y → p y) ?_ hm) hmembers
    · simp only [knownFields, Option.ite_none_right_eq_some, Option.some.injEq] at hknown
      obtain ⟨-, rfl⟩ := hknown
      intro f hf
      obtain ⟨⟨name, x⟩, hmem, hx⟩ := List.mem_filterMap.1 hf
      obtain ⟨y, rfl, rfl⟩ := Option.map_eq_some_iff.1 hx
      exact hall _ hmem y rfl
    · intro name s x s' hread y hy
      rw [hy, readField] at hread
      split at hread
      · obtain ⟨⟨z, t⟩, hz, heq⟩ := Option.map_eq_some_iff.1 hread
        obtain ⟨hyz, -⟩ := Prod.mk.inj heq
        exact Option.some.inj hyz ▸ hfield _ _ _ _ hz
      · obtain ⟨t, -, heq⟩ := Option.map_eq_some_iff.1 hread
        exact absurd (Prod.mk.inj heq).1 nofun
  · -- An array: the items are the fields.
    obtain ⟨⟨xs, t⟩, hxs, heq⟩ := Option.bind_eq_some_iff.1 h
    obtain ⟨rfl, -⟩ := Prod.mk.inj (Option.some.inj heq)
    have hall := forall_of_readTupleBody (p := p) ?_ hxs
    · exact fun f hf => hall _ (List.of_mem_zip hf).2
    · intro reader hreader
      obtain ⟨name, -, rfl⟩ := List.mem_map.1 hreader
      exact hfield name
  · cases h

end DataTier.Json
