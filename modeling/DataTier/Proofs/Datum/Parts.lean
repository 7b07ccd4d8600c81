/-
**The JSON of many values is that of each.**

A list, a record or a map has a JSON value exactly when all its parts have, and it is put together
from theirs in the same order.

Main results:

* `DataTier.Datum.itemsToJson_eq_ok_iff`, `Datum.fieldsToJson_eq_ok_iff`,
  `Datum.entriesToJson_eq_ok_iff` — **the parts have their JSON values one by one**;
* `DataTier.Datum.exists_perm_of_fieldsToJson`, `Datum.exists_perm_of_entriesToJson` — parts in
  another order.
-/

import DataTier.Datum
import Mathlib.Data.List.Forall2
import Mathlib.Data.List.Perm.Basic

set_option relaxedAutoImplicit false
set_option autoImplicit false

namespace DataTier

/-! ### Results -/

theorem exists_of_map_eq_ok {ε α β : Type} {f : α → β} {x : Except ε α} {y : β}
    (h : x.map f = .ok y) : ∃ a, x = .ok a ∧ f a = y := by
  cases x with
  | ok a => exact ⟨a, rfl, Except.ok.inj h⟩
  | error e => exact absurd h nofun

theorem exists_of_bind_eq_ok {ε α β : Type} {x : Except ε α} {f : α → Except ε β} {y : β}
    (h : x >>= f = .ok y) : ∃ a, x = .ok a ∧ f a = .ok y := by
  cases x with
  | ok a => exact ⟨a, rfl, h⟩
  | error e => exact absurd h nofun

/-- Something comes of all of a list when it comes of each. -/
theorem mapM_eq_ok_iff {ε α β : Type} {f : α → Except ε β} {r : α → β → Prop}
    (hr : ∀ x y, f x = .ok y ↔ r x y) {xs : List α} {ys : List β} :
    xs.mapM f = .ok ys ↔ List.Forall₂ r xs ys := by
  induction xs generalizing ys with
  | nil =>
      rw [List.mapM_nil, List.forall₂_nil_left_iff]
      exact ⟨fun h => (Except.ok.inj h).symm, fun h => h ▸ rfl⟩
  | cons x xs ih =>
      rw [List.mapM_cons, List.forall₂_cons_left_iff]
      constructor
      · intro h
        obtain ⟨y, hy, h⟩ := exists_of_bind_eq_ok h
        obtain ⟨rest, hrest, h⟩ := exists_of_bind_eq_ok h
        exact ⟨y, rest, (hr x y).1 hy, ih.1 hrest, (Except.ok.inj h).symm⟩
      · rintro ⟨y, rest, hy, hrest, rfl⟩
        rw [(hr x y).2 hy, ih.2 hrest]
        rfl

theorem forall₂_join {α β γ : Type} {r : α → γ → Prop} {s : β → γ → Prop} {xs : List α}
    {ys : List β} {zs : List γ} (hxs : List.Forall₂ r xs zs) (hys : List.Forall₂ s ys zs) :
    List.Forall₂ (fun x y => ∃ z, r x z ∧ s y z) xs ys := by
  induction hxs generalizing ys with
  | nil =>
      cases hys
      exact .nil
  | cons hx _ ih =>
      cases hys with
      | cons hy hys => exact .cons ⟨_, hx, hy⟩ (ih hys)

/-- One of many may be replaced when no more was said of it. -/
theorem forall₂_middle {α β : Type} {r : α → β → Prop} {before after : List α} {a b : α}
    {ys : List β} (hab : ∀ y, r a y → r b y) (h : List.Forall₂ r (before ++ a :: after) ys) :
    List.Forall₂ r (before ++ b :: after) ys := by
  induction before generalizing ys with
  | nil =>
      cases h with
      | cons hy hrest => exact .cons (hab _ hy) hrest
  | cons x before ih =>
      cases h with
      | cons hx hrest => exact .cons hx (ih hrest)

theorem map_eq_of_forall₂ {α β γ : Type} {f : α → γ} {g : β → γ} {xs : List α} {ys : List β}
    (h : List.Forall₂ (fun x y => f x = g y) xs ys) : xs.map f = ys.map g := by
  rwa [← List.forall₂_eq_eq_eq, List.forall₂_map_left_iff, List.forall₂_map_right_iff]

/-! ### Parts -/

namespace Datum

theorem itemsToJson_eq_mapM (items : List Datum) : itemsToJson items = items.mapM toJson := by
  induction items with
  | nil => rfl
  | cons d items ih => rw [itemsToJson, ih, List.mapM_cons]

theorem fieldsToJson_eq_mapM (fields : List (String × Datum)) :
    fieldsToJson fields = fields.mapM fun field => field.2.toJson.map (field.1, ·) := by
  induction fields with
  | nil => rfl
  | cons field fields ih =>
      obtain ⟨name, d⟩ := field
      rw [fieldsToJson, ih, List.mapM_cons]
      cases d.toJson <;> rfl

theorem entriesToJson_eq_mapM (entries : List (Datum × Datum)) :
    entriesToJson entries =
      entries.mapM fun entry => entry.1.key >>= fun name => entry.2.toJson.map (name, ·) := by
  induction entries with
  | nil => rfl
  | cons entry entries ih =>
      obtain ⟨k, d⟩ := entry
      rw [entriesToJson, ih, List.mapM_cons]
      cases k.key with
      | error e => rfl
      | ok name => cases d.toJson <;> rfl

/-- A list has the JSON values of its items. -/
theorem itemsToJson_eq_ok_iff {items : List Datum} {vs : List Json} :
    itemsToJson items = .ok vs ↔ List.Forall₂ (fun d v => d.toJson = .ok v) items vs := by
  rw [itemsToJson_eq_mapM]
  exact mapM_eq_ok_iff fun _ _ => .rfl

/-- A field has its own name, and the JSON value of its value. -/
theorem fieldsToJson_eq_ok_iff {fields : List (String × Datum)} {ms : List (String × Json)} :
    fieldsToJson fields = .ok ms ↔
      List.Forall₂ (fun field m => field.1 = m.1 ∧ field.2.toJson = .ok m.2) fields ms := by
  rw [fieldsToJson_eq_mapM]
  refine mapM_eq_ok_iff fun field m => ?_
  constructor
  · intro h
    obtain ⟨v, hv, rfl⟩ := exists_of_map_eq_ok h
    exact ⟨rfl, hv⟩
  · rintro ⟨hname, hv⟩
    rw [hv, hname]
    rfl

/-- An entry has the text of its key, and the JSON value of its value. -/
theorem entriesToJson_eq_ok_iff {entries : List (Datum × Datum)} {ms : List (String × Json)} :
    entriesToJson entries = .ok ms ↔
      List.Forall₂ (fun entry m => entry.1.key = .ok m.1 ∧ entry.2.toJson = .ok m.2) entries
        ms := by
  rw [entriesToJson_eq_mapM]
  refine mapM_eq_ok_iff fun entry m => ?_
  constructor
  · intro h
    obtain ⟨name, hname, h⟩ := exists_of_bind_eq_ok h
    obtain ⟨v, hv, rfl⟩ := exists_of_map_eq_ok h
    exact ⟨hname, hv⟩
  · rintro ⟨hname, hv⟩
    rw [hname, hv]
    rfl

theorem map_fst_of_fieldsToJson {fields : List (String × Datum)} {ms : List (String × Json)}
    (h : fieldsToJson fields = .ok ms) : ms.map Prod.fst = fields.map Prod.fst :=
  (map_eq_of_forall₂ ((fieldsToJson_eq_ok_iff.1 h).imp fun _ _ => And.left)).symm

theorem map_key_of_entriesToJson {entries : List (Datum × Datum)} {ms : List (String × Json)}
    (h : entriesToJson entries = .ok ms) :
    entries.map (fun entry => entry.1.key) = (ms.map Prod.fst).map .ok := by
  rw [List.map_map]
  exact map_eq_of_forall₂ ((entriesToJson_eq_ok_iff.1 h).imp fun _ _ => And.left)

/-- Fields in another order have their members in another order. -/
theorem exists_perm_of_fieldsToJson {fields fields' : List (String × Datum)}
    {ms : List (String × Json)} (hperm : fields.Perm fields') (h : fieldsToJson fields = .ok ms) :
    ∃ ms', fieldsToJson fields' = .ok ms' ∧ ms.Perm ms' := by
  obtain ⟨ms', hms', hsame⟩ :=
    List.perm_comp_forall₂ hperm.symm (fieldsToJson_eq_ok_iff.1 h)
  exact ⟨ms', fieldsToJson_eq_ok_iff.2 hms', hsame.symm⟩

/-- Entries in another order have their members in another order. -/
theorem exists_perm_of_entriesToJson {entries entries' : List (Datum × Datum)}
    {ms : List (String × Json)} (hperm : entries.Perm entries')
    (h : entriesToJson entries = .ok ms) :
    ∃ ms', entriesToJson entries' = .ok ms' ∧ ms.Perm ms' := by
  obtain ⟨ms', hms', hsame⟩ :=
    List.perm_comp_forall₂ hperm.symm (entriesToJson_eq_ok_iff.1 h)
  exact ⟨ms', entriesToJson_eq_ok_iff.2 hms', hsame.symm⟩

end Datum

end DataTier
