/-
**The order in which entries are listed does not matter.**

A map or a record may list its entries in any order, and so may the maps and records inside it: its
JSON value is the same, since the members of an object stand in the order of their names.  This
needs distinct names, since of several values under one name the last stays.

Main definitions:

* `DataTier.Datum.Relisted` — the same value with entries listed in another order, at any depth.

Main results:

* `DataTier.Datum.Relisted.symm` — the same the other way round;
* `DataTier.Datum.Relisted.toJson_iff` — **relisted values have the same JSON value, or none**.
-/

import DataTier.Proofs.Datum.Parts
import DataTier.Proofs.Named

set_option relaxedAutoImplicit false
set_option autoImplicit false

namespace DataTier

theorem Json.ofMembers_eq_of_perm {ms ms' : List (String × Json)} (h : ms.Perm ms')
    (hnodup : (ms.map Prod.fst).Nodup) : ofMembers ms = ofMembers ms' :=
  congrArg object (Named.ofList_eq_of_perm h hnodup)

namespace Datum

/-- **The same value with entries listed in another order**: maps and records with distinct keys may
be listed anew, and anything may hold something that is listed anew. -/
inductive Relisted : Datum → Datum → Prop
  /-- The entries of a map are listed in another order. -/
  | entries {es es' : List (Datum × Datum)} (h : es.Perm es')
      (hkeys : (es.map fun entry => entry.1.key).Nodup) : Relisted (.map es) (.map es')
  /-- The fields of a record are listed in another order. -/
  | fields {fs fs' : List (String × Datum)} (h : fs.Perm fs')
      (hnames : (fs.map Prod.fst).Nodup) : Relisted (.record fs) (.record fs')
  /-- It is in an optional value. -/
  | present {d e : Datum} (h : Relisted d e) : Relisted (.present d) (.present e)
  /-- It is in a type of its own. -/
  | wrapped {d e : Datum} (h : Relisted d e) : Relisted (.wrapped d) (.wrapped e)
  /-- It is the payload of a variant. -/
  | payload {name : String} {d e : Datum} (h : Relisted d e) :
      Relisted (.variantOf name d) (.variantOf name e)
  /-- It is one of the items of a list. -/
  | item {before after : List Datum} {d e : Datum} (h : Relisted d e) :
      Relisted (.sequence (before ++ d :: after)) (.sequence (before ++ e :: after))
  /-- It is one of the values of a map. -/
  | entry {before after : List (Datum × Datum)} {k d e : Datum} (h : Relisted d e) :
      Relisted (.map (before ++ (k, d) :: after)) (.map (before ++ (k, e) :: after))
  /-- It is one of the values of a record. -/
  | field {before after : List (String × Datum)} {name : String} {d e : Datum}
      (h : Relisted d e) :
      Relisted (.record (before ++ (name, d) :: after)) (.record (before ++ (name, e) :: after))
  | refl {d : Datum} : Relisted d d
  | trans {d e f : Datum} (h : Relisted d e) (h' : Relisted e f) : Relisted d f

namespace Relisted

variable {d e : Datum} {v : Json}

theorem symm (h : Relisted d e) : Relisted e d := by
  induction h with
  | entries h hkeys => exact .entries h.symm ((h.map _).nodup_iff.1 hkeys)
  | fields h hnames => exact .fields h.symm ((h.map _).nodup_iff.1 hnames)
  | present _ ih => exact .present ih
  | wrapped _ ih => exact .wrapped ih
  | payload _ ih => exact .payload ih
  | item _ ih => exact .item ih
  | entry _ ih => exact .entry ih
  | field _ ih => exact .field ih
  | refl => exact .refl
  | trans _ _ ih ih' => exact ih'.trans ih

/-- A map that is listed in another order has the same members in another order. -/
theorem toJson_entries {es es' : List (Datum × Datum)} (h : es.Perm es')
    (hkeys : (es.map fun entry => entry.1.key).Nodup) (hv : (Datum.map es).toJson = .ok v) :
    (Datum.map es').toJson = .ok v := by
  rw [toJson] at hv ⊢
  obtain ⟨ms, hms, rfl⟩ := exists_of_map_eq_ok hv
  obtain ⟨ms', hms', hperm⟩ := exists_perm_of_entriesToJson h hms
  have hnodup : (ms.map Prod.fst).Nodup :=
    List.Nodup.of_map Except.ok (map_key_of_entriesToJson hms ▸ hkeys)
  rw [hms', Json.ofMembers_eq_of_perm hperm hnodup]
  rfl

/-- A record that is listed in another order has the same members in another order. -/
theorem toJson_fields {fs fs' : List (String × Datum)} (h : fs.Perm fs')
    (hnames : (fs.map Prod.fst).Nodup) (hv : (Datum.record fs).toJson = .ok v) :
    (Datum.record fs').toJson = .ok v := by
  rw [toJson] at hv ⊢
  obtain ⟨ms, hms, rfl⟩ := exists_of_map_eq_ok hv
  obtain ⟨ms', hms', hperm⟩ := exists_perm_of_fieldsToJson h hms
  have hnodup : (ms.map Prod.fst).Nodup := map_fst_of_fieldsToJson hms ▸ hnames
  rw [hms', Json.ofMembers_eq_of_perm hperm hnodup]
  rfl

theorem toJson_of_eq_ok (h : Relisted d e) (hv : d.toJson = .ok v) : e.toJson = .ok v := by
  induction h generalizing v with
  | entries h hkeys => exact toJson_entries h hkeys hv
  | fields h hnames => exact toJson_fields h hnames hv
  | present _ ih =>
      rw [toJson] at hv ⊢
      exact ih hv
  | wrapped _ ih =>
      rw [toJson] at hv ⊢
      exact ih hv
  | payload _ ih =>
      rw [toJson] at hv ⊢
      obtain ⟨w, hw, rfl⟩ := exists_of_map_eq_ok hv
      rw [ih hw]
      rfl
  | item _ ih =>
      rw [toJson] at hv ⊢
      obtain ⟨vs, hvs, rfl⟩ := exists_of_map_eq_ok hv
      have hitems := forall₂_middle (fun w hw => ih hw) (itemsToJson_eq_ok_iff.1 hvs)
      rw [itemsToJson_eq_ok_iff.2 hitems]
      rfl
  | @entry before after k d e _ ih =>
      rw [toJson] at hv ⊢
      obtain ⟨ms, hms, rfl⟩ := exists_of_map_eq_ok hv
      have hentries := forall₂_middle (b := (k, e)) (fun m hm => ⟨hm.1, ih hm.2⟩)
        (entriesToJson_eq_ok_iff.1 hms)
      rw [entriesToJson_eq_ok_iff.2 hentries]
      rfl
  | @field before after name d e _ ih =>
      rw [toJson] at hv ⊢
      obtain ⟨ms, hms, rfl⟩ := exists_of_map_eq_ok hv
      have hfields := forall₂_middle (b := (name, e)) (fun m hm => ⟨hm.1, ih hm.2⟩)
        (fieldsToJson_eq_ok_iff.1 hms)
      rw [fieldsToJson_eq_ok_iff.2 hfields]
      rfl
  | refl => exact hv
  | trans _ _ ih ih' => exact ih' (ih hv)

/-- **Relisted values have the same JSON value, or none.** -/
theorem toJson_iff (h : Relisted d e) : d.toJson = .ok v ↔ e.toJson = .ok v :=
  ⟨h.toJson_of_eq_ok, h.symm.toJson_of_eq_ok⟩

theorem toOption_toJson (h : Relisted d e) : d.toJson.toOption = e.toJson.toOption := by
  cases hd : d.toJson with
  | ok v => rw [h.toJson_of_eq_ok hd]
  | error fault =>
      cases he : e.toJson with
      | ok v => rw [h.toJson_iff.2 he] at hd; cases hd
      | error fault' => rfl

end Relisted

end Datum

end DataTier
