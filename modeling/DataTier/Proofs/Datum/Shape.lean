/-
**What JSON tells of the values of one type.**

Values of one type have one shape.  JSON has no word for a float that is not finite, nor for an
optional value that is there but whose own JSON is the absent value: all of these are the absent
value.  Nothing else is lost.

Main definitions:

* `DataTier.Shape` — the shape of a type, `Shape.Val` its values and `Shape.describe` how they
  are described;
* `DataTier.Shape.vacant` — whether the JSON of a value is the absent value;
* `DataTier.Shape.blur` — the value with all that JSON does not tell apart made one;
* `DataTier.Shape.Definite`, `DataTier.Shape.Finite` — options of values that are never absent,
  and values with finite floats only.

Main results:

* `DataTier.Shape.toJson_eq_null_iff` — which values are the absent one;
* `DataTier.Shape.sameJson_iff` — **values of one shape have one JSON value exactly when they are
  blurred alike**;
* `DataTier.Shape.blur_eq_self` — of finite values of a definite shape nothing is lost.
-/

import DataTier.Proofs.Cache.Key
import DataTier.Proofs.Numeral.Widening
import Mathlib.Data.List.FinRange

set_option relaxedAutoImplicit false
set_option autoImplicit false

namespace DataTier

/-! ### Floats -/

namespace Extended

variable {f : BinaryFormat}

/-- Whether a word holds a finite number. -/
def isFinite : Extended f → Bool
  | .finite _ => true
  | _ => false

/-- The word with all that is not finite made one. -/
def settled : Extended f → Extended f
  | .finite x => .finite x
  | _ => .nan

theorem settled_eq_self {x : Extended f} (h : x.isFinite = true) : x.settled = x := by
  cases x with
  | finite x => rfl
  | _ => exact absurd h nofun

end Extended

namespace Datum

theorem extendedJson_finite (x : Binary .single) :
    ∃ y, x.widen? = some y ∧ extendedJson (.finite x) = .number (.real y) := by
  obtain ⟨y, hy⟩ := Option.ne_none_iff_exists'.1 x.widen_ne_none
  exact ⟨y, hy, by simp [extendedJson, hy]⟩

theorem extendedJson_eq_null_iff {x : Extended .single} :
    extendedJson x = .null ↔ x.isFinite = false := by
  cases x with
  | finite x =>
      obtain ⟨y, -, hjson⟩ := extendedJson_finite x
      simp [hjson, Extended.isFinite]
  | _ => simp [extendedJson, Extended.isFinite]

/-- Words of 32 bits with one JSON value are one number, or both not finite. -/
theorem settled_eq_of_extendedJson {x y : Extended .single} (h : extendedJson x = extendedJson y) :
    x.settled = y.settled := by
  have hnull {z : Binary .single} : extendedJson (.finite z) ≠ .null := fun hz =>
    absurd (extendedJson_eq_null_iff.1 hz) nofun
  cases x with
  | finite x =>
      cases y with
      | finite y =>
          obtain ⟨x', hx, hxjson⟩ := extendedJson_finite x
          obtain ⟨y', hy, hyjson⟩ := extendedJson_finite y
          rw [hxjson, hyjson] at h
          obtain rfl : x' = y' := by simpa using h
          rw [Binary.widen_inj (hx.trans hy.symm)]
      | _ => exact absurd h hnull
  | _ =>
      cases y with
      | finite y => exact absurd h.symm hnull
      | _ => rfl

theorem settled_eq_of_toJson_double {x y : Extended .double}
    (h : (double x).toJson = (double y).toJson) : x.settled = y.settled := by
  cases x <;> cases y <;> simp_all [toJson, Extended.settled]

theorem eq_of_toJson_integer {m n : Int} {v : Json} (hm : (integer m).toJson = .ok v)
    (hn : (integer n).toJson = .ok v) : m = n := by
  rw [toJson] at hm hn
  split at hm
  · next k hk =>
    split at hn
    · next l hl =>
      obtain rfl := Except.ok.inj hm
      obtain rfl := Json.number.inj (Except.ok.inj hn)
      have hinteger := Json.Number.toInt?_ofInt? hl
      exact Option.some.inj ((Json.Number.toInt?_ofInt? hk).symm.trans hinteger)
    · cases hn
  · cases hm

/-! ### Values with one JSON value -/

/-- Two values have a JSON value, and the same. -/
def SameJson (d e : Datum) : Prop := ∃ v, d.toJson = .ok v ∧ e.toJson = .ok v

/-- Lists with one JSON value have it item by item. -/
theorem forall₂_of_itemsToJson {ds es : List Datum} {vs : List Json}
    (hd : itemsToJson ds = .ok vs) (he : itemsToJson es = .ok vs) :
    List.Forall₂ SameJson ds es :=
  forall₂_join (itemsToJson_eq_ok_iff.1 hd) (itemsToJson_eq_ok_iff.1 he)

/-- Fields with one JSON value have it field by field. -/
theorem forall₂_of_fieldsToJson {ds es : List (String × Datum)} {ms : List (String × Json)}
    (hd : fieldsToJson ds = .ok ms) (he : fieldsToJson es = .ok ms) :
    List.Forall₂ (fun d e => SameJson d.2 e.2) ds es :=
  (forall₂_join (fieldsToJson_eq_ok_iff.1 hd) (fieldsToJson_eq_ok_iff.1 he)).imp
    fun _ _ ⟨m, hd, he⟩ => ⟨m.2, hd.2, he.2⟩

theorem itemsToJson_map_congr {α : Type} {f g : α → Datum} (h : ∀ x, (f x).toJson = (g x).toJson)
    (xs : List α) : itemsToJson (xs.map f) = itemsToJson (xs.map g) := by
  induction xs with
  | nil => rfl
  | cons x xs ih => rw [List.map_cons, List.map_cons, itemsToJson, itemsToJson, h, ih]

theorem fieldsToJson_map_congr {α : Type} {name : α → String} {f g : α → Datum}
    (h : ∀ x, (f x).toJson = (g x).toJson) (xs : List α) :
    fieldsToJson (xs.map fun x => (name x, f x)) =
      fieldsToJson (xs.map fun x => (name x, g x)) := by
  induction xs with
  | nil => rfl
  | cons x xs ih => rw [List.map_cons, List.map_cons, fieldsToJson, fieldsToJson, h, ih]

end Datum

/-! ### Shapes -/

/-- The shape of the values of a type. -/
inductive Shape where
  /-- One value, which is the absent one. -/
  | unit
  /-- A truth value. -/
  | bool
  /-- An integer of any width. -/
  | integer
  /-- A text. -/
  | text
  /-- A floating-point word of 32 bits. -/
  | single
  /-- A floating-point word of 64 bits. -/
  | double
  /-- A value or none. -/
  | optional (s : Shape)
  /-- A value in a type of its own. -/
  | wrapped (s : Shape)
  /-- Any number of values. -/
  | list (s : Shape)
  /-- So many values, each of its own shape. -/
  | tuple (n : Nat) (item : Fin n → Shape)
  /-- So many values under names. -/
  | record (n : Nat) (name : Fin n → String) (field : Fin n → Shape)

namespace Shape

/-- The values of a shape. -/
def Val : Shape → Type
  | .unit => Unit
  | .bool => Bool
  | .integer => Int
  | .text => String
  | .single => Extended .single
  | .double => Extended .double
  | .optional s => Option s.Val
  | .wrapped s => s.Val
  | .list s => List s.Val
  | .tuple _ item => ∀ i, (item i).Val
  | .record _ _ field => ∀ i, (field i).Val

/-- How a value is described. -/
def describe : (s : Shape) → s.Val → Datum
  | .unit, _ => .null
  | .bool, b => .bool b
  | .integer, n => .integer n
  | .text, t => .string t
  | .single, x => .single x
  | .double, x => .double x
  | .optional _, none => .null
  | .optional s, some x => .present (s.describe x)
  | .wrapped s, x => .wrapped (s.describe x)
  | .list s, xs => .sequence (xs.map s.describe)
  | .tuple n item, xs => .sequence ((List.finRange n).map fun i => (item i).describe (xs i))
  | .record n name field, xs =>
    .record ((List.finRange n).map fun i => (name i, (field i).describe (xs i)))

/-- Whether the JSON of a value is the absent value. -/
def vacant : (s : Shape) → s.Val → Bool
  | .unit, _ => true
  | .single, x => !x.isFinite
  | .double, x => !x.isFinite
  | .optional _, none => true
  | .optional s, some x => s.vacant x
  | .wrapped s, x => s.vacant x
  | _, _ => false

/-- The value with all that JSON does not tell apart made one. -/
def blur : (s : Shape) → s.Val → s.Val
  | .unit, x => x
  | .bool, b => b
  | .integer, n => n
  | .text, t => t
  | .single, x => x.settled
  | .double, x => x.settled
  | .optional _, none => none
  | .optional s, some x => if s.vacant x then none else some (s.blur x)
  | .wrapped s, x => s.blur x
  | .list s, xs => xs.map s.blur
  | .tuple _ item, xs => fun i => (item i).blur (xs i)
  | .record _ _ field, xs => fun i => (field i).blur (xs i)

/-- No record has two fields of one name. -/
def Distinct : Shape → Prop
  | .optional s => s.Distinct
  | .wrapped s => s.Distinct
  | .list s => s.Distinct
  | .tuple _ item => ∀ i, (item i).Distinct
  | .record _ name field => Function.Injective name ∧ ∀ i, (field i).Distinct
  | _ => True

/-- Whether a value may be the absent one for what it is, its floats apart. -/
def hasNone : Shape → Bool
  | .unit => true
  | .optional _ => true
  | .wrapped s => s.hasNone
  | _ => false

/-- Options are of values that are never absent themselves. -/
def Definite : Shape → Prop
  | .optional s => s.hasNone = false ∧ s.Definite
  | .wrapped s => s.Definite
  | .list s => s.Definite
  | .tuple _ item => ∀ i, (item i).Definite
  | .record _ _ field => ∀ i, (field i).Definite
  | _ => True

/-- All floats are finite. -/
def Finite : (s : Shape) → s.Val → Prop
  | .single, x => x.isFinite = true
  | .double, x => x.isFinite = true
  | .optional _, none => True
  | .optional s, some x => s.Finite x
  | .wrapped s, x => s.Finite x
  | .list s, xs => List.Forall s.Finite xs
  | .tuple _ item, xs => ∀ i, (item i).Finite (xs i)
  | .record _ _ field, xs => ∀ i, (field i).Finite (xs i)
  | _, _ => True

/-! ### What is lost -/

theorem map_ne_ok_null {α : Type} {f : α → Json} (hf : ∀ a, f a ≠ .null)
    (x : Except Datum.Fault α) : x.map f ≠ .ok .null := by
  cases x with
  | ok a => exact fun h => hf a (Except.ok.inj h)
  | error e => exact nofun

/-- **The JSON of a value is the absent value** when the value is vacant. -/
theorem toJson_eq_null_iff (s : Shape) (x : s.Val) :
    (s.describe x).toJson = .ok .null ↔ s.vacant x = true := by
  induction s with
  | unit => simp [describe, Datum.toJson, vacant]
  | bool => simp [describe, Datum.toJson, vacant]
  | integer =>
      simp only [describe, Datum.toJson, vacant]
      split <;> simp
  | text => simp [describe, Datum.toJson, vacant]
  | single =>
      change Extended .single at x
      simp [describe, Datum.toJson, vacant, Datum.extendedJson_eq_null_iff]
  | double =>
      change Extended .double at x
      cases x <;> simp [describe, Datum.toJson, vacant, Extended.isFinite]
  | optional s ih =>
      change Option s.Val at x
      cases x with
      | none => simp [describe, Datum.toJson, vacant]
      | some x => simpa [describe, Datum.toJson, vacant] using ih x
  | wrapped s ih => simpa [describe, Datum.toJson, vacant] using ih x
  | list s ih => simp [describe, Datum.toJson, vacant, map_ne_ok_null]
  | tuple n item ih => simp [describe, Datum.toJson, vacant, map_ne_ok_null]
  | record n name field ih =>
      have hobject (members : List (String × Json)) : Json.ofMembers members ≠ .null := by
        simp [Json.ofMembers]
      simp [describe, Datum.toJson, vacant, map_ne_ok_null hobject]

theorem blur_some (s : Shape) (x : s.Val) :
    s.optional.blur (some x) = if s.vacant x then none else some (s.blur x) := rfl

theorem blur_of_vacant {s : Shape} {x : Option s.Val} (h : x.all s.vacant = true) :
    s.optional.blur x = none := by
  cases x with
  | none => rfl
  | some x => exact if_pos h

/-- **Blurring a value leaves its JSON alone.** -/
theorem toJson_blur (s : Shape) (x : s.Val) :
    (s.describe (s.blur x)).toJson = (s.describe x).toJson := by
  induction s with
  | single =>
      change Extended .single at x
      cases x <;> simp [describe, blur, Datum.toJson, Extended.settled, Datum.extendedJson]
  | double =>
      change Extended .double at x
      cases x <;> simp [describe, blur, Datum.toJson, Extended.settled]
  | optional s ih =>
      change Option s.Val at x
      cases x with
      | none => rfl
      | some x =>
          cases hvacant : s.vacant x with
          | true =>
              have hnull := (s.toJson_eq_null_iff x).2 hvacant
              simp [blur_some, hvacant, describe, Datum.toJson, hnull]
          | false => simpa [blur_some, hvacant, describe, Datum.toJson] using ih x
  | wrapped s ih => simpa [describe, blur, Datum.toJson] using ih x
  | list s ih =>
      change List s.Val at x
      simp only [describe, blur, Datum.toJson, List.map_map]
      exact congrArg _ (Datum.itemsToJson_map_congr ih x)
  | tuple n item ih =>
      simp only [describe, blur, Datum.toJson]
      exact congrArg _ (Datum.itemsToJson_map_congr (fun i => ih i (x i)) _)
  | record n name field ih =>
      simp only [describe, blur, Datum.toJson]
      exact congrArg _ (Datum.fieldsToJson_map_congr (fun i => ih i (x i)) _)
  | _ => rfl

theorem sameJson_optional {s : Shape} {x y : Option s.Val}
    (h : (s.optional.describe x).SameJson (s.optional.describe y)) :
    (x.all s.vacant = true ∧ y.all s.vacant = true) ∨
      ∃ a b, x = some a ∧ y = some b ∧ (s.describe a).SameJson (s.describe b) := by
  obtain ⟨v, hx, hy⟩ := h
  cases x with
  | none =>
      simp only [describe, Datum.toJson, Except.ok.injEq] at hx
      subst hx
      cases y with
      | none => exact .inl ⟨rfl, rfl⟩
      | some b =>
          rw [describe, Datum.toJson] at hy
          exact .inl ⟨rfl, (s.toJson_eq_null_iff b).1 hy⟩
  | some a =>
      rw [describe, Datum.toJson] at hx
      cases y with
      | none =>
          simp only [describe, Datum.toJson, Except.ok.injEq] at hy
          subst hy
          exact .inl ⟨(s.toJson_eq_null_iff a).1 hx, rfl⟩
      | some b =>
          rw [describe, Datum.toJson] at hy
          exact .inr ⟨a, b, rfl, rfl, v, hx, hy⟩

theorem vacant_eq_of_sameJson {s : Shape} {x y : s.Val}
    (h : (s.describe x).SameJson (s.describe y)) : s.vacant x = s.vacant y := by
  obtain ⟨v, hx, hy⟩ := h
  rw [Bool.eq_iff_iff, ← s.toJson_eq_null_iff, ← s.toJson_eq_null_iff, hx, hy]

/-- **Values of one shape that have one JSON value are blurred alike.** -/
theorem blur_eq_of_sameJson (s : Shape) (hs : s.Distinct) {x y : s.Val}
    (h : (s.describe x).SameJson (s.describe y)) : s.blur x = s.blur y := by
  induction s with
  | unit => rfl
  | bool =>
      obtain ⟨v, hx, hy⟩ := h
      simp only [describe, Datum.toJson, Except.ok.injEq] at hx hy
      exact Json.bool.inj (hx.trans hy.symm)
  | integer =>
      obtain ⟨v, hx, hy⟩ := h
      exact Datum.eq_of_toJson_integer hx hy
  | text =>
      obtain ⟨v, hx, hy⟩ := h
      simp only [describe, Datum.toJson, Except.ok.injEq] at hx hy
      exact Json.string.inj (hx.trans hy.symm)
  | single =>
      obtain ⟨v, hx, hy⟩ := h
      simp only [describe, Datum.toJson, Except.ok.injEq] at hx hy
      exact Datum.settled_eq_of_extendedJson (hx.trans hy.symm)
  | double =>
      obtain ⟨v, hx, hy⟩ := h
      exact Datum.settled_eq_of_toJson_double (hx.trans hy.symm)
  | optional s ih =>
      change Option s.Val at x y
      rcases sameJson_optional h with ⟨hx, hy⟩ | ⟨a, b, rfl, rfl, hab⟩
      · rw [blur_of_vacant hx, blur_of_vacant hy]
      · rw [blur_some, blur_some, vacant_eq_of_sameJson hab, ih hs hab]
  | wrapped s ih =>
      obtain ⟨v, hx, hy⟩ := h
      simp only [describe, Datum.toJson] at hx hy
      exact ih hs ⟨v, hx, hy⟩
  | list s ih =>
      change List s.Val at x y
      obtain ⟨v, hx, hy⟩ := h
      simp only [describe, Datum.toJson] at hx hy
      obtain ⟨vs, hvs, rfl⟩ := exists_of_map_eq_ok hx
      obtain ⟨ws, hws, hv⟩ := exists_of_map_eq_ok hy
      obtain rfl := Json.array.inj hv
      have hsame := Datum.forall₂_of_itemsToJson hvs hws
      rw [List.forall₂_map_left_iff, List.forall₂_map_right_iff] at hsame
      have hblurred := hsame.imp fun a b hab => ih hs hab
      rwa [← List.forall₂_map_right_iff, ← List.forall₂_map_left_iff,
        List.forall₂_eq_eq_eq] at hblurred
  | tuple n item ih =>
      obtain ⟨v, hx, hy⟩ := h
      simp only [describe, Datum.toJson] at hx hy
      obtain ⟨vs, hvs, rfl⟩ := exists_of_map_eq_ok hx
      obtain ⟨ws, hws, hv⟩ := exists_of_map_eq_ok hy
      obtain rfl := Json.array.inj hv
      have hsame := Datum.forall₂_of_itemsToJson hvs hws
      rw [List.forall₂_map_left_iff, List.forall₂_map_right_iff, List.forall₂_same] at hsame
      funext i
      exact ih i (hs i) (hsame i (List.mem_finRange i))
  | record n name field ih =>
      obtain ⟨v, hx, hy⟩ := h
      simp only [describe, Datum.toJson] at hx hy
      obtain ⟨ms, hms, rfl⟩ := exists_of_map_eq_ok hx
      obtain ⟨ms', hms', hv⟩ := exists_of_map_eq_ok hy
      -- Both records have the names of the shape, so their members are told from their order.
      have hnames := Datum.map_fst_of_fieldsToJson hms
      have hnames' := Datum.map_fst_of_fieldsToJson hms'
      rw [List.map_map] at hnames hnames'
      have hnodup : (ms.map Prod.fst).Nodup := hnames ▸ (List.nodup_finRange n).map hs.1
      obtain rfl := Named.ofList_inj (hnames.trans hnames'.symm) hnodup (Json.object.inj hv).symm
      have hsame := Datum.forall₂_of_fieldsToJson hms hms'
      rw [List.forall₂_map_left_iff, List.forall₂_map_right_iff, List.forall₂_same] at hsame
      funext i
      exact ih i (hs.2 i) (hsame i (List.mem_finRange i))

/-- **Values of one shape that have a JSON value have the same exactly when they are blurred
alike.** -/
theorem sameJson_iff {s : Shape} (hs : s.Distinct) {x y : s.Val} {v w : Json}
    (hx : (s.describe x).toJson = .ok v) (hy : (s.describe y).toJson = .ok w) :
    v = w ↔ s.blur x = s.blur y := by
  constructor
  · rintro rfl
    exact s.blur_eq_of_sameJson hs ⟨v, hx, hy⟩
  · intro h
    rw [← s.toJson_blur, h, s.toJson_blur, hy] at hx
    exact (Except.ok.inj hx).symm

/-! ### What is not lost -/

theorem vacant_eq_false {s : Shape} (hs : s.hasNone = false) {x : s.Val} (hx : s.Finite x) :
    s.vacant x = false := by
  induction s with
  | unit => exact absurd hs nofun
  | single =>
      change Extended .single at x
      exact congrArg not hx
  | double =>
      change Extended .double at x
      exact congrArg not hx
  | optional s ih => exact absurd hs nofun
  | wrapped s ih => exact ih hs hx
  | _ => rfl

/-- **Of finite values of a definite shape nothing is lost.** -/
theorem blur_eq_self {s : Shape} (hs : s.Definite) {x : s.Val} (hx : s.Finite x) :
    s.blur x = x := by
  induction s with
  | single =>
      change Extended .single at x
      exact Extended.settled_eq_self hx
  | double =>
      change Extended .double at x
      exact Extended.settled_eq_self hx
  | optional s ih =>
      change Option s.Val at x
      cases x with
      | none => rfl
      | some x =>
          rw [blur_some, vacant_eq_false hs.1 hx, ih hs.2 hx]
          rfl
  | wrapped s ih => exact ih hs hx
  | list s ih =>
      change List s.Val at x
      have hitems := List.forall_iff_forall_mem.1 hx
      exact (List.map_congr_left fun a ha => ih hs (hitems a ha)).trans (List.map_id _)
  | tuple n item ih =>
      funext i
      exact ih i (hs i) (hx i)
  | record n name field ih =>
      funext i
      exact ih i (hs i) (hx i)
  | _ => rfl

theorem orderly_describe (s : Shape) (x : s.Val) : (s.describe x).Orderly := by
  induction s with
  | optional s ih =>
      change Option s.Val at x
      cases x with
      | none => trivial
      | some x => exact ih x
  | wrapped s ih => exact ih x
  | _ => trivial

end Shape

end DataTier
