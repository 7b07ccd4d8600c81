/-
**The order in which arguments are supplied does not matter.**

Arguments are supplied one after the other, with a name or without.  What has come of it is
determined by the positional values in their order and by the last value of each name: so names and
positions may be interleaved in any way, and names may be repeated.  Arguments that are made of one
object are what its entries come to when they are supplied as named ones, in any order.

Main definitions:

* `DataTier.CallArgs.Supply` — one argument that is supplied;
* `DataTier.CallArgs.supplyAll` — what comes of supplying them in turn;
* `DataTier.CallArgs.Supply.positionals`, `Supply.last?` — the positional values, and the last value
  of a name.

Main results:

* `DataTier.CallArgs.positional_supplyAll`, `CallArgs.find?_supplyAll` — what has been supplied;
* `DataTier.CallArgs.eq_of_supplyAll` — **the order of the supplies does not matter**;
* `DataTier.CallArgs.supplyAll_entries` — the entries of an object, supplied one by one;
* `DataTier.CallArgs.keys_ignore_order` — **all of it, for keys**.
-/

import DataTier.Proofs.Cache.Key
import DataTier.Proofs.Datum.Relisting

set_option relaxedAutoImplicit false
set_option autoImplicit false

namespace DataTier

namespace CallArgs

/-! ### Supplies -/

/-- One argument that is supplied. -/
inductive Supply where
  /-- The next positional one. -/
  | positional (d : Datum)
  /-- One under a name. -/
  | named (name : String) (d : Datum)

namespace Supply

/-- The value, if it is a positional one. -/
def positional? : Supply → Option Datum
  | .positional d => some d
  | .named .. => none

/-- The value, if it is of that name. -/
def named? (name : String) : Supply → Option Datum
  | .positional _ => none
  | .named n d => if name = n then some d else none

/-- The positional values, in their order. -/
def positionals (xs : List Supply) : List Datum := xs.filterMap positional?

/-- The last value of a name. -/
def last? (name : String) : List Supply → Option Datum
  | [] => none
  | x :: xs => (last? name xs).or (x.named? name)

end Supply

/-- What comes of one more argument. -/
def supply (c : CallArgs) : Supply → Except Datum.Fault CallArgs
  | .positional d => c.arg d
  | .named name d => c.kwarg name d

/-- What comes of arguments that are supplied in turn. -/
def supplyAll (c : CallArgs) (xs : List Supply) : Except Datum.Fault CallArgs := xs.foldlM supply c

variable {c c' c₁ c₂ : CallArgs}

theorem exists_of_supplyAll_cons {x : Supply} {xs : List Supply}
    (h : c.supplyAll (x :: xs) = .ok c') :
    ∃ c₁, c.supply x = .ok c₁ ∧ c₁.supplyAll xs = .ok c' := by
  rw [supplyAll, List.foldlM_cons] at h
  exact exists_of_bind_eq_ok h

/-! ### What has been supplied -/

/-- One argument adds to the positional ones, or does not. -/
theorem positional_supply {x : Supply} (h : c.supply x = .ok c') :
    c'.positional.map some =
      c.positional.map some ++ x.positional?.toList.map (·.toJson.toOption) := by
  cases x with
  | positional d =>
      obtain ⟨v, hv, rfl⟩ := exists_of_map_eq_ok h
      simp [push, Supply.positional?, hv, Except.toOption]
  | named name d =>
      obtain ⟨v, hv, rfl⟩ := exists_of_map_eq_ok h
      simp [set, Supply.positional?]

/-- One argument is found under its name, and leaves the other names alone. -/
theorem find?_supply {x : Supply} (h : c.supply x = .ok c') (name : String) :
    Named.find? name c'.named =
      (x.named? name).elim (Named.find? name c.named) (·.toJson.toOption) := by
  cases x with
  | positional d =>
      obtain ⟨v, hv, rfl⟩ := exists_of_map_eq_ok h
      rfl
  | named n d =>
      obtain ⟨v, hv, rfl⟩ := exists_of_map_eq_ok h
      rw [set, Named.find?_insert, Supply.named?]
      by_cases hname : name = n
      · simp [hname, hv, Except.toOption]
      · simp [hname]

/-- **The positional arguments** are the JSON values of the positional values, in their order. -/
theorem positional_supplyAll {xs : List Supply} (h : c.supplyAll xs = .ok c') :
    c'.positional.map some =
      c.positional.map some ++ (Supply.positionals xs).map (·.toJson.toOption) := by
  induction xs generalizing c with
  | nil =>
      obtain rfl := Except.ok.inj h
      simp [Supply.positionals]
  | cons x xs ih =>
      obtain ⟨c₁, hx, hxs⟩ := exists_of_supplyAll_cons h
      rw [ih hxs, positional_supply hx]
      cases hpositional : x.positional? <;> simp [Supply.positionals, hpositional]

/-- **Under a name** stands the JSON value of its last value, or what stood there before. -/
theorem find?_supplyAll {xs : List Supply} (h : c.supplyAll xs = .ok c') (name : String) :
    Named.find? name c'.named =
      (Supply.last? name xs).elim (Named.find? name c.named) (·.toJson.toOption) := by
  induction xs generalizing c with
  | nil =>
      obtain rfl := Except.ok.inj h
      rfl
  | cons x xs ih =>
      obtain ⟨c₁, hx, hxs⟩ := exists_of_supplyAll_cons h
      rw [ih hxs, find?_supply hx, Supply.last?]
      -- A later value of the name hides this one.
      cases Supply.last? name xs <;> rfl

/-! ### The order of the supplies -/

/-- **The order of the supplies does not matter**, nor does the order in which entries are listed
inside of them: the arguments are determined by the positional values and by the last value of each
name. -/
theorem eq_of_supplyAll {xs ys : List Supply} (hc : c.supplyAll xs = .ok c₁)
    (hd : c.supplyAll ys = .ok c₂)
    (hpositionals : List.Forall₂ Datum.Relisted (Supply.positionals xs) (Supply.positionals ys))
    (hlast : ∀ name, Option.Rel Datum.Relisted (Supply.last? name xs) (Supply.last? name ys)) :
    c₁ = c₂ := by
  rw [ext_iff_find?]
  constructor
  · have hvalues := map_eq_of_forall₂ (hpositionals.imp fun _ _ h => h.toOption_toJson)
    have hsome : c₁.positional.map some = c₂.positional.map some := by
      rw [positional_supplyAll hc, positional_supplyAll hd, hvalues]
    exact List.map_injective_iff.2 (Option.some_injective _) hsome
  · intro name
    rw [find?_supplyAll hc, find?_supplyAll hd]
    have hsame := hlast name
    generalize Supply.last? name xs = last at hsame ⊢
    generalize Supply.last? name ys = last' at hsame ⊢
    cases hsame with
    | some h => exact h.toOption_toJson
    | none => rfl

/-- Values that list their entries in another order come to the same arguments. -/
theorem ofDatum_of_relisted {d e : Datum} (h : d.Relisted e) (hc : ofDatum d = .ok c) :
    ofDatum e = .ok c := by
  obtain ⟨v, hv, rfl⟩ := exists_of_map_eq_ok hc
  rw [ofDatum, h.toJson_of_eq_ok hv]
  rfl

/-! ### The entries of an object -/

/-- What comes of values that are supplied under their names in turn. -/
theorem supplyAll_named {fields : List (String × Datum)} {ms : List (String × Json)}
    (h : Datum.fieldsToJson fields = .ok ms) :
    c.supplyAll (fields.map fun field => .named field.1 field.2) =
      .ok (ms.foldl (fun c m => c.set m.1 m.2) c) := by
  replace h := Datum.fieldsToJson_eq_ok_iff.1 h
  induction h generalizing c with
  | nil => rfl
  | @cons field m fields ms hfield _ ih =>
      obtain ⟨hname, hv⟩ := hfield
      have hfirst : c.supply (.named field.1 field.2) = .ok (c.set m.1 m.2) := by
        rw [supply, kwarg, hv, hname]
        rfl
      rw [supplyAll, List.map_cons, List.foldlM_cons, hfirst]
      exact ih

theorem foldl_set (ms : List (String × Json)) :
    (ms.foldl (fun c m => c.set m.1 m.2) c).positional = c.positional ∧
      (ms.foldl (fun c m => c.set m.1 m.2) c).named =
        ms.foldl (fun named m => Named.insert m.1 m.2 named) c.named := by
  induction ms generalizing c with
  | nil => exact ⟨rfl, rfl⟩
  | cons m ms ih => exact ih

/-- **The entries of an object, supplied one by one** in any order: they come to what is made of
the object as a whole. -/
theorem supplyAll_entries {d : Datum} {members ms : List (String × Json)}
    {entries : List (String × Datum)} (hd : d.Orderly) (hjson : d.toJson = .ok (.object members))
    (hentries : Datum.fieldsToJson entries = .ok ms) (hperm : ms.Perm members) :
    ∃ c, ofDatum d = .ok c ∧
      empty.supplyAll (entries.map fun entry => .named entry.1 entry.2) = .ok c := by
  have hsorted : Named.Sorted members := Datum.orderly_of_toJson hd hjson
  have hnodup : (ms.map Prod.fst).Nodup := (hperm.map Prod.fst).nodup_iff.2 hsorted.nodup_names
  have hsame : ofJson (.object members) = ms.foldl (fun c m => c.set m.1 m.2) empty := by
    obtain ⟨hpositional, hnamed⟩ := foldl_set (c := empty) ms
    refine ext_iff_find?.2 ⟨hpositional.symm, fun name => congrArg _ ?_⟩
    rw [hnamed]
    exact (Named.ofList_eq_of_perm hperm hnodup).symm
  refine ⟨_, ?_, supplyAll_named hentries⟩
  rw [ofDatum, hjson, ← hsame]
  rfl

/-- The fields of a record, supplied one by one in any order. -/
theorem supplyAll_fields {fields fields' : List (String × Datum)} (hperm : fields.Perm fields')
    (hnames : (fields.map Prod.fst).Nodup) (hc : ofDatum (.record fields) = .ok c) :
    empty.supplyAll (fields'.map fun field => .named field.1 field.2) = .ok c := by
  obtain ⟨v, hv, rfl⟩ := exists_of_map_eq_ok hc
  have hjson := hv
  rw [Datum.toJson] at hv
  obtain ⟨ms, hms, rfl⟩ := exists_of_map_eq_ok hv
  obtain ⟨ms', hms', hsame⟩ := Datum.exists_perm_of_fieldsToJson hperm hms
  have hkept : (Named.ofList ms).Perm ms :=
    Named.perm_ofList (Datum.map_fst_of_fieldsToJson hms ▸ hnames)
  obtain ⟨c', hc', hsupplied⟩ := supplyAll_entries (d := .record fields) trivial hjson hms'
    (hsame.symm.trans hkept.symm)
  obtain rfl := Except.ok.inj (hc.symm.trans hc')
  exact hsupplied

/-- Anything but an object is the only positional argument, or has no JSON value. -/
theorem ofDatum_eq_arg {d : Datum} (h : ∀ members, d.toJson ≠ .ok (.object members)) :
    ofDatum d = empty.arg d := by
  rw [ofDatum, arg]
  cases hd : d.toJson with
  | error fault => rfl
  | ok v =>
      cases v with
      | object members => exact absurd hd (h members)
      | _ => rfl

/-! ### The theorem -/

/-- **Keys ignore the order in which arguments are supplied.**  Supplies that succeed have the same
text and the same keys for any operation when they have the same positional values in the same order
and the same last value of each name, however names and positions are interleaved and however often
names are repeated, and however maps and records inside the values list their entries.  Arguments
that are made of one value do not depend on how it lists its entries either.  Those that are made of
an object are what its entries come to when they are supplied one by one under their names, in any
order, and so are those that are made of a record with distinct names; those that are made of
anything else are what it comes to as the only positional one. -/
theorem keys_ignore_order :
    (∀ (xs ys : List Supply) (c d : CallArgs), empty.supplyAll xs = .ok c →
      empty.supplyAll ys = .ok d →
      List.Forall₂ Datum.Relisted (Supply.positionals xs) (Supply.positionals ys) →
      (∀ name, Option.Rel Datum.Relisted (Supply.last? name xs) (Supply.last? name ys)) →
      c.canonical = d.canonical ∧ ∀ operation, deriveKey operation c = deriveKey operation d) ∧
    (∀ a b : Datum, a.Relisted b → ∀ c, ofDatum a = .ok c ↔ ofDatum b = .ok c) ∧
    (∀ (d : Datum) (members ms : List (String × Json)) (entries : List (String × Datum)),
      d.Orderly → d.toJson = .ok (.object members) → Datum.fieldsToJson entries = .ok ms →
      ms.Perm members → ∃ c, ofDatum d = .ok c ∧
        empty.supplyAll (entries.map fun entry => .named entry.1 entry.2) = .ok c) ∧
    (∀ (fields fields' : List (String × Datum)) (c : CallArgs), fields.Perm fields' →
      (fields.map Prod.fst).Nodup → ofDatum (.record fields) = .ok c →
      empty.supplyAll (fields'.map fun field => .named field.1 field.2) = .ok c) ∧
    (∀ d : Datum, (∀ members, d.toJson ≠ .ok (.object members)) → ofDatum d = empty.arg d) := by
  refine ⟨?_, fun a b hab c => ⟨ofDatum_of_relisted hab, ofDatum_of_relisted hab.symm⟩,
    fun d members ms entries => supplyAll_entries, fun fields fields' c => supplyAll_fields,
    fun d => ofDatum_eq_arg⟩
  intro xs ys c d hc hd hpositionals hlast
  obtain rfl := eq_of_supplyAll hc hd hpositionals hlast
  exact ⟨rfl, fun _ => rfl⟩

/-- A map between named arguments, of which one is replaced later. -/
def mapAmongNames : List Supply :=
  [.named "b" (.bool true), .positional (.map [(.string "x", .bool false), (.string "y", .null)]),
    .named "a" .null, .named "b" (.string "z")]

/-- The same map, listed anew, after the named arguments that are left. -/
def mapAfterNames : List Supply :=
  [.named "a" .null, .named "b" (.string "z"),
    .positional (.map [(.string "y", .null), (.string "x", .bool false)])]

/-- Those two have one text, and the named arguments alone are those of a record. -/
theorem keys_ignore_order_of_repeated_name :
    ∃ c d e : CallArgs, empty.supplyAll mapAmongNames = .ok c ∧
      empty.supplyAll mapAfterNames = .ok d ∧ c.canonical = d.canonical ∧
      c.named = [("a", .null), ("b", .string "z")] ∧
      ofDatum (.record [("b", .string "z"), ("a", .null)]) = .ok e ∧
      empty.supplyAll [.named "a" .null, .named "b" (.string "z")] = .ok e := by
  obtain ⟨hsupplies, -, -, hfields, -⟩ := keys_ignore_order
  have hrecord : ∃ e, ofDatum (.record [("b", .string "z"), ("a", .null)]) = .ok e := ⟨_, rfl⟩
  obtain ⟨e, hrecord⟩ := hrecord
  have hsupplied := hfields _ [("a", .null), ("b", .string "z")] e (.swap ..) (by decide) hrecord
  have hlast (name : String) :
      Supply.last? name mapAmongNames = Supply.last? name mapAfterNames := by
    by_cases hb : name = "b"
    · simp [mapAmongNames, mapAfterNames, Supply.last?, Supply.named?, hb]
    · simp [mapAmongNames, mapAfterNames, Supply.last?, Supply.named?, hb]
  obtain ⟨htext, -⟩ := hsupplies mapAmongNames mapAfterNames _ _ rfl rfl
    (.cons (.entries (.swap ..) (by simp [Datum.key])) .nil) fun name => by
      rw [hlast]
      cases Supply.last? name mapAfterNames with
      | none => exact .none
      | some d => exact .some .refl
  exact ⟨_, _, e, rfl, rfl, htext, rfl, hrecord, hsupplied⟩

end CallArgs

end DataTier
