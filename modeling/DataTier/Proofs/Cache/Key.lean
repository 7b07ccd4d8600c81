/-
**Keys tell calls apart, up to collisions of the hash.**

The canonical text of a call determines its arguments, since texts of JSON values do.  A key ends
with the digits of the hash in their full width, so the operation's name can be read off it
whatever characters it has.

Main definitions:

* `DataTier.Json.Orderly` — a value that is no object with its members out of order;
* `DataTier.Datum.Orderly` — a described value whose JSON is such a value.

Main results:

* `DataTier.CallArgs.canonical_inj` — the canonical text determines the arguments;
* `DataTier.CallArgs.ofDatum_inj` — and the JSON value that the arguments were made of;
* `DataTier.CallArgs.canonical_injective` — calls have one text exactly when they have the same
  arguments;
* `DataTier.keyWith_eq_iff` — two keys are equal exactly when names and hashes are;
* `DataTier.exists_keyWith_eq_append` — what stands in a key;
* `DataTier.operations_never_share_keys` — **both**, and the same for memoized operations.
-/

import DataTier.Cache.Memo
import DataTier.Proofs.Datum.Parts
import DataTier.Proofs.Json.Text
import DataTier.Proofs.Named

set_option relaxedAutoImplicit false
set_option autoImplicit false

namespace DataTier

/-! ### Objects in order -/

/-- The members of an object stand in the order of their names, as the readers and builders of
values leave them. -/
def Json.Orderly : Json → Prop
  | .object members => Named.Sorted members
  | _ => True

/-- A value whose JSON is orderly: only a JSON value that is given as it is might not be. -/
def Datum.Orderly : Datum → Prop
  | .present d => d.Orderly
  | .wrapped d => d.Orderly
  | .json v => v.Orderly
  | _ => True

theorem Datum.orderly_extendedJson {f : BinaryFormat} (x : Extended f) :
    (extendedJson x).Orderly := by
  cases x with
  | finite x =>
      rw [extendedJson]
      cases x.widen? <;> trivial
  | _ => trivial

theorem Json.orderly_ofMembers (members : List (String × Json)) : (ofMembers members).Orderly :=
  Named.sorted_ofList members

/-- What is built from other values is orderly by itself. -/
theorem Datum.orderly_of_toJson {d : Datum} {v : Json} (hd : d.Orderly) (h : d.toJson = .ok v) :
    v.Orderly := by
  induction d using Orderly.induct with
  | case1 d ih => exact ih hd (by simpa [toJson] using h)
  | case2 d ih => exact ih hd (by simpa [toJson] using h)
  | case3 w =>
      rw [toJson, Except.ok.injEq] at h
      exact h ▸ hd
  | case4 d hpresent hwrapped hjson =>
      cases d with
      | present d => exact absurd rfl (hpresent d)
      | wrapped d => exact absurd rfl (hwrapped d)
      | json w => exact absurd rfl (hjson w)
      | failing message => simp [toJson] at h
      | single x =>
          rw [toJson, Except.ok.injEq] at h
          exact h ▸ orderly_extendedJson x
      | double x =>
          cases x with
          | finite x =>
              rw [toJson, Except.ok.injEq] at h
              exact h ▸ trivial
          | _ =>
              rw [toJson, Except.ok.injEq] at h
              · exact h ▸ trivial
              · exact nofun
      | integer n =>
          rw [toJson] at h
          split at h
          · exact Except.ok.inj h ▸ trivial
          · exact absurd h nofun
      | sequence items =>
          obtain ⟨vs, -, rfl⟩ := exists_of_map_eq_ok (toJson.eq_def _ ▸ h)
          trivial
      | map entries =>
          obtain ⟨members, -, rfl⟩ := exists_of_map_eq_ok (toJson.eq_def _ ▸ h)
          exact Json.orderly_ofMembers members
      | record fields =>
          obtain ⟨members, -, rfl⟩ := exists_of_map_eq_ok (toJson.eq_def _ ▸ h)
          exact Json.orderly_ofMembers members
      | variantOf name payload =>
          obtain ⟨v, -, rfl⟩ := exists_of_map_eq_ok (toJson.eq_def _ ▸ h)
          exact List.pairwise_singleton _ _
      | _ =>
          rw [toJson, Except.ok.injEq] at h
          exact h ▸ trivial

/-! ### Canonical texts -/

namespace CallArgs

/-- **The canonical text determines the arguments.** -/
theorem canonical_inj {c d : CallArgs} (h : c.canonical = d.canonical) : c = d := by
  have htoJson : c.toJson = d.toJson := Json.chars_injective h
  obtain ⟨positional, named, sorted⟩ := c
  obtain ⟨positional', named', sorted'⟩ := d
  simp only [toJson, Json.object.injEq, List.cons.injEq, Prod.mk.injEq, Json.array.injEq, true_and,
    and_true] at htoJson
  obtain ⟨rfl, hnamed⟩ := htoJson
  have hpair : ∀ x y : String × Json, Json.array [.string x.1, x.2] = .array [.string y.1, y.2] →
      x = y := by
    intro x y hxy
    simp only [Json.array.injEq, List.cons.injEq, Json.string.injEq, and_true] at hxy
    exact Prod.ext hxy.1 hxy.2
  obtain rfl : named = named' := (List.map_inj_right hpair).1 hnamed
  rfl

/-- The value that arguments stand for, if they were made of one. -/
def origin (c : CallArgs) : Json :=
  match c.positional with
  | [v] => v
  | _ => .object c.named

theorem origin_ofJson {v : Json} (hv : v.Orderly) : (ofJson v).origin = v := by
  cases v with
  | object members => exact congrArg Json.object (Named.ofList_of_sorted hv)
  | _ => rfl

/-- The arguments that an orderly value stands for determine it. -/
theorem ofJson_inj {v w : Json} (hv : v.Orderly) (hw : w.Orderly) (h : ofJson v = ofJson w) :
    v = w := by
  rw [← origin_ofJson hv, h, origin_ofJson hw]

/-- **The canonical text determines the JSON value that the arguments were made of.** -/
theorem ofDatum_inj {a b : Datum} {c d : CallArgs} (ha : a.Orderly) (hb : b.Orderly)
    (hc : ofDatum a = .ok c) (hd : ofDatum b = .ok d) (h : c.canonical = d.canonical) :
    a.toJson = b.toJson := by
  obtain ⟨v, hv, rfl⟩ := exists_of_map_eq_ok hc
  obtain ⟨w, hw, rfl⟩ := exists_of_map_eq_ok hd
  have hsame := ofJson_inj (Datum.orderly_of_toJson ha hv) (Datum.orderly_of_toJson hb hw)
    (canonical_inj h)
  rw [hv, hw, hsame]

theorem ext_iff_find? {c d : CallArgs} :
    c = d ↔ c.positional = d.positional ∧
      ∀ name, Named.find? name c.named = Named.find? name d.named := by
  refine ⟨fun h => h ▸ ⟨rfl, fun _ => rfl⟩, ?_⟩
  rintro ⟨hpositional, hnamed⟩
  obtain ⟨positional, named, sorted⟩ := c
  obtain ⟨positional', named', sorted'⟩ := d
  obtain rfl : positional = positional' := hpositional
  obtain rfl : named = named' := sorted.ext_find? sorted' hnamed
  rfl

theorem ofDatum_json (v : Json) : ofDatum (.json v) = .ok (ofJson v) := by
  rw [ofDatum, Datum.toJson]
  rfl

/-- **The canonical text tells calls apart.**  Two calls have one text exactly when they have the
same positional arguments in the same order and the same value, or none, under every name.  Two
JSON values become the arguments of calls with one text exactly when they are equal: neither a
value and a list of just that value, nor any two of the absent value, the empty list and the empty
object. -/
theorem canonical_injective :
    (∀ c d : CallArgs, c.canonical = d.canonical ↔ c.positional = d.positional ∧
      ∀ name, Named.find? name c.named = Named.find? name d.named) ∧
    (∀ v w : Json, v.Orderly → w.Orderly → ∃ c d, ofDatum (.json v) = .ok c ∧
      ofDatum (.json w) = .ok d ∧ (c.canonical = d.canonical ↔ v = w)) ∧
    (∀ v : Json, v.Orderly → (ofJson v).canonical ≠ (ofJson (.array [v])).canonical) ∧
    ([.null, .array [], .object []].map fun v => (ofJson v).canonical).Nodup := by
  have hvalues {v w : Json} (hv : v.Orderly) (hw : w.Orderly) :
      (ofJson v).canonical = (ofJson w).canonical ↔ v = w :=
    ⟨fun h => ofJson_inj hv hw (canonical_inj h), fun h => h ▸ rfl⟩
  refine ⟨fun c d => ?_, fun v w hv hw => ?_, fun v hv htext => ?_, ?_⟩
  · rw [← ext_iff_find?]
    exact ⟨canonical_inj, congrArg canonical⟩
  · exact ⟨_, _, ofDatum_json v, ofDatum_json w, hvalues hv hw⟩
  · -- A list is deeper than its items.
    have hlist : (Json.array [v]).Orderly := trivial
    have hsame := congrArg Json.depth ((hvalues hv hlist).1 htext)
    simp [Json.depth, Json.depthOfItems] at hsame
  · have hnone : Json.Orderly (.object []) := Named.sorted_nil
    have hnull : Json.Orderly .null := trivial
    have hlist : Json.Orderly (.array []) := trivial
    simp [hvalues, hnone, hnull, hlist]

/-- A named argument, and a list of the object that it was made of. -/
theorem canonical_injective_of_object :
    ∃ v : Json, v.Orderly ∧ (Json.array [v]).Orderly ∧ v.member? "a" = some (.ofNat 1) ∧
      ∃ c d, ofDatum (.json v) = .ok c ∧ ofDatum (.json (.array [v])) = .ok d ∧
        c.named.length = 1 ∧ d.positional.length = 1 ∧ c.canonical ≠ d.canonical := by
  let v : Json := .object [("a", .ofNat 1)]
  have hv : v.Orderly := List.pairwise_singleton ..
  obtain ⟨c, d, hc, hd, htext⟩ := canonical_injective.2.1 v (.array [v]) hv trivial
  obtain rfl := Except.ok.inj ((ofDatum_json v).symm.trans hc)
  obtain rfl := Except.ok.inj ((ofDatum_json (.array [v])).symm.trans hd)
  exact ⟨v, hv, trivial, rfl, _, _, hc, hd, rfl, rfl, fun h => nomatch htext.1 h⟩

end CallArgs

/-! ### Keys -/

variable {hash : Bytes → UInt64} {p q : String} {c d : CallArgs}

/-- A hash of 64 bits has no more digits than stand in a key. -/
theorem hash_fits (n : UInt64) : n.toNat < 16 ^ keyHashWidth := n.toNat_lt

/-- **Two keys are equal exactly when names and hashes are.** -/
theorem keyWith_eq_iff :
    keyWith hash p c = keyWith hash q d ↔
      p = q ∧ hash (Utf8.encode c.canonical) = hash (Utf8.encode d.canonical) := by
  refine ⟨fun h => ?_, fun ⟨hname, hhash⟩ => by rw [keyWith, keyWith, hname, hhash]⟩
  have hchars := congrArg String.toList h
  simp only [keyWith, String.toList_append, String.toList_ofList] at hchars
  -- The digits of the hash are as many in both keys, so they and the names agree.
  obtain ⟨hname, hdigits⟩ := List.append_inj' hchars (by simp)
  have hhash := Hex.fixed_inj (hash_fits _) (hash_fits _) hdigits
  exact ⟨String.toList_inj.1 (List.append_cancel_right hname), UInt64.toNat_inj.1 hhash⟩

/-- **What stands in a key**: the name, a colon, and the hexadecimal digits of the hash behind as
many zeros as it takes, which are read back as the hash. -/
theorem exists_keyWith_eq_append (hash : Bytes → UInt64) (p : String) (c : CallArgs) :
    ∃ digits : List Char, (keyWith hash p c).toList = p.toList ++ ':' :: digits ∧
      digits = (Nat.toDigits 16 (hash (Utf8.encode c.canonical)).toNat).leftpad keyHashWidth '0' ∧
      digits.length = keyHashWidth ∧
      (∀ x ∈ digits, '0' ≤ x ∧ x ≤ '9' ∨ 'a' ≤ x ∧ x ≤ 'f') ∧
      Hex.value? digits = some (hash (Utf8.encode c.canonical)).toNat := by
  refine ⟨Hex.fixed keyHashWidth (hash (Utf8.encode c.canonical)).toNat, ?_,
    Hex.fixed_eq_leftpad (hash_fits _), Hex.length_fixed .., fun _ => Hex.range_of_mem_fixed, ?_⟩
  · simp [keyWith]
  · rw [Hex.value?_fixed, Nat.mod_eq_of_lt (hash_fits _)]

/-- The key that a memoized operation uses for given arguments. -/
theorem Memo.keyFor_of_ofDatum {R : Type} (m : Memo R) {args : Datum}
    (h : CallArgs.ofDatum args = .ok c) :
    m.keyFor args = .ok (keyWith Xxh64.hash m.keyPrefix c) := by
  rw [keyFor, h]
  rfl

/-- **Operations never share keys.**  Whatever the hash and whatever characters the names have: two
keys are equal exactly when the names are and the hashes of the canonical texts are, and a key is
the name, a colon and the digits of the hash in one width for all hashes.  So memoized operations
have equal keys only when their prefixes are equal. -/
theorem operations_never_share_keys {R S : Type} :
    (∀ (hash : Bytes → UInt64) (p q : String) (c d : CallArgs),
      keyWith hash p c = keyWith hash q d ↔
        p = q ∧ hash (Utf8.encode c.canonical) = hash (Utf8.encode d.canonical)) ∧
    (∀ (hash : Bytes → UInt64) (p : String) (c : CallArgs), ∃ digits : List Char,
      (keyWith hash p c).toList = p.toList ++ ':' :: digits ∧
      digits =
        (Nat.toDigits 16 (hash (Utf8.encode c.canonical)).toNat).leftpad keyHashWidth '0' ∧
      digits.length = keyHashWidth ∧
      (∀ x ∈ digits, '0' ≤ x ∧ x ≤ '9' ∨ 'a' ≤ x ∧ x ≤ 'f') ∧
      Hex.value? digits = some (hash (Utf8.encode c.canonical)).toNat) ∧
    (∀ (m : Memo R) (m' : Memo S) (a b : Datum) (c d : CallArgs),
      CallArgs.ofDatum a = .ok c → CallArgs.ofDatum b = .ok d →
      (m.keyFor a = m'.keyFor b ↔ m.keyPrefix = m'.keyPrefix ∧
        Xxh64.hash (Utf8.encode c.canonical) = Xxh64.hash (Utf8.encode d.canonical))) := by
  refine ⟨fun hash p q c d => keyWith_eq_iff, exists_keyWith_eq_append, ?_⟩
  intro m m' a b c d hc hd
  rw [m.keyFor_of_ofDatum hc, m'.keyFor_of_ofDatum hd, Except.ok.injEq, keyWith_eq_iff]

/-- An operation whose name looks like a key of another one has other keys, also under a hash that
is the same for all calls. -/
theorem operations_never_share_keys_of_nested_name :
    (⟨"a", defaultTtl, .word⟩ : Memo UInt64).keyFor (.json .null) ≠
        (⟨"a:0000000000000007", defaultTtl, .text⟩ : Memo String).keyFor (.json .null) ∧
      keyWith (fun _ => 7) "a" .empty ≠ keyWith (fun _ => 7) "a:0000000000000007" .empty := by
  obtain ⟨hkeys, -, hmemos⟩ := operations_never_share_keys (R := UInt64) (S := String)
  have hdiffer : "a" ≠ "a:0000000000000007" := by decide
  refine ⟨fun h => ?_, fun h => hdiffer ((hkeys _ _ _ _ _).1 h).1⟩
  have hnull := CallArgs.ofDatum_json .null
  exact hdiffer ((hmemos _ _ _ _ _ _ hnull hnull).1 h).1

end DataTier
