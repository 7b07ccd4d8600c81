/-
**What each operation of a store does to its keys.**

A store is a list of keys with entries.  As long as no key occurs twice, an operation is known by
what it does to the lookups: a write changes one of them, a deletion clears one, and everything
else can at most clear lookups of expired entries, except that a write to a full store evicts.

Main definitions:

* `DataTier.Store.keys`, `Store.Distinct` — the stored keys, and that none occurs twice;
* `DataTier.Entry.valueAt` — what is visible of an entry at a moment.

Main results:

* `DataTier.Store.find?_delete`, `Store.find?_put`, `Store.Distinct.find?_retainLive`,
  `Store.find?_dropExpired` — lookups after each change;
* `DataTier.Store.get_fst`, `Store.get_snd`, `Store.contains_eq` — what a lookup answers and leaves;
* `DataTier.Store.makeRoom_sublist`, `Store.makeRoom_eq` — how a write makes room.
-/

import DataTier.Cache.Store
import Mathlib.Data.List.Nodup

set_option relaxedAutoImplicit false
set_option autoImplicit false

namespace DataTier

/-- What is visible of an entry. -/
def Entry.valueAt (e : Entry) (now : Instant) : Option Bytes :=
  if now < e.expiresAt then some e.value else none

theorem Entry.valueAt_eq_some_iff {e : Entry} {now : Instant} {value : Bytes} :
    e.valueAt now = some value ↔ now < e.expiresAt ∧ e.value = value := by
  simp [valueAt]

theorem Entry.isExpired_eq_false_iff {e : Entry} {now : Instant} :
    e.isExpired now = false ↔ now < e.expiresAt := by
  simp [isExpired]

namespace Store

variable {s s' : Store} {now : Instant} {key k : String} {e : Entry}

/-- The stored keys. -/
def keys (s : Store) : List String := s.entries.map Prod.fst

/-- No key is stored twice. -/
def Distinct (s : Store) : Prop := s.keys.Nodup

theorem distinct_empty (capacity : Nat) : (empty capacity).Distinct := List.nodup_nil

/-! ### Lookups and entries -/

@[simp] theorem find?_empty (capacity : Nat) (key : String) : (empty capacity).find? key = none :=
  rfl

theorem mem_of_find? (h : s.find? key = some e) : (key, e) ∈ s.entries := by
  obtain ⟨before, after, hsplit, -⟩ := List.lookup_eq_some_iff.1 h
  rw [hsplit]
  exact List.mem_append_right _ List.mem_cons_self

theorem find?_eq_none_iff : s.find? key = none ↔ key ∉ s.keys := by
  simp only [find?, List.lookup_eq_none_iff, keys, List.mem_map, not_exists, not_and, bne_iff_ne]
  exact ⟨fun h x hx hk => h x hx hk.symm, fun h x hx hk => h x hx hk.symm⟩

theorem stores_eq_true_iff : s.stores key = true ↔ key ∈ s.keys := by
  rw [stores, Option.isSome_iff_ne_none, ne_eq, find?_eq_none_iff, Classical.not_not]

/-- In a store without repeated keys a lookup finds every entry. -/
theorem Distinct.find?_eq_some_iff (hs : s.Distinct) :
    s.find? key = some e ↔ (key, e) ∈ s.entries := by
  refine ⟨mem_of_find?, fun h => ?_⟩
  obtain ⟨e', he'⟩ : ∃ e', s.find? key = some e' := by
    rw [← Option.ne_none_iff_exists', ne_eq, find?_eq_none_iff, Classical.not_not]
    exact List.mem_map_of_mem h
  have hmem := mem_of_find? he'
  have hsame : (key, e) = (key, e') := List.inj_on_of_nodup_map hs h hmem rfl
  rw [he', ← (Prod.mk.inj hsame).2]

theorem Distinct.of_sublist (hs : s.Distinct) (h : s'.entries.Sublist s.entries) : s'.Distinct :=
  List.Nodup.sublist (h.map Prod.fst) hs

/-- What is left of a store without repeated keys is found as it was. -/
theorem Distinct.find?_of_sublist (hs : s.Distinct) (h : s'.entries.Sublist s.entries)
    (he : s'.find? key = some e) : s.find? key = some e :=
  hs.find?_eq_some_iff.2 (h.subset (mem_of_find? he))

/-! ### Deleting and putting -/

theorem delete_sublist (s : Store) (key : String) : (s.delete key).entries.Sublist s.entries :=
  List.filter_sublist

@[simp] theorem find?_delete (s : Store) (key k : String) :
    (s.delete key).find? k = if k = key then none else s.find? k := by
  unfold find? delete
  induction s.entries with
  | nil => simp
  | cons x rest ih =>
      obtain ⟨key', e⟩ := x
      simp only [List.lookup_cons] at ih ⊢
      by_cases hkey : key' = key
      · rw [List.filter_cons_of_neg (by simp [hkey]), ih]
        by_cases hk : k = key
        · rw [if_pos hk, if_pos hk]
        · have hne : (k == key') = false := by simpa [hkey] using hk
          rw [if_neg hk, if_neg hk, hne]
      · rw [List.filter_cons_of_pos (by simp [hkey]), List.lookup_cons]
        by_cases hk : k = key'
        · have heq : (k == key') = true := by simpa using hk
          rw [heq, if_neg (hk ▸ hkey)]
        · have hne : (k == key') = false := by simpa using hk
          rw [hne]
          exact ih

theorem not_mem_keys_delete (s : Store) (key : String) : key ∉ (s.delete key).keys := by
  rw [← find?_eq_none_iff, find?_delete, if_pos rfl]

theorem Distinct.delete (hs : s.Distinct) (key : String) : (s.delete key).Distinct :=
  hs.of_sublist (delete_sublist s key)

@[simp] theorem find?_put (s : Store) (key k : String) (e : Entry) :
    (s.put key e).find? k = if k = key then some e else s.find? k := by
  have happend : (s.put key e).find? k = ((s.delete key).find? k).or ([(key, e)].lookup k) :=
    List.lookup_append
  rw [happend, find?_delete, List.lookup_cons, List.lookup_nil]
  by_cases hk : k = key
  · simp [hk]
  · have hne : (k == key) = false := by simpa using hk
    simp [hk, hne]

theorem Distinct.put (hs : s.Distinct) (key : String) (e : Entry) : (s.put key e).Distinct := by
  have hkeys : (s.put key e).keys = (s.delete key).keys ++ [key] := by
    simp [keys, Store.put]
  rw [Distinct, hkeys, List.nodup_append]
  refine ⟨hs.delete key, List.nodup_singleton key, ?_⟩
  intro a ha b hb
  rw [List.mem_singleton.1 hb]
  rintro rfl
  exact not_mem_keys_delete s a ha

/-! ### Dropping expired entries -/

theorem retainLive_sublist (s : Store) (now : Instant) :
    (s.retainLive now).entries.Sublist s.entries := List.filter_sublist

theorem Distinct.find?_retainLive (hs : s.Distinct) (now : Instant) (key : String) :
    (s.retainLive now).find? key = (s.find? key).filter fun e => !e.isExpired now := by
  have hs' : (s.retainLive now).Distinct := hs.of_sublist (retainLive_sublist s now)
  apply Option.ext
  intro e
  rw [hs'.find?_eq_some_iff, Option.filter_eq_some_iff, hs.find?_eq_some_iff]
  simp [retainLive]

theorem isExpired_of_mem_retainLive {x : String × Entry} (h : x ∈ (s.retainLive now).entries) :
    x.2.isExpired now = false := by
  simpa using (List.mem_filter.1 h).2

theorem find?_dropExpired (s : Store) (now : Instant) (key k : String) :
    (s.dropExpired now key).find? k =
      if k = key then (s.find? k).filter (fun e => !e.isExpired now) else s.find? k := by
  unfold dropExpired
  split
  · next h =>
    rw [find?_delete]
    by_cases hk : k = key
    · subst hk
      obtain ⟨e, he, hexpired⟩ := (Option.any_eq_true ..).1 h
      simp only [he, if_true, Option.filter_some, hexpired, Bool.not_true, Bool.false_eq_true,
        if_false]
    · simp [hk]
  · next h =>
    by_cases hk : k = key
    · subst hk
      cases he : s.find? k with
      | none => simp
      | some e =>
          have hlive : e.isExpired now = false := by simpa only [he, Option.any_some,
            Bool.not_eq_true] using h
          simp only [if_true, Option.filter_some, hlive, Bool.not_false]
    · simp [hk]

theorem dropExpired_sublist (s : Store) (now : Instant) (key : String) :
    (s.dropExpired now key).entries.Sublist s.entries := by
  unfold dropExpired
  split
  · exact delete_sublist s key
  · exact List.Sublist.refl _

/-! ### Asking -/

/-- A lookup answers with what is visible. -/
theorem get_fst (s : Store) (now : Instant) (key : String) :
    (s.get now key).1 = (s.find? key).bind (·.valueAt now) := by
  unfold get probe
  cases s.find? key with
  | none => rfl
  | some e =>
      by_cases h : e.isExpired now = true
      · simp [h, Entry.valueAt, Nat.not_lt.2 (e.isExpired_iff now |>.1 h)]
      · have hlt : now < e.expiresAt := by simpa using h
        simp [h, Entry.valueAt, hlt]

/-- A lookup leaves the store without the entry if that has expired. -/
theorem get_snd (s : Store) (now : Instant) (key : String) :
    (s.get now key).2 = s.dropExpired now key := by
  unfold get probe dropExpired
  cases h : s.find? key with
  | none => simp
  | some e => by_cases he : e.isExpired now = true <;> simp [he]

theorem contains_eq (s : Store) (now : Instant) (key : String) :
    s.contains now key = (s.get now key).1.isSome := by
  rw [get_fst, contains]
  cases s.find? key with
  | none => rfl
  | some e =>
      by_cases h : now < e.expiresAt
      · simp [Entry.valueAt, Entry.isExpired, h]
      · simp [Entry.valueAt, Entry.isExpired, h, Nat.le_of_not_lt h]

/-! ### Making room -/

theorem evict_sublist (s : Store) : s.evict.entries.Sublist s.entries := by
  unfold evict
  split
  · exact delete_sublist ..
  · exact List.Sublist.refl _

/-- How room is made: not at all, by dropping expired entries, or by evicting as well. -/
theorem makeRoom_eq (s : Store) (now : Instant) (key : String) :
    s.makeRoom now key =
      if s.lacksRoom key then
        if (s.retainLive now).lacksRoom key then (s.retainLive now).evict else s.retainLive now
      else s := by
  unfold makeRoom
  by_cases h : s.lacksRoom key = true <;> simp [h]

theorem makeRoom_sublist (s : Store) (now : Instant) (key : String) :
    (s.makeRoom now key).entries.Sublist s.entries := by
  have hretain := retainLive_sublist s now
  rw [makeRoom_eq]
  split
  · split
    · exact (evict_sublist _).trans hretain
    · exact hretain
  · exact List.Sublist.refl _

theorem lacksRoom_eq_true_iff :
    s.lacksRoom key = true ↔ key ∉ s.keys ∧ s.room ≤ s.entries.length := by
  rw [lacksRoom, Bool.and_eq_true, Bool.not_eq_true', ← Bool.not_eq_true, stores_eq_true_iff,
    decide_eq_true_iff, size]

@[simp] theorem capacity_delete (s : Store) (key : String) : (s.delete key).capacity = s.capacity :=
  rfl

@[simp] theorem capacity_put (s : Store) (key : String) (e : Entry) :
    (s.put key e).capacity = s.capacity := rfl

@[simp] theorem capacity_retainLive (s : Store) (now : Instant) :
    (s.retainLive now).capacity = s.capacity := rfl

@[simp] theorem capacity_dropExpired (s : Store) (now : Instant) (key : String) :
    (s.dropExpired now key).capacity = s.capacity := by
  unfold dropExpired
  split <;> rfl

@[simp] theorem capacity_evict (s : Store) : s.evict.capacity = s.capacity := by
  unfold evict
  split <;> rfl

@[simp] theorem capacity_makeRoom (s : Store) (now : Instant) (key : String) :
    (s.makeRoom now key).capacity = s.capacity := by
  rw [makeRoom_eq]
  split
  · split
    · rw [capacity_evict, capacity_retainLive]
    · rfl
  · rfl

/-! ### Writing -/

/-- A write whose deadline the clock can show. -/
theorem setex_of_after? {ttl : Duration} {deadline : Instant} (h : now.after? ttl = some deadline)
    (s : Store) (key : String) (value : Bytes) :
    s.setex now key ttl value = (true, (s.makeRoom now key).put key ⟨value, deadline⟩) := by
  simp [setex, Entry.create?, h]

/-- A write whose deadline it cannot show. -/
theorem setex_of_not_shown {ttl : Duration} (h : now.after? ttl = none) (s : Store) (key : String)
    (value : Bytes) : s.setex now key ttl value = (false, s.makeRoom now key) := by
  simp [setex, Entry.create?, h]

end Store

end DataTier
