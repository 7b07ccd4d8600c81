/-
**A store is a map with expiry, up to what it evicts.**

The map that a store is compared with has no bound: a key holds what was written to it last,
unless it has been deleted since, and shows it until the deadline.  A store answers as this map
does, or answers nothing, and it answers exactly as the map does when every write has found room
among the visible keys.

Main definitions:

* `DataTier.TtlMap` — maps with expiry;
* `DataTier.FewerThan` — fewer than `n` keys have a property;
* `DataTier.History.Roomy` — every write of a history finds room;
* `DataTier.Store.Refines`, `Store.Complete` — the invariants: what is stored is in the map, and
  what is visible in the map is stored.

Main results:

* `DataTier.TtlMap.get_run_eq_some_iff` — what a map shows after a history;
* `DataTier.Store.Refines.serve`, `Store.Complete.serve` — requests keep the invariants;
* `DataTier.Store.refines_ttlMap` — the comparison after any history.
-/

import DataTier.Proofs.Store.Run
import Mathlib.Data.List.Induction

set_option relaxedAutoImplicit false
set_option autoImplicit false

namespace DataTier

/-! ### Maps with expiry -/

/-- A map with expiry and without a bound. -/
abbrev TtlMap := String → Option Entry

namespace TtlMap

/-- The map without entries. -/
def empty : TtlMap := fun _ => none

/-- The map after one request. -/
def serve (m : TtlMap) (now : Instant) : StoreRequest → TtlMap
  | .setex key ttl value => fun k => if k = key then some ⟨value, now + ttl.nanos⟩ else m k
  | .delete key => fun k => if k = key then none else m k
  | _ => m

/-- The map after a history. -/
def run (h : History) : TtlMap := h.foldl (fun m x => m.serve x.1 x.2) empty

/-- What is visible under a key. -/
def get (m : TtlMap) (now : Instant) (key : String) : Option Bytes :=
  (m key).bind (·.valueAt now)

@[simp] theorem run_nil : run [] = empty := rfl

@[simp] theorem run_concat (h : History) (x : Instant × StoreRequest) :
    run (h ++ [x]) = (run h).serve x.1 x.2 := by
  simp [run]

@[simp] theorem serve_setex (m : TtlMap) (now : Instant) (key k : String) (ttl : Duration)
    (value : Bytes) : m.serve now (.setex key ttl value) k =
      if k = key then some ⟨value, now + ttl.nanos⟩ else m k := rfl

@[simp] theorem serve_delete (m : TtlMap) (now : Instant) (key k : String) :
    m.serve now (.delete key) k = if k = key then none else m k := rfl

/-- A request that does not write to a key leaves it as it is. -/
theorem serve_of_not_writes {r : StoreRequest} {key : String} (hr : r.writes? ≠ some key)
    (m : TtlMap) (now : Instant) : m.serve now r key = m key := by
  cases r with
  | setex k ttl value => exact if_neg fun h => hr (congrArg some h.symm)
  | delete k => exact if_neg fun h => hr (congrArg some h.symm)
  | _ => rfl

theorem run_append_of_not_writes (h : History) {after : History} {key : String}
    (hafter : ∀ x ∈ after, x.2.writes? ≠ some key) : run (h ++ after) key = run h key := by
  induction after using List.reverseRecOn with
  | nil => rw [List.append_nil]
  | append_singleton after x ih =>
      rw [← List.append_assoc, run_concat, serve_of_not_writes (hafter x (by simp))]
      exact ih fun y hy => hafter y (List.mem_append_left _ hy)

/-- A key holds what was written to it last, if it has not been deleted since. -/
theorem run_eq_some_iff {h : History} {key : String} {e : Entry} :
    run h key = some e ↔
      ∃ before time ttl value after, h = before ++ (time, .setex key ttl value) :: after ∧
        (∀ x ∈ after, x.2.writes? ≠ some key) ∧ e = ⟨value, time + ttl.nanos⟩ := by
  constructor
  · intro he
    induction h using List.reverseRecOn with
    | nil => cases he
    | append_singleton h x ih =>
        by_cases hx : x.2.writes? = some key
        · obtain ⟨time, r⟩ := x
          rw [run_concat] at he
          cases r with
          | setex k ttl value =>
              obtain rfl : k = key := Option.some.inj hx
              simp only [serve, if_true, Option.some.injEq] at he
              exact ⟨h, time, ttl, value, [], rfl, by simp, he.symm⟩
          | delete k =>
              obtain rfl : k = key := Option.some.inj hx
              simp [serve] at he
          | _ => cases hx
        · rw [run_concat, serve_of_not_writes hx] at he
          obtain ⟨before, time, ttl, value, after, rfl, hafter, rfl⟩ := ih he
          refine ⟨before, time, ttl, value, after ++ [x], by simp, ?_, rfl⟩
          intro y hy
          obtain hy | hy := List.mem_append.1 hy
          · exact hafter y hy
          · exact List.mem_singleton.1 hy ▸ hx
  · rintro ⟨before, time, ttl, value, after, rfl, hafter, rfl⟩
    rw [List.append_cons, run_append_of_not_writes _ hafter, run_concat]
    exact if_pos rfl

/-- **What a map shows**: a key shows a value exactly when its last write stored it, it has not been
deleted since, and the deadline has not been reached. -/
theorem get_run_eq_some_iff {h : History} {now : Instant} {key : String} {value : Bytes} :
    (run h).get now key = some value ↔
      ∃ before time ttl after, h = before ++ (time, .setex key ttl value) :: after ∧
        (∀ x ∈ after, x.2.writes? ≠ some key) ∧ now < time + ttl.nanos := by
  simp only [get, Option.bind_eq_some_iff, run_eq_some_iff, Entry.valueAt_eq_some_iff]
  constructor
  · rintro ⟨_, ⟨before, time, ttl, _, after, hsplit, hafter, rfl⟩, hlt, rfl⟩
    exact ⟨before, time, ttl, after, hsplit, hafter, hlt⟩
  · rintro ⟨before, time, ttl, after, hsplit, hafter, hlt⟩
    exact ⟨_, ⟨before, time, ttl, value, after, hsplit, hafter, rfl⟩, hlt, rfl⟩

end TtlMap

/-! ### Room -/

/-- Fewer than `n` keys have a property. -/
def FewerThan (n : Nat) (p : String → Prop) : Prop :=
  ∀ keys : List String, keys.Nodup → (∀ k ∈ keys, p k) → keys.length < n

theorem FewerThan.mono {n : Nat} {p q : String → Prop} (h : FewerThan n q)
    (hpq : ∀ k, p k → q k) : FewerThan n p :=
  fun keys hnodup hkeys => h keys hnodup fun k hk => hpq k (hkeys k hk)

/-- Every write of a history finds fewer than `n` other keys live, whatever that means after the
requests before it. -/
def History.Roomy (n : Nat) (live : History → Instant → String → Prop) (h : History) : Prop :=
  ∀ before t key ttl value after, h = before ++ (t, StoreRequest.setex key ttl value) :: after →
    FewerThan n fun k => k ≠ key ∧ live before t k

theorem History.Roomy.of_append {n : Nat} {live : History → Instant → String → Prop} {h : History}
    {x : Instant × StoreRequest} (hh : Roomy n live (h ++ [x])) : Roomy n live h := by
  rintro before t key ttl value after rfl
  exact hh before t key ttl value (after ++ [x]) (by simp)

/-! ### What is stored is in the map -/

namespace Store

variable {s : Store} {m : TtlMap} {now later : Instant}

/-- No key is stored twice, and every stored entry is in the map. -/
structure Refines (s : Store) (m : TtlMap) : Prop where
  distinct : s.Distinct
  sound : ∀ key e, s.find? key = some e → m key = some e

/-- A request whose deadline, if it has one, can be shown by the clock. -/
theorem Refines.serve (hs : Refines s m) (r : StoreRequest)
    (hr : History.Shown [(now, r)]) : Refines (s.serve now r) (m.serve now r) where
  distinct := hs.distinct.serve now r
  sound k e he := by
    cases r with
    | setex key ttl value =>
        obtain ⟨deadline, hdeadline⟩ := Option.isSome_iff_exists.1
          (hr now key ttl value List.mem_cons_self)
        rw [Store.serve, setex_of_after? hdeadline, find?_put] at he
        obtain ⟨-, rfl⟩ := Instant.after?_eq_some_iff.1 hdeadline
        by_cases hk : k = key
        · rw [if_pos hk] at he
          exact (if_pos hk).trans he
        · rw [if_neg hk] at he
          -- Making room only takes entries away.
          refine (if_neg hk).trans (hs.sound k e ?_)
          exact hs.distinct.find?_of_sublist (makeRoom_sublist s now key) he
    | get key =>
        rw [Store.serve, get_snd] at he
        exact hs.sound k e (hs.distinct.find?_of_sublist (dropExpired_sublist s now key) he)
    | delete key =>
        rw [Store.serve, find?_delete] at he
        by_cases hk : k = key
        · simp [hk] at he
        · rw [if_neg hk] at he
          exact (if_neg hk).trans (hs.sound k e he)
    | contains key => exact hs.sound k e he
    | purge =>
        exact hs.sound k e (hs.distinct.find?_of_sublist (retainLive_sublist s now) he)

theorem refines_run (capacity : Nat) {h : History} (hh : h.Shown) :
    Refines ((empty capacity).run h) (TtlMap.run h) := by
  induction h using List.reverseRecOn with
  | nil => exact ⟨distinct_empty capacity, fun key e he => by simp at he⟩
  | append_singleton h x ih =>
      obtain ⟨hh, hx⟩ := hh.of_append
      rw [run_append, run_singleton, TtlMap.run_concat]
      exact (ih hh).serve x.2 hx

/-- What a lookup finds is what the map shows. -/
theorem get_run_sound (capacity : Nat) {h : History} (hh : h.Shown) {t : Instant} {key : String}
    {value : Bytes} (hvalue : (((empty capacity).run h).get t key).1 = some value) :
    (TtlMap.run h).get t key = some value := by
  rw [get_fst, Option.bind_eq_some_iff] at hvalue
  obtain ⟨e, he, hvalue⟩ := hvalue
  rw [TtlMap.get, (refines_run capacity hh).sound key e he]
  exact hvalue

/-! ### What is visible in the map is stored -/

/-- What is visible in the map is stored. -/
def Complete (s : Store) (m : TtlMap) (now : Instant) : Prop :=
  ∀ key e, m key = some e → now < e.expiresAt → s.find? key = some e

/-- Making room does not touch a visible key as long as few others are visible. -/
theorem Distinct.find?_makeRoom (hs : s.Distinct) {key k : String} {e : Entry}
    (hfew : FewerThan s.room fun k => k ≠ key ∧ s.contains now k = true)
    (he : s.find? k = some e) (hlive : now < e.expiresAt) :
    (s.makeRoom now key).find? k = some e := by
  have hretain : (s.retainLive now).find? k = some e := by
    rw [hs.find?_retainLive, he, Option.filter_some, Entry.isExpired_eq_false_iff.2 hlive]
    rfl
  rw [makeRoom_eq]
  split
  · rw [if_neg]
    · exact hretain
    · intro hlacks
      obtain ⟨hnew, hfull⟩ := lacksRoom_eq_true_iff.1 hlacks
      have hretained : (s.retainLive now).Distinct := hs.of_sublist (retainLive_sublist s now)
      -- A full store without expired entries has as many visible keys as it has room for.
      have hshort := hfew (s.retainLive now).keys hretained fun k hk => by
        obtain ⟨⟨k, e⟩, hmem, rfl⟩ := List.mem_map.1 hk
        refine ⟨fun h => hnew (h ▸ hk), ?_⟩
        have hmem' := hs.find?_eq_some_iff.2 ((retainLive_sublist s now).subset hmem)
        simp [contains, hmem', isExpired_of_mem_retainLive hmem]
      rw [keys, List.length_map] at hshort
      exact Nat.not_lt.2 hfull hshort
  · exact he

theorem Complete.serve (hs : s.Distinct) (hc : Complete s m now) (hle : now ≤ later)
    (r : StoreRequest) (hr : History.Shown [(later, r)])
    (hfew : ∀ key ttl value, r = .setex key ttl value →
      FewerThan s.room fun k => k ≠ key ∧ s.contains later k = true) :
    Complete (s.serve later r) (m.serve later r) later := by
  intro k e he hlive
  have hfind (he : m k = some e) : s.find? k = some e := hc k e he (Nat.lt_of_le_of_lt hle hlive)
  have hkeep (he : m k = some e) :
      (s.find? k).filter (fun e => !e.isExpired later) = some e := by
    rw [hfind he, Option.filter_some, Entry.isExpired_eq_false_iff.2 hlive]
    rfl
  cases r with
  | setex key ttl value =>
      obtain ⟨deadline, hdeadline⟩ := Option.isSome_iff_exists.1
        (hr later key ttl value List.mem_cons_self)
      rw [Store.serve, setex_of_after? hdeadline, find?_put]
      obtain ⟨-, rfl⟩ := Instant.after?_eq_some_iff.1 hdeadline
      by_cases hk : k = key
      · rw [TtlMap.serve_setex, if_pos hk] at he
        rw [if_pos hk, he]
      · rw [TtlMap.serve_setex, if_neg hk] at he
        rw [if_neg hk]
        exact hs.find?_makeRoom (hfew key ttl value rfl) (hfind he) hlive
  | get key =>
      rw [Store.serve, get_snd, find?_dropExpired]
      split
      · exact hkeep he
      · exact hfind he
  | delete key =>
      by_cases hk : k = key
      · rw [TtlMap.serve_delete, if_pos hk] at he
        cases he
      · rw [TtlMap.serve_delete, if_neg hk] at he
        rw [Store.serve, find?_delete, if_neg hk]
        exact hfind he
  | contains key => exact hfind he
  | purge =>
      rw [Store.serve, purge, hs.find?_retainLive]
      exact hkeep he

/-- A key that is visible in the store. -/
def Live (capacity : Nat) (before : History) (t : Instant) (k : String) : Prop :=
  ((empty capacity).run before).contains t k = true

/-- Whoever has room among the keys that are visible in the map has room among those that are
visible in the store. -/
theorem roomy_of_ttlMap {capacity n : Nat} {h : History} (hshown : h.Shown)
    (hroomy : h.Roomy n fun before t k => ((TtlMap.run before).get t k).isSome = true) :
    h.Roomy n (Live capacity) := by
  rintro before t key ttl value after rfl
  -- What the store shows the map shows, so the map has no fewer visible keys.
  refine (hroomy before t key ttl value after rfl).mono fun k hk => ⟨hk.1, ?_⟩
  have hshown' : before.Shown := fun t key ttl value hmem =>
    hshown t key ttl value (List.mem_append_left _ hmem)
  have hlive := hk.2
  rw [Live, contains_eq] at hlive
  obtain ⟨value, hvalue⟩ := Option.isSome_iff_exists.1 hlive
  exact Option.isSome_iff_exists.2 ⟨value, get_run_sound capacity hshown' hvalue⟩

theorem complete_run (capacity : Nat) {h : History} (hordered : h.Ordered) (hshown : h.Shown)
    (hroomy : h.Roomy (max capacity 1) (Live capacity)) {now : Instant}
    (hnow : ∀ x ∈ h, x.1 ≤ now) : Complete ((empty capacity).run h) (TtlMap.run h) now := by
  induction h using List.reverseRecOn generalizing now with
  | nil => intro key e he; cases he
  | append_singleton h x ih =>
      obtain ⟨hordered, hlast⟩ := hordered.of_append
      obtain ⟨hshown, hx⟩ := hshown.of_append
      rw [run_append, run_singleton, TtlMap.run_concat]
      have hbefore := ih hordered hshown hroomy.of_append hlast
      -- Completeness at the time of the last request, which then holds at any later time.
      have hserved : Complete (((empty capacity).run h).serve x.1 x.2)
          ((TtlMap.run h).serve x.1 x.2) x.1 := by
        refine hbefore.serve (distinct_run capacity h) (Nat.le_refl _) x.2 hx ?_
        intro key ttl value hr
        rw [room, capacity_run]
        exact hroomy h x.1 key ttl value [] (by rw [← hr])
      intro key e he hlive
      exact hserved key e he (Nat.lt_of_le_of_lt (hnow x (by simp)) hlive)

/-- **A store compared with a map with expiry.**  After any history whose times do not go back and
whose deadlines the clock can show: a lookup answers as the map does or answers nothing; a key is
said to be there exactly when a lookup finds it; asking and purging change nothing that is visible,
then or later; and when every write has found fewer other keys visible than there is room for, be
it in the store or in the map, a lookup answers as the map does. -/
theorem refines_ttlMap (capacity : Nat) {h : History} (hordered : h.Ordered) (hshown : h.Shown) :
    (∀ t key value, (((empty capacity).run h).get t key).1 = some value →
      (TtlMap.run h).get t key = some value) ∧
    (∀ t key, ((empty capacity).run h).contains t key =
      (((empty capacity).run h).get t key).1.isSome) ∧
    (∀ t r later key, r.writes? = none → t ≤ later →
      ((((empty capacity).run h).serve t r).get later key).1 =
        (((empty capacity).run h).get later key).1) ∧
    (h.Roomy (max capacity 1) (Live capacity) ∨
        h.Roomy (max capacity 1) (fun before t k => ((TtlMap.run before).get t k).isSome) →
      ∀ t, (∀ x ∈ h, x.1 ≤ t) → ∀ key,
        (((empty capacity).run h).get t key).1 = (TtlMap.run h).get t key) := by
  refine ⟨fun t key value => get_run_sound capacity hshown, fun t key => contains_eq _ t key,
    fun t r later key hr hle => get_serve_of_reads (distinct_run capacity h) hr hle key, ?_⟩
  intro hroomy t ht key
  have hlive : h.Roomy (max capacity 1) (Live capacity) :=
    hroomy.elim id (roomy_of_ttlMap hshown)
  have hcomplete := complete_run capacity hordered hshown hlive ht
  apply Option.ext
  intro value
  refine ⟨get_run_sound capacity hshown, fun hvalue => ?_⟩
  obtain ⟨e, he, hvalue⟩ := Option.bind_eq_some_iff.1 hvalue
  rw [get_fst, hcomplete key e he (Entry.valueAt_eq_some_iff.1 hvalue).1]
  exact hvalue

/-- A store with room for one key, written once: the value is found before its deadline. -/
theorem refines_ttlMap_of_one_write :
    let h : History := [(0, .setex "a" (.ofSecs 1) [97]), (5, .get "a")]
    h.Ordered ∧ h.Shown ∧ h.Roomy 1 (Live 0) ∧
      (((empty 0).run h).get 7 "a").1 = some [97] := by
  intro h
  have hordered : h.Ordered := by simp [h, History.Ordered]
  have hshown : h.Shown := by
    intro t key ttl value hmem
    simp only [h, List.mem_cons, Prod.mk.injEq, StoreRequest.setex.injEq, reduceCtorEq, and_false,
      List.not_mem_nil, or_false] at hmem
    obtain ⟨rfl, -, rfl, -⟩ := hmem
    decide
  have hroomy : h.Roomy 1 (Live 0) := by
    intro before t key ttl value after hsplit
    cases before with
    | nil =>
        intro keys _ hkeys
        cases keys with
        | nil => exact Nat.one_pos
        | cons k keys => exact absurd (hkeys k List.mem_cons_self).2 Bool.false_ne_true
    | cons x before =>
        cases before with
        | nil => simp [h] at hsplit
        | cons y before => simp [h] at hsplit
  refine ⟨hordered, hshown, hroomy, ?_⟩
  rw [(refines_ttlMap 0 hordered hshown).2.2.2 (.inl hroomy) 7 (by simp [h])]
  decide

end Store

end DataTier
