/-
**What a write costs the other entries.**

A write under a stored key, or to a store that is not full, costs nothing.  A new key in a full
store costs all the expired entries, or if there are none the one entry that expires first.

Room is made before it is known whether the clock can show the deadline of the new entry.  When it
cannot, the write fails and nothing is stored, but what it has cost is gone all the same; the place
that is left then serves whatever is written next, so writes that fail one after the other cost no
more than the first of them that had to make room.

Main definitions:

* `DataTier.StoreRequest.Fails` — writes whose deadline the clock cannot show.

Main results:

* `DataTier.Store.makeRoom_of_enough`, `Store.Proper.makeRoom_of_expired`,
  `Store.makeRoom_of_live` — the three ways in which a write finds room;
* `DataTier.Store.Distinct.exists_evict` — the entry that expires first;
* `DataTier.Store.Proper.run_failing` — writes that fail one after the other;
* `DataTier.SharedStore.write_displaces_exactly` — **what a write leaves**, and that no store
  outgrows its capacity;
* `DataTier.SharedStore.failed_write_displaces` — **what a failed write leaves**.
-/

import DataTier.Proofs.Store.Sections

set_option relaxedAutoImplicit false
set_option autoImplicit false

namespace DataTier

/-- A write whose deadline the clock cannot show. -/
def StoreRequest.Fails (now : Instant) : StoreRequest → Prop
  | .setex _ ttl _ => now.after? ttl = none
  | _ => False

namespace Store

variable {s : Store} {now : Instant} {key k : String}

/-! ### Three ways to find room -/

theorem lacksRoom_eq_false_iff : s.lacksRoom key = false ↔ key ∈ s.keys ∨ s.size < s.room := by
  rw [← Bool.not_eq_true, lacksRoom_eq_true_iff, not_and_or, Classical.not_not, Nat.not_le, size]

/-- A stored key, or a store that is not full. -/
theorem makeRoom_of_enough (h : s.lacksRoom key = false) : s.makeRoom now key = s := by
  rw [makeRoom_eq, h, if_neg Bool.false_ne_true]

/-- A new key in a full store with expired entries: once they are gone there is room. -/
theorem Proper.makeRoom_of_expired (hs : s.Proper) (hlacks : s.lacksRoom key = true)
    {x : String × Entry} (hx : x ∈ s.entries) (hexpired : x.2.isExpired now = true) :
    s.makeRoom now key = s.retainLive now := by
  rw [makeRoom_eq, if_pos hlacks, if_neg]
  intro hlacks'
  have hfull : s.room ≤ (s.retainLive now).size := (lacksRoom_eq_true_iff.1 hlacks').2
  have hless := size_retainLive_lt hx hexpired
  have hfits := hs.fits
  omega

/-- A new key in a full store without expired entries. -/
theorem makeRoom_of_live (hlacks : s.lacksRoom key = true)
    (hlive : ∀ x ∈ s.entries, x.2.isExpired now = false) : s.makeRoom now key = s.evict := by
  rw [makeRoom_eq, retainLive_eq_self hlive, if_pos hlacks, if_pos hlacks]

/-- **The entry that expires first** is evicted, and no other. -/
theorem Distinct.exists_evict (hs : s.Distinct) (h : 0 < s.size) :
    ∃ victim e, s.find? victim = some e ∧ s.evict = s.delete victim ∧
      ∀ x ∈ s.entries, e.expiresAt ≤ x.2.expiresAt := by
  cases hsoonest : soonest s.entries with
  | none =>
      rw [soonest_eq_argmin, List.argmin_eq_none] at hsoonest
      simp [size, hsoonest] at h
  | some victim =>
      have hargmin := hsoonest
      rw [soonest_eq_argmin] at hargmin
      refine ⟨victim.1, victim.2, hs.find?_eq_some_iff.2 (List.argmin_mem hargmin), ?_, ?_⟩
      · rw [evict, hsoonest]
      · intro x hx
        exact List.le_of_mem_argmin (f := fun x : String × Entry => x.2.expiresAt) hx hargmin

/-- A new key in a full store without expired entries costs the entry that expires first. -/
theorem Distinct.exists_makeRoom_of_live (hs : s.Distinct) (hlacks : s.lacksRoom key = true)
    (hlive : ∀ x ∈ s.entries, x.2.isExpired now = false) :
    ∃ victim e, s.find? victim = some e ∧ s.makeRoom now key = s.delete victim ∧
      ∀ x ∈ s.entries, e.expiresAt ≤ x.2.expiresAt := by
  have hfull := (lacksRoom_eq_true_iff.1 hlacks).2
  obtain ⟨victim, e, hvictim, hevict, hfirst⟩ :=
    hs.exists_evict (Nat.lt_of_lt_of_le s.room_pos hfull)
  exact ⟨victim, e, hvictim, (makeRoom_of_live hlacks hlive).trans hevict, hfirst⟩

/-- A write that had to make room has made it for any key. -/
theorem Proper.lacksRoom_makeRoom (hs : s.Proper) (hlacks : s.lacksRoom key = true)
    (k : String) : (s.makeRoom now key).lacksRoom k = false := by
  refine lacksRoom_eq_false_iff.2 (.inr ?_)
  have hnew := (lacksRoom_eq_true_iff.1 hlacks).1
  have hnew' : key ∉ (s.makeRoom now key).keys := fun hkey =>
    hnew (((makeRoom_sublist s now key).map Prod.fst).subset hkey)
  have hroom : (s.makeRoom now key).room = s.room := congrArg (max · 1) (capacity_makeRoom ..)
  rw [hroom]
  exact size_makeRoom_lt hs.fits hnew'

/-- No later lookup can tell that expired entries have been dropped. -/
theorem Distinct.get_retainLive (hs : s.Distinct) {later : Instant} (hle : now ≤ later)
    (k : String) : ((s.retainLive now).get later k).1 = (s.get later k).1 :=
  get_serve_of_reads hs (r := .purge) rfl hle k

/-- A lookup in a store without one of its keys. -/
theorem get_delete (s : Store) (now : Instant) (hk : k ≠ key) :
    ((s.delete key).get now k).1 = (s.get now k).1 := by
  rw [get_fst, get_fst, find?_delete, if_neg hk]

/-- Room for a key costs one live entry at most. -/
theorem Proper.exists_lost (hs : s.Proper) (now : Instant) (key : String) :
    ∃ victim, ∀ k, k ≠ victim → ∀ later, now ≤ later →
      ((s.makeRoom now key).get later k).1 = (s.get later k).1 := by
  cases hlacks : s.lacksRoom key with
  | false =>
      rw [makeRoom_of_enough hlacks]
      exact ⟨key, fun k _ later _ => rfl⟩
  | true =>
      by_cases hexpired : ∃ x ∈ s.entries, x.2.isExpired now = true
      · obtain ⟨x, hx, hexpired⟩ := hexpired
        rw [hs.makeRoom_of_expired hlacks hx hexpired]
        exact ⟨key, fun k _ later hle => hs.distinct.get_retainLive hle k⟩
      · have hlive : ∀ x ∈ s.entries, x.2.isExpired now = false := by
          intro x hx
          exact Bool.eq_false_iff.2 fun h => hexpired ⟨x, hx, h⟩
        obtain ⟨victim, e, -, hmade, -⟩ := hs.distinct.exists_makeRoom_of_live hlacks hlive
        rw [hmade]
        exact ⟨victim, fun k hk later _ => get_delete s later hk⟩

/-! ### Writes that fail -/

theorem serve_of_fails {r : StoreRequest} (hr : r.Fails now) :
    ∃ key, s.serve now r = s.makeRoom now key := by
  cases r with
  | setex key ttl value =>
      refine ⟨key, ?_⟩
      rw [Store.serve, setex_of_not_shown hr]
  | _ => cases hr

/-- Writes that fail one after the other cost nothing once there is room for any key. -/
theorem run_failing_of_enough (h : ∀ k, s.lacksRoom k = false) {fails : History}
    (hfails : ∀ x ∈ fails, x.2.Fails x.1) : s.run fails = s := by
  induction fails with
  | nil => rfl
  | cons x fails ih =>
      obtain ⟨key, hserve⟩ := serve_of_fails (s := s) (hfails x List.mem_cons_self)
      have hsame : s.serve x.1 x.2 = s := hserve.trans (makeRoom_of_enough (h key))
      calc s.run (x :: fails) = (s.serve x.1 x.2).run fails := rfl
        _ = s.run fails := by rw [hsame]
        _ = s := ih fun y hy => hfails y (List.mem_cons_of_mem _ hy)

/-- **Writes that fail one after the other** cost no more than one of them that makes room. -/
theorem Proper.run_failing (hs : s.Proper) {fails : History}
    (hfails : ∀ x ∈ fails, x.2.Fails x.1) :
    s.run fails = s ∨ ∃ x ∈ fails, ∃ key, s.run fails = s.makeRoom x.1 key := by
  induction fails with
  | nil => exact .inl rfl
  | cons x fails ih =>
      have hrest : ∀ y ∈ fails, y.2.Fails y.1 := fun y hy => hfails y (List.mem_cons_of_mem _ hy)
      obtain ⟨key, hserve⟩ := serve_of_fails (s := s) (hfails x List.mem_cons_self)
      have hrun : s.run (x :: fails) = (s.makeRoom x.1 key).run fails := congrArg (run · fails) hserve
      cases hlacks : s.lacksRoom key with
      | false =>
          rw [makeRoom_of_enough hlacks] at hrun
          rw [hrun]
          obtain hsame | ⟨y, hy, k, hy'⟩ := ih hrest
          · exact .inl hsame
          · exact .inr ⟨y, List.mem_cons_of_mem _ hy, k, hy'⟩
      | true =>
          rw [hrun, run_failing_of_enough (hs.lacksRoom_makeRoom hlacks) hrest]
          exact .inr ⟨x, List.mem_cons_self, key, rfl⟩

end Store

/-! ### Stores with clients -/

namespace SharedStore

theorem proper_run (capacity : Nat) (clock : Instant) (schedule : List StoreSection) :
    ((start capacity clock).run schedule).store.Proper :=
  ((alike_start capacity clock).run schedule).store.left

theorem capacity_act (s : SharedStore) (x : StoreSection) :
    (s.act x).store.capacity = s.store.capacity := by
  cases x with
  | tick d => rfl
  | request r =>
      cases r with
      | get key =>
          simp only [act, Store.ask]
          split <;> rfl
      | setex key ttl value => exact Store.capacity_serve s.store s.clock (.setex key ttl value)
      | _ => rfl
  | finish i =>
      obtain hsame | ⟨key, hdrop⟩ := s.store_act_finish i
      · rw [hsame]
      · rw [hdrop, Store.capacity_dropExpired]

theorem room_run (capacity : Nat) (clock : Instant) (schedule : List StoreSection) :
    ((start capacity clock).run schedule).store.room = max capacity 1 := by
  have hrun (s : SharedStore) : (s.run schedule).store.capacity = s.store.capacity := by
    induction schedule generalizing s with
    | nil => rfl
    | cons x schedule ih => exact (ih (s.act x)).trans (capacity_act s x)
  exact congrArg (max · 1) (hrun (start capacity clock))

/-- **What a write leaves.**  However the sections of clients that use a store follow each other,
writes that fail among them, no key is stored twice and there are no more entries than the capacity
allows, one at least.  A write whose deadline the clock can show then succeeds, and its key holds
the new value until that deadline.  If the key was stored, expired or not, or the store was not
full, every other entry is as it was.  If the store was full, the key new and something expired,
the expired entries are gone and the others are as they were.  If the store was full, the key new
and nothing expired, one entry is gone, none of the others expires before it, and those are as they
were. -/
theorem write_displaces_exactly (capacity : Nat) (clock : Instant) (schedule : List StoreSection) :
    let s := ((start capacity clock).run schedule).store
    s.size ≤ max capacity 1 ∧ s.keys.Nodup ∧
    ∀ (now : Instant) key ttl value, now + ttl.nanos < Instant.limit →
      ∃ s', s.setex now key ttl value = (true, s') ∧
        s'.find? key = some ⟨value, now + ttl.nanos⟩ ∧
        (key ∈ s.keys ∨ s.size < max capacity 1 → ∀ k, k ≠ key → s'.find? k = s.find? k) ∧
        (key ∉ s.keys → s.size = max capacity 1 →
          ((∃ x ∈ s.entries, x.2.isExpired now = true) →
            ∀ k, k ≠ key → s'.find? k = (s.find? k).filter fun e => !e.isExpired now) ∧
          ((∀ x ∈ s.entries, x.2.isExpired now = false) →
            ∃ victim e, s.find? victim = some e ∧ s'.find? victim = none ∧
              (∀ x ∈ s.entries, e.expiresAt ≤ x.2.expiresAt) ∧
              ∀ k, k ≠ key → k ≠ victim → s'.find? k = s.find? k)) := by
  intro s
  have hs : s.Proper := proper_run capacity clock schedule
  have hroom : s.room = max capacity 1 := room_run capacity clock schedule
  refine ⟨hroom ▸ hs.fits, hs.distinct, ?_⟩
  intro now key ttl value hshown
  have hdeadline := Instant.after?_eq_some_iff.2 ⟨hshown, rfl⟩
  refine ⟨_, Store.setex_of_after? hdeadline s key value, ?_, ?_, ?_⟩
  · rw [Store.find?_put, if_pos rfl]
  · intro henough k hk
    rw [Store.find?_put, if_neg hk,
      Store.makeRoom_of_enough (Store.lacksRoom_eq_false_iff.2 (hroom ▸ henough))]
  · intro hnew hfull
    have hlacks : s.lacksRoom key = true :=
      Store.lacksRoom_eq_true_iff.2 ⟨hnew, Nat.le_of_eq (hroom.trans hfull.symm)⟩
    constructor
    · rintro ⟨x, hx, hexpired⟩ k hk
      rw [Store.find?_put, if_neg hk, hs.makeRoom_of_expired hlacks hx hexpired,
        hs.distinct.find?_retainLive]
    · intro hlive
      obtain ⟨victim, e, hvictim, hmade, hfirst⟩ :=
        hs.distinct.exists_makeRoom_of_live hlacks hlive
      have hstored : victim ∈ s.keys := by
        rw [← Store.stores_eq_true_iff, Store.stores, hvictim, Option.isSome_some]
      have hother : victim ≠ key := fun h => hnew (h ▸ hstored)
      refine ⟨victim, e, hvictim, ?_, hfirst, ?_⟩
      · rw [Store.find?_put, if_neg hother, hmade, Store.find?_delete, if_pos rfl]
      · intro k hk hk'
        rw [Store.find?_put, if_neg hk, hmade, Store.find?_delete, if_neg hk']

/-- A store of two entries of which neither has expired: a third key costs the one that expires
first, though it was written last. -/
theorem write_displaces_exactly_of_full_store :
    let s := ((start 2 0).run [.request (.setex "a" (.ofSecs 9) [97]),
      .request (.setex "b" (.ofSecs 5) [98])]).store
    1 + (Duration.ofSecs 1).nanos < Instant.limit ∧ "c" ∉ s.keys ∧ s.size = 2 ∧
      (∀ x ∈ s.entries, x.2.isExpired 1 = false) ∧
      ∃ s', s.setex 1 "c" (.ofSecs 1) [99] = (true, s') ∧
        s'.find? "c" = some ⟨[99], 1 + nanosPerSecond⟩ ∧ s'.find? "b" = none ∧
        s'.find? "a" = some ⟨[97], 9 * nanosPerSecond⟩ := by
  intro s
  obtain ⟨-, -, hwrite⟩ := write_displaces_exactly 2 0 [.request (.setex "a" (.ofSecs 9) [97]),
    .request (.setex "b" (.ofSecs 5) [98])]
  have hshown : 1 + (Duration.ofSecs 1).nanos < Instant.limit := by decide
  have hnew : "c" ∉ s.keys := by decide
  have hfull : s.size = 2 := by decide
  have hlive : ∀ x ∈ s.entries, x.2.isExpired 1 = false := by decide
  obtain ⟨s', hsetex, hkey, -, hcost⟩ := hwrite 1 "c" (.ofSecs 1) [99] hshown
  obtain ⟨victim, e, hvictim, hgone, hfirst, hothers⟩ := (hcost hnew hfull).2 hlive
  -- Of the two entries only one expires first.
  have hb : victim = "b" := by
    have hmem : (victim, e) ∈ s.entries := Store.mem_of_find? hvictim
    have hentries : s.entries = [("a", ⟨[97], 9 * nanosPerSecond⟩),
      ("b", ⟨[98], 5 * nanosPerSecond⟩)] := by decide
    rw [hentries] at hmem hfirst
    rcases List.mem_pair.1 hmem with heq | heq
    · obtain ⟨-, rfl⟩ := Prod.mk.inj heq
      exact absurd (hfirst _ (List.mem_cons_of_mem _ List.mem_cons_self)) (by decide)
    · exact (Prod.mk.inj heq).1
  refine ⟨hshown, hnew, hfull, hlive, s', hsetex, hkey, hb ▸ hgone, ?_⟩
  rw [hothers "a" (by decide) (by rw [hb]; decide)]
  decide

/-- **What a failed write leaves.**  However the sections of clients that use a store follow each
other, a write whose deadline the clock cannot show fails, and leaves the store as it was if the
key was stored or the store not full.  If the store was full, the key new and something expired,
the expired entries are gone, which no lookup can tell.  If nothing was expired, the live entry that
expires first is gone and found no more, and nothing else.  Any number of failed writes one after
the other cost one live entry at most. -/
theorem failed_write_displaces (capacity : Nat) (clock : Instant) (schedule : List StoreSection) :
    let s := ((start capacity clock).run schedule).store
    (∀ (now : Instant) key ttl value, Instant.limit ≤ now + ttl.nanos →
      ∃ s', s.setex now key ttl value = (false, s') ∧
        (key ∈ s.keys ∨ s.size < max capacity 1 → s' = s) ∧
        (key ∉ s.keys → s.size = max capacity 1 →
          ((∃ x ∈ s.entries, x.2.isExpired now = true) → s' = s.retainLive now ∧
            ∀ later k, now ≤ later → (s'.get later k).1 = (s.get later k).1) ∧
          ((∀ x ∈ s.entries, x.2.isExpired now = false) →
            ∃ victim e, s.find? victim = some e ∧ s' = s.delete victim ∧
              (∀ x ∈ s.entries, e.expiresAt ≤ x.2.expiresAt) ∧
              (s.get now victim).1 = some e.value ∧ (s'.get now victim).1 = none))) ∧
    ∀ fails : History, (∀ x ∈ fails, x.2.Fails x.1) →
      ∃ victim, ∀ k, k ≠ victim → ∀ later, (∀ x ∈ fails, x.1 ≤ later) →
        ((s.run fails).get later k).1 = (s.get later k).1 := by
  intro s
  have hs : s.Proper := proper_run capacity clock schedule
  have hroom : s.room = max capacity 1 := room_run capacity clock schedule
  constructor
  · intro now key ttl value hlate
    have hdeadline : now.after? ttl = none := if_neg (Nat.not_lt.2 hlate)
    refine ⟨_, Store.setex_of_not_shown hdeadline s key value, ?_, ?_⟩
    · intro henough
      exact Store.makeRoom_of_enough (Store.lacksRoom_eq_false_iff.2 (hroom ▸ henough))
    · intro hnew hfull
      have hlacks : s.lacksRoom key = true :=
        Store.lacksRoom_eq_true_iff.2 ⟨hnew, Nat.le_of_eq (hroom.trans hfull.symm)⟩
      constructor
      · rintro ⟨x, hx, hexpired⟩
        have hpurged := hs.makeRoom_of_expired hlacks hx hexpired
        refine ⟨hpurged, ?_⟩
        intro later k hle
        rw [hpurged]
        exact hs.distinct.get_retainLive hle k
      · intro hlive
        obtain ⟨victim, e, hvictim, hmade, hfirst⟩ :=
          hs.distinct.exists_makeRoom_of_live hlacks hlive
        have hstill : now < e.expiresAt :=
          Entry.isExpired_eq_false_iff.1 (hlive _ (Store.mem_of_find? hvictim))
        refine ⟨victim, e, hvictim, hmade, hfirst, ?_, ?_⟩
        · rw [Store.get_fst, hvictim]
          exact Entry.valueAt_eq_some_iff.2 ⟨hstill, rfl⟩
        · rw [hmade, Store.get_fst, Store.find?_delete, if_pos rfl]
          rfl
  · intro fails hfails
    obtain hsame | ⟨x, hx, key, hmade⟩ := hs.run_failing hfails
    · exact ⟨"", fun k _ later _ => by rw [hsame]⟩
    · obtain ⟨victim, hothers⟩ := hs.exists_lost x.1 key
      refine ⟨victim, ?_⟩
      intro k hk later hlater
      rw [hmade]
      exact hothers k hk later (hlater x hx)

/-- A store of one live entry: a failed write under another key costs it. -/
theorem failed_write_displaces_of_full_store :
    let s := ((start 1 0).run [.request (.setex "a" (.ofSecs 60) [49])]).store
    Instant.limit ≤ 1 + (Duration.ofSecs Word.signedSize).nanos ∧ "b" ∉ s.keys ∧ s.size = 1 ∧
      (∀ x ∈ s.entries, x.2.isExpired 1 = false) ∧
      ∃ victim e s', s.find? victim = some e ∧
        s.setex 1 "b" (.ofSecs Word.signedSize) [50] = (false, s') ∧ s' = s.delete victim ∧
        (s'.get 1 victim).1 = none := by
  intro s
  have hlate : Instant.limit ≤ 1 + (Duration.ofSecs Word.signedSize).nanos := by decide
  have hnew : "b" ∉ s.keys := by decide
  have hfull : s.size = 1 := by decide
  have hlive : ∀ x ∈ s.entries, x.2.isExpired 1 = false := by decide
  obtain ⟨hone, -⟩ := failed_write_displaces 1 0 [.request (.setex "a" (.ofSecs 60) [49])]
  obtain ⟨s', hsetex, -, hcost⟩ := hone 1 "b" (.ofSecs Word.signedSize) [50] hlate
  obtain ⟨victim, e, hvictim, hdelete, -, -, hgone⟩ := (hcost hnew hfull).2 hlive
  exact ⟨hlate, hnew, hfull, hlive, victim, e, s', hvictim, hsetex, hdelete, hgone⟩

/-- **A failed write can cost a live entry**: it was found before the write, would have been live
for a minute, and is gone after it. -/
theorem live_entry_lost_to_failed_write :
    let s := ((start 1 0).run [.request (.setex "a" (.ofSecs 60) [49])]).store
    let failed := s.setex 1 "b" (.ofSecs Word.signedSize) [50]
    s.find? "a" = some ⟨[49], 60 * nanosPerSecond⟩ ∧ (s.get 1 "a").1 = some [49] ∧
      failed.1 = false ∧ failed.2.find? "a" = none ∧ (failed.2.get 1 "a").1 = none := by
  decide

end SharedStore

end DataTier
