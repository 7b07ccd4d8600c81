/-
**Nobody can tell that expired entries stay stored.**

An expired entry stays in a store until it is read, purged or displaced.  Until then it takes up
room, and its key counts as stored when a write asks whether it needs any.  All the same the store
answers as if every entry were dropped at the moment it expires: a write evicts only when there
are as many visible entries as there is room for, and then the visible entry that expires first.

The comparison is a simulation.  The two stores have the same visible entries in the same order;
what makes this hold across a write is that a store never has more entries than room, so a store
that needs no purge, or whose purge has removed something, has fewer visible entries than room.

Main definitions:

* `DataTier.EagerStore` — stores that drop every entry at the moment it expires;
* `DataTier.Store.answers`, `DataTier.EagerStore.answers` — what a history of requests is answered;
* `DataTier.Store.Shows` — the simulation relation.

Main results:

* `DataTier.Store.soonest_eq_argmin` — what is evicted;
* `DataTier.Store.retainLive_makeRoom` — what is visible once a write has found room;
* `DataTier.Store.Shows.serve` — requests keep the relation;
* `DataTier.Store.lazy_expiry_unobservable` — the answers are the same, and reads and purges have
  no effect on later ones.
-/

import DataTier.Proofs.Store.Run
import Mathlib.Data.List.Induction
import Mathlib.Data.List.MinMax

set_option relaxedAutoImplicit false
set_option autoImplicit false

namespace DataTier

/-! ### Stores that forget at once -/

/-- A bounded store of visible entries, in the order of their last writes. -/
structure EagerStore where
  /-- How many entries fit. -/
  room : Nat
  /-- The entries. -/
  entries : List (String × Entry) := []

namespace EagerStore

/-- The store when time has come to `now`: what has expired is gone. -/
def advance (m : EagerStore) (now : Instant) : EagerStore :=
  { m with entries := m.entries.filter fun x => now < x.2.expiresAt }

/-- The value under a key. -/
def value? (m : EagerStore) (key : String) : Option Bytes := (m.entries.lookup key).map Entry.value

/-- The store without a key. -/
def remove (m : EagerStore) (key : String) : EagerStore :=
  { m with entries := m.entries.filter fun x => x.1 ≠ key }

/-- The store without the entry that expires first; of several, the one written longest ago. -/
def evict (m : EagerStore) : EagerStore :=
  match m.entries.argmin fun x => x.2.expiresAt with
  | some victim => m.remove victim.1
  | none => m

/-- The store with room for a key: a new key in a full store costs another one. -/
def makeRoom (m : EagerStore) (key : String) : EagerStore :=
  if m.value? key = none ∧ m.room ≤ m.entries.length then m.evict else m

/-- The store with an entry for a key. -/
def put (m : EagerStore) (key : String) (e : Entry) : EagerStore :=
  { m with entries := (m.remove key).entries ++ [(key, e)] }

/-- The store after one request.  What lives for no time is gone at once. -/
def serve (m : EagerStore) (now : Instant) : StoreRequest → EagerStore
  | .setex key ttl value =>
    (((m.advance now).makeRoom key).put key ⟨value, now + ttl.nanos⟩).advance now
  | .delete key => (m.advance now).remove key
  | _ => m.advance now

/-- The store after a history. -/
def run (m : EagerStore) (h : History) : EagerStore := h.foldl (fun m x => m.serve x.1 x.2) m

end EagerStore

/-! ### Answers -/

/-- What a request is answered, if it asks for something. -/
inductive StoreAnswer where
  /-- The value that was found, if any. -/
  | value (found : Option Bytes)
  /-- Whether the key is visible. -/
  | visible (b : Bool)
  deriving DecidableEq

/-- What one request is answered. -/
def Store.answer? (s : Store) (now : Instant) : StoreRequest → Option StoreAnswer
  | .get key => some (.value (s.get now key).1)
  | .contains key => some (.visible (s.contains now key))
  | _ => none

/-- What the requests of a history are answered. -/
def Store.answers (s : Store) : History → List StoreAnswer
  | [] => []
  | x :: h => (s.answer? x.1 x.2).toList ++ (s.serve x.1 x.2).answers h

/-- What one request is answered. -/
def EagerStore.answer? (m : EagerStore) (now : Instant) : StoreRequest → Option StoreAnswer
  | .get key => some (.value ((m.advance now).value? key))
  | .contains key => some (.visible ((m.advance now).value? key).isSome)
  | _ => none

/-- What the requests of a history are answered. -/
def EagerStore.answers (m : EagerStore) : History → List StoreAnswer
  | [] => []
  | x :: h => (m.answer? x.1 x.2).toList ++ (m.serve x.1 x.2).answers h

/-- The writes and deletes of a history. -/
def History.writes (h : History) : History := h.filter fun x => x.2.writes?.isSome

namespace History

theorem ordered_append {h h' : History} :
    Ordered (h ++ h') ↔ Ordered h ∧ Ordered h' ∧ ∀ x ∈ h, ∀ y ∈ h', x.1 ≤ y.1 := by
  simp only [Ordered, List.map_append, List.pairwise_append, List.forall_mem_map]

theorem mem_writes {h : History} {x : Instant × StoreRequest} :
    x ∈ writes h ↔ x ∈ h ∧ x.2.writes?.isSome = true := List.mem_filter

instance : DecidablePred Ordered := fun h =>
  inferInstanceAs (Decidable ((h.map Prod.fst).Pairwise (· ≤ ·)))

/-- Whether a request has no deadline beyond the clock. -/
def shownAt : Instant × StoreRequest → Bool
  | (t, .setex _ ttl _) => (t.after? ttl).isSome
  | _ => true

theorem shown_iff {h : History} : Shown h ↔ ∀ x ∈ h, shownAt x = true := by
  constructor
  · rintro hshown ⟨t, r⟩ hmem
    cases r with
    | setex key ttl value => exact hshown t key ttl value hmem
    | _ => rfl
  · intro hall t key ttl value hmem
    exact hall _ hmem

instance : DecidablePred Shown := fun _ => decidable_of_iff _ shown_iff.symm

/-- Whether deadlines can be shown depends on the writes only. -/
theorem Shown.of_writes_eq {h h' : History} (hshown : Shown h) (hwrites : writes h' = writes h) :
    Shown h' := by
  intro t key ttl value hmem
  have hwrite : (t, .setex key ttl value) ∈ writes h' := mem_writes.2 ⟨hmem, rfl⟩
  rw [hwrites] at hwrite
  exact hshown t key ttl value (mem_writes.1 hwrite).1

end History

/-! ### Time passes -/

namespace EagerStore

@[simp] theorem room_advance (m : EagerStore) (now : Instant) : (m.advance now).room = m.room := rfl

@[simp] theorem advance_advance (m : EagerStore) {now later : Instant} (h : now ≤ later) :
    (m.advance now).advance later = m.advance later := by
  have hkeep (x : String × Entry) :
      (decide (later < x.2.expiresAt) && decide (now < x.2.expiresAt)) =
        decide (later < x.2.expiresAt) := by
    rw [← Bool.decide_and, decide_eq_decide]
    exact and_iff_left_of_imp (Nat.lt_of_le_of_lt h)
  simp only [advance, List.filter_filter, hkeep]

/-- Only what is visible matters to a request. -/
theorem serve_advance (m : EagerStore) {now later : Instant} (h : now ≤ later) (r : StoreRequest) :
    (m.advance now).serve later r = m.serve later r := by
  cases r <;> simp only [serve, advance_advance m h]

@[simp] theorem run_concat (m : EagerStore) (h : History) (x : Instant × StoreRequest) :
    m.run (h ++ [x]) = (m.run h).serve x.1 x.2 := by
  simp [run]

theorem serve_of_not_writes (m : EagerStore) (now : Instant) {r : StoreRequest}
    (hr : r.writes? = none) : m.serve now r = m.advance now := by
  cases r with
  | setex key ttl value => cases hr
  | delete key => cases hr
  | _ => rfl

/-- **Only writes and deletes matter** to what is visible in the end. -/
theorem advance_run (m : EagerStore) {h : History} (hordered : h.Ordered) {t : Instant}
    (ht : ∀ x ∈ h, x.1 ≤ t) : (m.run h.writes).advance t = (m.run h).advance t := by
  induction h using List.reverseRecOn generalizing t with
  | nil => rfl
  | append_singleton h x ih =>
      obtain ⟨hordered, hlast⟩ := hordered.of_append
      have hle : x.1 ≤ t := ht x (by simp)
      have hbefore := ih hordered hlast
      cases hx : x.2.writes? with
      | none =>
          have hskip : History.writes (h ++ [x]) = History.writes h := by simp [History.writes, hx]
          have hsame := congrArg (advance · t) hbefore
          simp only [advance_advance _ hle] at hsame
          rw [hskip, run_concat, serve_of_not_writes _ _ hx, advance_advance _ hle, hsame]
      | some key =>
          have hkeep : History.writes (h ++ [x]) = History.writes h ++ [x] := by
            simp [History.writes, hx]
          have hserve (m : EagerStore) := serve_advance m (Nat.le_refl x.1) x.2
          rw [hkeep, run_concat, run_concat, ← hserve, hbefore, hserve]

end EagerStore

/-! ### What a write leaves visible -/

namespace Store

variable {s : Store} {now later : Instant} {key : String}

/-- **What is evicted** is the entry that expires first. -/
theorem soonest_eq_argmin (entries : List (String × Entry)) :
    soonest entries = entries.argmin fun x => x.2.expiresAt := by
  induction entries with
  | nil => rfl
  | cons e rest ih =>
      rw [soonest, List.argmin_cons, ih]
      cases rest.argmin fun x => x.2.expiresAt with
      | none => rfl
      | some other =>
          by_cases h : e.2.expiresAt ≤ other.2.expiresAt
          · simp [h, Nat.not_lt.2 h]
          · simp [h, Nat.lt_of_not_le h]

theorem retainLive_eq_self (h : ∀ x ∈ s.entries, x.2.isExpired now = false) :
    s.retainLive now = s := by
  have hall : s.entries.filter (fun e => !e.2.isExpired now) = s.entries :=
    List.filter_eq_self.2 fun x hx => by rw [h x hx, Bool.not_false]
  rw [retainLive, hall]

@[simp] theorem retainLive_retainLive (s : Store) (now : Instant) :
    (s.retainLive now).retainLive now = s.retainLive now :=
  retainLive_eq_self fun _ hx => isExpired_of_mem_retainLive hx

theorem retainLive_evict_retainLive (s : Store) (now : Instant) :
    (s.retainLive now).evict.retainLive now = (s.retainLive now).evict :=
  retainLive_eq_self fun _ hx => isExpired_of_mem_retainLive ((evict_sublist _).subset hx)

theorem retainLive_delete (s : Store) (now : Instant) (key : String) :
    (s.delete key).retainLive now = (s.retainLive now).delete key := by
  simp only [retainLive, delete, List.filter_filter, Bool.and_comm]

theorem retainLive_put (s : Store) (now : Instant) (key : String) (e : Entry) :
    (s.put key e).retainLive now = ((s.retainLive now).put key e).retainLive now := by
  have hdelete := congrArg entries (retainLive_delete s now key)
  have hagain := congrArg entries (retainLive_delete (s.retainLive now) now key)
  rw [retainLive_retainLive] at hagain
  simp only [retainLive] at hdelete hagain
  simp only [retainLive, put, List.filter_append, hdelete, hagain]

/-- A store that holds an expired entry holds more than the visible ones. -/
theorem size_retainLive_lt {e : Entry} (h : (key, e) ∈ s.entries) (he : e.isExpired now = true) :
    (s.retainLive now).size < s.size := by
  refine List.length_filter_lt_length_iff_exists.2 ⟨(key, e), h, ?_⟩
  simp [he]

/-- **What is visible once a write has found room**: what was visible before, but for one entry
if the visible ones alone leave no room. -/
theorem retainLive_makeRoom (hfits : s.size ≤ s.room) (now : Instant)
    (key : String) : (s.makeRoom now key).retainLive now =
      if (s.retainLive now).lacksRoom key then (s.retainLive now).evict else s.retainLive now := by
  rw [makeRoom_eq]
  by_cases hlacks : s.lacksRoom key = true
  · rw [if_pos hlacks]
    split
    · exact retainLive_evict_retainLive s now
    · exact retainLive_retainLive s now
  · rw [if_neg hlacks, if_neg]
    intro hlive
    obtain ⟨hnew, hfull⟩ := lacksRoom_eq_true_iff.1 hlive
    have hfull : s.room ≤ (s.retainLive now).size := hfull
    -- As many entries are visible as there is room for, so none has expired, and the key is new.
    have hall : ¬(s.retainLive now).size < s.size := by omega
    refine hlacks (lacksRoom_eq_true_iff.2 ⟨fun hkey => ?_, ?_⟩)
    · obtain ⟨⟨k, e⟩, hmem, rfl⟩ := List.mem_map.1 hkey
      cases he : e.isExpired now with
      | true => exact hall (size_retainLive_lt hmem he)
      | false =>
          refine hnew (List.mem_map.2 ⟨(k, e), List.mem_filter.2 ⟨hmem, ?_⟩, rfl⟩)
          simp [he]
    · exact hfull.trans (retainLive_sublist s now).length_le

/-- What a lookup drops was not visible. -/
theorem Distinct.retainLive_dropExpired (hs : s.Distinct) (now : Instant) (key : String) :
    (s.dropExpired now key).retainLive now = s.retainLive now := by
  unfold dropExpired
  split
  · next hexpired =>
    have hother : ∀ x ∈ (s.retainLive now).entries, x.1 ≠ key := by
      rintro ⟨k, e⟩ hx rfl
      have hfind := hs.find?_eq_some_iff.2 ((retainLive_sublist s now).subset hx)
      rw [hfind, Option.any_some, isExpired_of_mem_retainLive hx] at hexpired
      cases hexpired
    have hall : (s.retainLive now).entries.filter (fun x => x.1 ≠ key) =
        (s.retainLive now).entries :=
      List.filter_eq_self.2 fun x hx => decide_eq_true (hother x hx)
    rw [retainLive_delete, Store.delete, hall]
  · rfl

/-! ### A store never has more entries than room -/

theorem room_pos (s : Store) : 0 < s.room := Nat.lt_of_lt_of_le Nat.one_pos (Nat.le_max_right ..)

theorem size_delete_lt (h : key ∈ s.keys) : (s.delete key).size < s.size := by
  obtain ⟨x, hx, rfl⟩ := List.mem_map.1 h
  exact List.length_filter_lt_length_iff_exists.2 ⟨x, hx, by simp⟩

theorem size_evict_lt (h : 0 < s.size) : s.evict.size < s.size := by
  unfold evict
  cases hsoonest : soonest s.entries with
  | none =>
      rw [soonest_eq_argmin, List.argmin_eq_none] at hsoonest
      simp [size, hsoonest] at h
  | some victim =>
      rw [soonest_eq_argmin] at hsoonest
      exact size_delete_lt (List.mem_map_of_mem (List.argmin_mem hsoonest))

/-- A write that does not replace an entry has found room. -/
theorem size_makeRoom_lt (hfits : s.size ≤ s.room) (hnew : key ∉ (s.makeRoom now key).keys) :
    (s.makeRoom now key).size < s.room := by
  have hlt {s' : Store} (hlacks : ¬s'.lacksRoom key = true) (hkey : key ∉ s'.keys) :
      s'.size < s'.room :=
    Nat.lt_of_not_le fun hfull => hlacks (lacksRoom_eq_true_iff.2 ⟨hkey, hfull⟩)
  rw [makeRoom_eq] at hnew ⊢
  split at hnew
  · next hlacks =>
    rw [if_pos hlacks]
    have hretain : (s.retainLive now).size ≤ s.size := (retainLive_sublist s now).length_le
    split at hnew
    · next hlacks' =>
      rw [if_pos hlacks']
      have hfull : s.room ≤ (s.retainLive now).size := (lacksRoom_eq_true_iff.1 hlacks').2
      have hpos := s.room_pos
      have hevict := size_evict_lt (s := s.retainLive now) (by omega)
      omega
    · next hlacks' =>
      rw [if_neg hlacks']
      exact hlt hlacks' hnew
  · next hlacks =>
    rw [if_neg hlacks]
    exact hlt hlacks hnew

theorem size_put_le (hfits : s.size ≤ s.room) (now : Instant) (key : String) (e : Entry) :
    ((s.makeRoom now key).put key e).size ≤ s.room := by
  have hsize : ((s.makeRoom now key).put key e).size = ((s.makeRoom now key).delete key).size + 1 :=
    by simp [put, size]
  have hdelete : ((s.makeRoom now key).delete key).size ≤ (s.makeRoom now key).size :=
    (delete_sublist ..).length_le
  have hmake : (s.makeRoom now key).size ≤ s.size := (makeRoom_sublist s now key).length_le
  by_cases hkey : key ∈ (s.makeRoom now key).keys
  · have := size_delete_lt hkey
    omega
  · have := size_makeRoom_lt hfits hkey
    omega

theorem room_serve (s : Store) (now : Instant) (r : StoreRequest) : (s.serve now r).room = s.room :=
  congrArg (max · 1) (capacity_serve s now r)

theorem size_serve_le (hfits : s.size ≤ s.room) (now : Instant) (r : StoreRequest) :
    (s.serve now r).size ≤ s.room := by
  cases r with
  | setex key ttl value =>
      simp only [serve, setex]
      split
      · exact size_put_le hfits now key _
      · exact (makeRoom_sublist s now key).length_le.trans hfits
  | get key =>
      rw [serve, get_snd]
      exact (dropExpired_sublist s now key).length_le.trans hfits
  | delete key => exact (delete_sublist s key).length_le.trans hfits
  | contains key => exact hfits
  | purge => exact (retainLive_sublist s now).length_le.trans hfits

/-! ### The simulation -/

/-- The eager store has the visible entries of the store, in their order. -/
structure Shows (s : Store) (m : EagerStore) (now : Instant) : Prop where
  distinct : s.Distinct
  fits : s.size ≤ s.room
  room : m.room = s.room
  visible : m.entries = (s.retainLive now).entries

variable {m : EagerStore}

theorem entries_advance (s : Store) (room : Nat) (now : Instant) :
    (EagerStore.advance ⟨room, s.entries⟩ now).entries = (s.retainLive now).entries := by
  simp only [EagerStore.advance, retainLive, Entry.isExpired, ← decide_not, Nat.not_le]

theorem shows_advance (hs : s.Distinct) (hfits : s.size ≤ s.room) (now : Instant) :
    Shows s (EagerStore.advance ⟨s.room, s.entries⟩ now) now where
  distinct := hs
  fits := hfits
  room := rfl
  visible := entries_advance s s.room now

theorem Shows.eq_advance (h : Shows s m now) : m = EagerStore.advance ⟨s.room, s.entries⟩ now := by
  obtain ⟨room, entries⟩ := m
  obtain rfl : room = s.room := h.room
  obtain rfl : entries = (s.retainLive now).entries := h.visible
  rw [← entries_advance s s.room now]
  rfl

/-- What has expired in the meantime is gone from both views. -/
theorem Shows.advance (h : Shows s m now) (hle : now ≤ later) :
    Shows s (m.advance later) later := by
  rw [h.eq_advance, EagerStore.advance_advance _ hle]
  exact shows_advance h.distinct h.fits later

/-- Both stores find the same. -/
theorem Shows.value?_eq (h : Shows s m now) (key : String) : m.value? key = (s.get now key).1 := by
  have hfind : m.entries.lookup key = (s.find? key).filter fun e => !e.isExpired now := by
    rw [h.visible, ← h.distinct.find?_retainLive now key]
    rfl
  rw [get_fst, EagerStore.value?, hfind]
  cases s.find? key with
  | none => rfl
  | some e =>
      by_cases hlive : now < e.expiresAt
      · simp [Option.filter_some, Entry.valueAt, hlive, Entry.isExpired_eq_false_iff.2 hlive]
      · have hexpired := (e.isExpired_iff now).2 (Nat.le_of_not_lt hlive)
        simp [Option.filter_some, Entry.valueAt, hlive, hexpired]

theorem Shows.remove (h : Shows s m now) (key : String) :
    Shows (s.delete key) (m.remove key) now where
  distinct := h.distinct.delete key
  fits := (delete_sublist s key).length_le.trans h.fits
  room := h.room
  visible := by
    rw [retainLive_delete, EagerStore.remove, h.visible]
    rfl

/-- Both stores evict on the same condition, and then the same entry. -/
theorem Shows.makeRoom_entries (h : Shows s m now) (key : String) :
    (m.makeRoom key).entries = ((s.makeRoom now key).retainLive now).entries := by
  have hcondition : (m.value? key = none ∧ m.room ≤ m.entries.length) ↔
      (s.retainLive now).lacksRoom key = true := by
    rw [lacksRoom_eq_true_iff, ← find?_eq_none_iff, EagerStore.value?, Option.map_eq_none_iff,
      h.visible, h.room]
    rfl
  rw [retainLive_makeRoom h.fits]
  unfold EagerStore.makeRoom
  by_cases hlacks : (s.retainLive now).lacksRoom key = true
  · rw [if_pos hlacks, if_pos (hcondition.2 hlacks), EagerStore.evict, evict, soonest_eq_argmin,
      h.visible]
    cases (s.retainLive now).entries.argmin fun x => x.2.expiresAt with
    | none => exact h.visible
    | some victim =>
        simp only [EagerStore.remove, h.visible]
        rfl
  · rw [if_neg hlacks, if_neg (fun hfull => hlacks (hcondition.1 hfull)), h.visible]

theorem Shows.put (h : Shows s m now) (key : String) (e : Entry) :
    Shows ((s.makeRoom now key).put key e) (((m.makeRoom key).put key e).advance now) now where
  distinct := (h.distinct.of_sublist (makeRoom_sublist s now key)).put key e
  fits := by
    rw [Store.room, capacity_put, capacity_makeRoom]
    exact size_put_le h.fits now key e
  room := by
    have hroom : (m.makeRoom key).room = m.room := by
      unfold EagerStore.makeRoom EagerStore.evict
      split
      · split <;> rfl
      · rfl
    rw [Store.room, capacity_put, capacity_makeRoom]
    exact hroom.trans h.room
  visible := by
    rw [retainLive_put, ← entries_advance _ m.room]
    simp only [EagerStore.advance, EagerStore.put, EagerStore.remove, h.makeRoom_entries]
    rfl

/-- **Requests keep the relation.** -/
theorem Shows.serve (h : Shows s m now) (hle : now ≤ later) {r : StoreRequest}
    (hr : History.Shown [(later, r)]) : Shows (s.serve later r) (m.serve later r) later := by
  have hlater := h.advance hle
  cases r with
  | setex key ttl value =>
      obtain ⟨deadline, hdeadline⟩ := Option.isSome_iff_exists.1
        (hr later key ttl value List.mem_cons_self)
      rw [Store.serve, setex_of_after? hdeadline]
      obtain ⟨-, rfl⟩ := Instant.after?_eq_some_iff.1 hdeadline
      exact hlater.put key _
  | delete key => exact hlater.remove key
  | contains key => exact hlater
  | get key =>
      have hdrop := h.distinct.retainLive_dropExpired later key
      rw [Store.serve, get_snd]
      exact {
        distinct := h.distinct.of_sublist (dropExpired_sublist s later key)
        fits := by
          rw [Store.room, capacity_dropExpired]
          exact (dropExpired_sublist s later key).length_le.trans h.fits
        room := by
          rw [Store.room, capacity_dropExpired]
          exact h.room
        visible := by
          rw [hdrop]
          exact hlater.visible }
  | purge =>
      exact {
        distinct := h.distinct.of_sublist (retainLive_sublist s later)
        fits := (retainLive_sublist s later).length_le.trans h.fits
        room := h.room
        visible := by
          rw [Store.serve, purge, retainLive_retainLive]
          exact hlater.visible }

theorem shows_empty (capacity : Nat) (now : Instant) :
    Shows (empty capacity) ⟨max capacity 1, []⟩ now where
  distinct := distinct_empty capacity
  fits := Nat.zero_le _
  room := rfl
  visible := rfl

/-- Both stores answer the same. -/
theorem Shows.answer?_eq (h : Shows s m now) (hle : now ≤ later) (r : StoreRequest) :
    s.answer? later r = m.answer? later r := by
  have hvalue := (h.advance hle).value?_eq
  cases r with
  | get key => rw [answer?, EagerStore.answer?, hvalue]
  | contains key => rw [answer?, EagerStore.answer?, hvalue, contains_eq]
  | _ => rfl

theorem Shows.answers_eq {h : History} (hs : Shows s m now) (hordered : h.Ordered)
    (hshown : h.Shown) (hle : ∀ x ∈ h, now ≤ x.1) : s.answers h = m.answers h := by
  induction h generalizing s m now with
  | nil => rfl
  | cons x h ih =>
      have hfirst : now ≤ x.1 := hle x List.mem_cons_self
      obtain ⟨hlater, hordered⟩ := List.pairwise_cons.1 hordered
      have hx : History.Shown [(x.1, x.2)] := fun t key ttl value hmem =>
        hshown t key ttl value (List.mem_cons.2 (.inl (List.mem_singleton.1 hmem)))
      have hrest : History.Shown h := fun t key ttl value hmem =>
        hshown t key ttl value (List.mem_cons_of_mem _ hmem)
      rw [answers, EagerStore.answers, hs.answer?_eq hfirst, ih (hs.serve hfirst hx) hordered hrest]
      intro y hy
      exact hlater y.1 (List.mem_map_of_mem hy)

theorem Shows.run {h : History} (hs : Shows s m now) (hordered : h.Ordered) (hshown : h.Shown)
    (hle : ∀ x ∈ h, now ≤ x.1) (hlater : now ≤ later) (hlast : ∀ x ∈ h, x.1 ≤ later) :
    Shows (s.run h) ((m.run h).advance later) later := by
  induction h using List.reverseRecOn generalizing later with
  | nil => exact hs.advance hlater
  | append_singleton h x ih =>
      obtain ⟨hordered, hbefore⟩ := hordered.of_append
      obtain ⟨hshown, hx⟩ := hshown.of_append
      have hrun := ih hordered hshown (fun y hy => hle y (List.mem_append_left _ hy))
        (hle x (by simp)) hbefore
      have hserve := hrun.serve (Nat.le_refl _) hx
      rw [EagerStore.serve_advance _ (Nat.le_refl _)] at hserve
      rw [run_append, run_singleton, EagerStore.run_concat]
      exact hserve.advance (hlast x (by simp))

/-- **Nobody can tell that expired entries stay stored.**  After any requests whose times do not go
back and whose deadlines the clock can show, a store has answered as one that drops every entry at
the moment it expires.  Reads and purges, wherever they stand among the earlier requests, change no
later answer: it is the same after any requests with the same writes and deletes. -/
theorem lazy_expiry_unobservable (capacity : Nat) {h : History} (hordered : h.Ordered)
    (hshown : h.Shown) :
    (empty capacity).answers h = EagerStore.answers ⟨max capacity 1, []⟩ h ∧
    ∀ before after h' : History, h = before ++ after → h'.writes = before.writes →
      History.Ordered (h' ++ after) →
        ((empty capacity).run h').answers after = ((empty capacity).run before).answers after := by
  have hempty := shows_empty capacity 0
  refine ⟨hempty.answers_eq hordered hshown fun _ _ => Nat.zero_le _, ?_⟩
  rintro before after h' rfl hwrites hordered'
  cases after with
  | nil => rfl
  | cons x after =>
      obtain ⟨hbefore, hafter, hle⟩ := History.ordered_append.1 hordered
      obtain ⟨hbefore', -, hle'⟩ := History.ordered_append.1 hordered'
      have hshown₁ : before.Shown := fun t key ttl value hmem =>
        hshown t key ttl value (List.mem_append_left _ hmem)
      have hshown₂ : History.Shown (x :: after) := fun t key ttl value hmem =>
        hshown t key ttl value (List.mem_append_right _ hmem)
      have hlast : ∀ y ∈ before, y.1 ≤ x.1 := fun y hy => hle y hy x List.mem_cons_self
      have hlast' : ∀ y ∈ h', y.1 ≤ x.1 := fun y hy => hle' y hy x List.mem_cons_self
      have hfirst : ∀ y ∈ x :: after, x.1 ≤ y.1 := by
        intro y hy
        rcases List.mem_cons.1 hy with rfl | hy
        · exact Nat.le_refl _
        · exact (List.pairwise_cons.1 hafter).1 y.1 (List.mem_map_of_mem hy)
      have hrun := hempty.run hbefore hshown₁ (fun _ _ => Nat.zero_le _) (Nat.zero_le _) hlast
      have hrun' := hempty.run hbefore' (hshown₁.of_writes_eq hwrites) (fun _ _ => Nat.zero_le _)
        (Nat.zero_le _) hlast'
      -- When the first of the later requests comes, both runs have left the same to be seen.
      rw [hrun.answers_eq hafter hshown₂ hfirst, hrun'.answers_eq hafter hshown₂ hfirst,
        ← EagerStore.advance_run _ hbefore hlast, ← EagerStore.advance_run _ hbefore' hlast',
        hwrites]

/-- A store with room for two keys.  One has expired when a third key is written, so nothing is
evicted; the fourth one costs the key that expires first.  A purge in between makes no difference,
nor does a lookup of the expired key. -/
theorem lazy_expiry_unobservable_of_full_store :
    let second := nanosPerSecond
    let before : History := [(0, .setex "a" (.ofSecs 1) [97]), (0, .setex "b" (.ofSecs 5) [98]),
      (2 * second, .setex "c" (.ofSecs 9) [99])]
    let before' : History := [(0, .setex "a" (.ofSecs 1) [97]), (0, .setex "b" (.ofSecs 5) [98]),
      (second, .get "a"), (second, .purge), (2 * second, .setex "c" (.ofSecs 9) [99])]
    let after : History := [(3 * second, .get "b"), (3 * second, .contains "a"),
      (4 * second, .setex "d" (.ofSecs 1) []), (4 * second, .get "b"), (4 * second, .get "c")]
    History.Ordered (before ++ after) ∧ History.Shown (before ++ after) ∧
      (empty 2).answers (before ++ after) =
        [.value (some [98]), .visible false, .value none, .value (some [99])] ∧
      ((empty 2).run before').answers after = ((empty 2).run before).answers after := by
  intro second before before' after
  have hordered : History.Ordered (before ++ after) := by decide
  have hshown : History.Shown (before ++ after) := by decide
  have hordered' : History.Ordered (before' ++ after) := by decide
  obtain ⟨hanswers, hwrites⟩ := lazy_expiry_unobservable 2 hordered hshown
  refine ⟨hordered, hshown, ?_, hwrites before after before' rfl (by decide) hordered'⟩
  rw [hanswers]
  decide

end Store

end DataTier
