/-
**JSON values in the cache.**

A client writes a value of any depth, but reads one back only as deep as its reader goes.  Between
the two stand the bytes in the store, which stay as they are until their deadline, unless the key
is written or removed, or evicted by a write to another one.

Main definitions:

* `DataTier.Store.victim?`, `DataTier.Store.evicted?` — the key that is evicted to make room;
* `DataTier.Store.Undisturbed` — nothing is done to a key in a history.

Main results:

* `DataTier.Store.Distinct.find?_serve_of_kept`, `DataTier.Store.Distinct.find?_run_of_undisturbed`
  — an entry that nothing is done to stays, over one request and over a history;
* `DataTier.Client.set_of_after?`, `DataTier.Client.getJson_of_live` — one write and one lookup;
* `DataTier.Client.json_survives` — **a value survives exactly within the depth of the reader**.
-/

import DataTier.Proofs.Cache.Writes
import DataTier.Proofs.Json.Reading
import DataTier.Proofs.Store.Run

set_option relaxedAutoImplicit false
set_option autoImplicit false

namespace DataTier

namespace Store

variable {s : Store} {now : Instant} {key k : String} {e : Entry}

/-! ### Entries that stay -/

/-- The key that is evicted when room is made for another one, if any. -/
def victim? (s : Store) (now : Instant) (key : String) : Option String :=
  if s.lacksRoom key ∧ (s.retainLive now).lacksRoom key then
    (soonest (s.retainLive now).entries).map Prod.fst
  else none

/-- The key that a request evicts, if any. -/
def evicted? (s : Store) (now : Instant) : StoreRequest → Option String
  | .setex key _ _ => s.victim? now key
  | _ => none

/-- Neither does a request of a history write or remove a key, nor does it evict the key. -/
def Undisturbed (key : String) : Store → History → Prop
  | _, [] => True
  | s, (now, r) :: h =>
    r.writes? ≠ some key ∧ s.evicted? now r ≠ some key ∧ Undisturbed key (s.serve now r) h

theorem Distinct.find?_retainLive_of_live (hs : s.Distinct) (he : s.find? k = some e)
    (hlive : now < e.expiresAt) : (s.retainLive now).find? k = some e := by
  rw [hs.find?_retainLive, he, Option.filter_some, Entry.isExpired_eq_false_iff.2 hlive]
  rfl

/-- Making room leaves every entry that has not expired, but for the one that it evicts. -/
theorem Distinct.find?_makeRoom_of_kept (hs : s.Distinct) (he : s.find? k = some e)
    (hlive : now < e.expiresAt) (hkept : s.victim? now key ≠ some k) :
    (s.makeRoom now key).find? k = some e := by
  have hretain := hs.find?_retainLive_of_live he hlive
  rw [makeRoom_eq]
  split
  · next hlacks =>
    split
    · next hlacks' =>
      rw [victim?, if_pos ⟨hlacks, hlacks'⟩] at hkept
      rw [evict]
      split
      · next victim hvictim =>
        rw [hvictim] at hkept
        have hne : k ≠ victim.1 := fun h => hkept (congrArg some h.symm)
        rw [find?_delete, if_neg hne, hretain]
      · exact hretain
    · exact hretain
  · exact he

/-- **One request leaves an entry** that has not expired and that it does nothing to. -/
theorem Distinct.find?_serve_of_kept (hs : s.Distinct) {r : StoreRequest}
    (he : s.find? k = some e) (hlive : now < e.expiresAt) (hwrites : r.writes? ≠ some k)
    (hkept : s.evicted? now r ≠ some k) : (s.serve now r).find? k = some e := by
  cases r with
  | setex key ttl value =>
      have hroom := hs.find?_makeRoom_of_kept he hlive hkept
      have hne : k ≠ key := fun h => hwrites (congrArg some h.symm)
      simp only [Store.serve, setex]
      split
      · rw [find?_put, if_neg hne, hroom]
      · exact hroom
  | get key =>
      rw [Store.serve, get_snd, find?_dropExpired, he, Option.filter_some,
        Entry.isExpired_eq_false_iff.2 hlive]
      exact ite_self _
  | delete key =>
      have hne : k ≠ key := fun h => hwrites (congrArg some h.symm)
      rw [Store.serve, find?_delete, if_neg hne, he]
  | contains key => exact he
  | purge => exact hs.find?_retainLive_of_live he hlive

/-- **A history leaves an entry** that does not expire in it and that nothing is done to. -/
theorem Distinct.find?_run_of_undisturbed (hs : s.Distinct) {h : History}
    (he : s.find? k = some e) (hlive : ∀ x ∈ h, x.1 < e.expiresAt)
    (hquiet : Undisturbed k s h) : (s.run h).find? k = some e := by
  induction h generalizing s with
  | nil => exact he
  | cons x h ih =>
      obtain ⟨hwrites, hkept, hquiet⟩ := hquiet
      obtain ⟨hfirst, hrest⟩ := List.forall_mem_cons.1 hlive
      exact ih (hs.serve x.1 x.2) (hs.find?_serve_of_kept he hfirst hwrites hkept) hrest hquiet

end Store

namespace Client

variable {c d : Client Store} {now deadline later : Instant} {key : String} {ttl : Duration}
  {value : Bytes}

/-! ### One write and one lookup -/

/-- A write whose deadline the clock can show lands, and its entry is stored. -/
theorem set_of_after? (hc : c.backend = some Store.backend)
    (hdeadline : now.after? ttl = some deadline) :
    c.set now key ttl value =
      (.done true, { c with
        state := (c.state.makeRoom now key).put key ⟨value, deadline⟩
        stats := c.stats.wrote true }) := by
  have hreply : Store.backend.setex now key ttl value c.state =
      (.answered (.ok ()), (c.state.makeRoom now key).put key ⟨value, deadline⟩) := by
    simp only [Store.backend, Store.setex_of_after? hdeadline]
  have hresult : c.settle (Store.backend.setex now key ttl value c.state).1 = .done (.ok ()) := by
    rw [hreply]
    rfl
  rw [set, run_of_done hc hresult, hreply]
  rfl

/-- A lookup of an entry that has not expired ends with what its bytes decode to. -/
theorem getJson_of_live {R : Type} {codec : Codec R} {e : Entry}
    (hd : d.backend = some Store.backend) (he : d.state.find? key = some e)
    (hlive : later < e.expiresAt) :
    d.getJson codec later key =
      match codec.decode? e.value with
      | some r => (.done (some r), { d with stats := d.stats.hit })
      | none => (.done none,
          { d with stats := d.stats.error.miss, log := d.log ++ [.undecodable key] }) := by
  have hget : d.state.get later key = (some e.value, d.state) := by
    rw [Store.get, Store.probe, he]
    simp only [Entry.isExpired_eq_false_iff.2 hlive, Bool.false_eq_true, if_false]
  have hreply : Store.backend.get later key d.state =
      (.answered (.ok (some e.value)), d.state) := by
    simp only [Store.backend, hget]
  have hresult : d.settle (Store.backend.get later key d.state).1 =
      .done (.ok (some e.value)) := by
    rw [hreply]
    rfl
  rw [getJson, run_of_done hd hresult, hreply]
  simp only [finishGetJson, absorb, decodeFound]
  cases codec.decode? e.value <;> rfl

/-! ### Both together -/

/-- **A value survives exactly within the depth of the reader.**  Every write of a value whose
deadline the clock can show lands.  Before the deadline, and with nothing done to the key, a lookup
finds the value and counts a hit if arrays and objects nest at most 127 deep in it; otherwise it
finds nothing, and counts a failure and a miss. -/
theorem json_survives {v : Json} {h : History} (hc : c.backend = some Store.backend)
    (hdistinct : c.state.Distinct) (hdeadline : now.after? ttl = some deadline)
    (hv : v.InOrder) (hreals : Json.ReadBack v.reals) (hd : d.backend = some Store.backend)
    (hstate : d.state = (c.setJson .value now key ttl v).2.state.run h)
    (hquiet : Store.Undisturbed key (c.setJson .value now key ttl v).2.state h)
    (htimes : ∀ x ∈ h, x.1 < deadline) (hlater : later < deadline) :
    ((c.setJson .value now key ttl v).1 = .done true ∧
      (c.setJson .value now key ttl v).2.stats = c.stats.wrote true ∧
      (c.setJson .value now key ttl v).2.log = c.log) ∧
    d.getJson .value later key =
      if v.depth ≤ 127 then (.done (some v), { d with stats := d.stats.hit })
      else (.done none,
        { d with stats := d.stats.error.miss, log := d.log ++ [.undecodable key] }) := by
  have hset : c.setJson .value now key ttl v =
      (.done true, { c with
        state := (c.state.makeRoom now key).put key ⟨v.bytes, deadline⟩
        stats := c.stats.wrote true }) :=
    (setJson_of_encode rfl).trans (set_of_after? hc hdeadline)
  rw [hset] at hstate hquiet ⊢
  refine ⟨⟨rfl, rfl, rfl⟩, ?_⟩
  have hwritten : ((c.state.makeRoom now key).put key ⟨v.bytes, deadline⟩).Distinct :=
    (hdistinct.of_sublist (Store.makeRoom_sublist ..)).put key _
  have hfound : d.state.find? key = some ⟨v.bytes, deadline⟩ := by
    rw [hstate]
    refine hwritten.find?_run_of_undisturbed ?_ htimes hquiet
    rw [Store.find?_put, if_pos rfl]
  have hdecode : Codec.value.decode? v.bytes = if v.depth ≤ 127 then some v else none :=
    Json.decode?_bytes hv hreals
  rw [getJson_of_live hd hfound hlater, hdecode]
  by_cases hdepth : v.depth ≤ 127
  · rw [if_pos hdepth, if_pos hdepth]
  · rw [if_neg hdepth, if_neg hdepth]

/-- A value with an array and a floating-point number in it. -/
def nested : Json :=
  .object [("a", .array [.null, .number (.real Json.Number.half)]), ("é", .string "\"")]

/-- Requests that do nothing to the key `k` in a store with room for two keys. -/
def elsewhere : History := [(1, .setex "other" (.ofSecs 60) [0]), (2, .get "k"), (3, .purge)]

/-- The nested value is found after another key was written in between. -/
theorem json_survives_of_nested_value :
    ((ofBackend Store.backend
      (((ofBackend Store.backend (.empty 2)).setJson .value 0 "k" (.ofSecs 1) nested).2.state.run
        elsewhere)).getJson .value 5 "k").1 = .done (some nested) := by
  have hv : nested.InOrder := by
    refine ⟨?_, ⟨trivial, trivial, trivial⟩, trivial, trivial⟩
    have hnames : "a" < "é" := by decide +kernel
    exact List.Pairwise.cons (List.forall_mem_singleton.2 hnames) (List.pairwise_singleton _ _)
  have hreals : Json.ReadBack nested.reals := by
    intro x hx
    obtain rfl : x = Json.Number.half := List.mem_singleton.1 hx
    exact Json.Number.readsBack_half
  have hdeadline : Instant.after? 0 (.ofSecs 1) = some 1000000000 := by decide
  have hsurvives := @json_survives (ofBackend Store.backend (.empty 2))
    (ofBackend Store.backend
      (((ofBackend Store.backend (.empty 2)).setJson .value 0 "k" (.ofSecs 1) nested).2.state.run
        elsewhere))
    0 _ 5 "k" _ nested elsewhere rfl (Store.distinct_empty 2) hdeadline hv hreals rfl rfl
    ⟨by decide, by decide +kernel, by decide, by decide, by decide, by decide, trivial⟩
    (by decide) (by decide)
  rw [hsurvives.2, if_pos (by decide)]

end Client

end DataTier
