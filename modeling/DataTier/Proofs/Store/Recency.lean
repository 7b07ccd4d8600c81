/-
**With one span of life a store keeps what was written last.**

A full store evicts the entry that expires first.  When every entry lives for the same span, that is
the one written longest ago, so the visible keys are those written last, as many as there is room
for, as far as they have not expired.

The writes of a history are listed by key, the latest first, and a new write of a key moves it to
the front.  Deadlines fall along that list, so what is live at any moment is a part of its front, and
it is the same whether the list is first cut down to the room and then to what is live or the other
way round.  The proof compares this list with the store that drops its entries at the moment they
expire, in which nothing depends on reads and purges.

Main definitions:

* `DataTier.History.lastWrites`, `History.recent` — the last write of each key, and the keys, the
  latest first;
* `DataTier.History.OneTtl` — histories without deletes whose writes follow one another and live for
  one span.

Main results:

* `DataTier.History.OneTtl.falling` — deadlines fall along the list;
* `DataTier.EagerStore.entries_evict` — what falls off the end of the list is evicted;
* `DataTier.EagerStore.entries_run` — what is visible after a history;
* `DataTier.Store.keeps_last_written` — **what lookups find**.
-/

import DataTier.Proofs.Store.Eager
import DataTier.Proofs.Store.Refinement

set_option relaxedAutoImplicit false
set_option autoImplicit false

namespace DataTier

/-! ### The last writes -/

namespace History

/-- One more request: a write moves its key to the front. -/
def pushWrite (ws : List (String × Entry)) : Instant × StoreRequest → List (String × Entry)
  | (now, .setex key ttl value) =>
    (key, ⟨value, now + ttl.nanos⟩) :: ws.filter fun w => w.1 ≠ key
  | _ => ws

/-- The last write of each key, the latest first. -/
def lastWrites (h : History) : List (String × Entry) := h.foldl pushWrite []

/-- The keys that have been written, each once, the one written last first. -/
def recent (h : History) : List String := (lastWrites h).map Prod.fst

/-- **A history whose entries live for one span.**  Nothing is deleted, time does not go back, and
between two writes it goes on. -/
structure OneTtl (ttl : Duration) (h : History) : Prop where
  /-- Times do not go back. -/
  ordered : h.Ordered
  /-- No two writes have one time. -/
  apart : (h.writes.map Prod.fst).Pairwise (· < ·)
  /-- The clock can show every deadline. -/
  shown : h.Shown
  /-- Every write has the same span. -/
  same : ∀ t key d value, (t, StoreRequest.setex key d value) ∈ h → d = ttl
  /-- Nothing is deleted. -/
  keeps : ∀ t key, (t, StoreRequest.delete key) ∉ h

variable {h : History} {x : Instant × StoreRequest} {ttl : Duration} {key : String} {e : Entry}

@[simp] theorem lastWrites_nil : lastWrites [] = [] := rfl

@[simp] theorem lastWrites_concat (h : History) (x : Instant × StoreRequest) :
    lastWrites (h ++ [x]) = pushWrite (lastWrites h) x := by
  simp [lastWrites]

theorem OneTtl.of_append (hh : OneTtl ttl (h ++ [x])) :
    OneTtl ttl h ∧ ∀ y ∈ h, y.1 ≤ x.1 := by
  obtain ⟨hordered, hle⟩ := hh.ordered.of_append
  have hapart := hh.apart
  rw [writes, List.filter_append, List.map_append, List.pairwise_append] at hapart
  exact ⟨{
    ordered := hordered
    apart := hapart.1
    shown := hh.shown.of_append.1
    same := fun t key d value hmem => hh.same t key d value (List.mem_append_left _ hmem)
    keeps := fun t key hmem => hh.keeps t key (List.mem_append_left _ hmem) }, hle⟩

/-- A write comes after all writes before it. -/
theorem OneTtl.lt_of_append {now : Instant} {value : Bytes}
    (hh : OneTtl ttl (h ++ [(now, .setex key ttl value)])) {t : Instant} {k : String}
    {d : Duration} {v : Bytes} (hmem : (t, StoreRequest.setex k d v) ∈ h) : t < now := by
  have hapart := hh.apart
  rw [writes, List.filter_append, List.map_append, List.pairwise_append] at hapart
  refine hapart.2.2 t ?_ now (by simp [StoreRequest.writes?])
  exact List.mem_map.2 ⟨_, mem_writes.2 ⟨hmem, rfl⟩, rfl⟩

/-- The last writes are writes of the history. -/
theorem exists_of_mem_lastWrites (hmem : (key, e) ∈ lastWrites h) :
    ∃ t d value, (t, StoreRequest.setex key d value) ∈ h ∧ e = ⟨value, t + d.nanos⟩ := by
  induction h using List.reverseRecOn with
  | nil => cases hmem
  | append_singleton h x ih =>
      have hold (hmem : (key, e) ∈ lastWrites h) : ∃ t d value,
          (t, StoreRequest.setex key d value) ∈ h ++ [x] ∧ e = ⟨value, t + d.nanos⟩ := by
        obtain ⟨t, d, value, hwrite, he⟩ := ih hmem
        exact ⟨t, d, value, List.mem_append_left _ hwrite, he⟩
      rw [lastWrites_concat] at hmem
      obtain ⟨now, r⟩ := x
      cases r with
      | setex k d value =>
          rcases List.mem_cons.1 hmem with heq | hmem
          · obtain ⟨rfl, rfl⟩ := Prod.mk.inj heq
            exact ⟨now, d, value, by simp, rfl⟩
          · exact hold (List.mem_filter.1 hmem).1
      | _ => exact hold hmem

/-- No key is listed twice. -/
theorem nodup_recent (h : History) : (recent h).Nodup := by
  induction h using List.reverseRecOn with
  | nil => exact List.nodup_nil
  | append_singleton h x ih =>
      rw [recent, lastWrites_concat]
      obtain ⟨now, r⟩ := x
      cases r with
      | setex key d value =>
          refine List.nodup_cons.2 ⟨?_, List.Nodup.sublist (List.filter_sublist.map _) ih⟩
          intro hmem
          obtain ⟨w, hw, hkey⟩ := List.mem_map.1 hmem
          exact of_decide_eq_true (List.mem_filter.1 hw).2 hkey
      | _ => exact ih

/-- **Deadlines fall along the list.** -/
theorem OneTtl.falling (hh : OneTtl ttl h) :
    (lastWrites h).Pairwise fun w w' => w'.2.expiresAt < w.2.expiresAt := by
  induction h using List.reverseRecOn with
  | nil => exact List.Pairwise.nil
  | append_singleton h x ih =>
      have hfalling := ih hh.of_append.1
      rw [lastWrites_concat]
      obtain ⟨now, r⟩ := x
      cases r with
      | setex key d value =>
          obtain rfl : d = ttl := hh.same now key d value (by simp)
          refine List.pairwise_cons.2 ⟨?_, hfalling.filter _⟩
          intro w hw
          obtain ⟨t, d', v, hwrite, he⟩ := exists_of_mem_lastWrites (List.mem_filter.1 hw).1
          obtain rfl : d' = d := hh.same t w.1 d' v (List.mem_append_left _ hwrite)
          have hlt := hh.lt_of_append hwrite
          rw [he]
          exact Nat.add_lt_add_right hlt _
      | _ => exact hfalling

/-- A key is listed with what was written to it last. -/
theorem OneTtl.mem_lastWrites_iff (hh : OneTtl ttl h) :
    (key, e) ∈ lastWrites h ↔ TtlMap.run h key = some e := by
  induction h using List.reverseRecOn with
  | nil => simp [TtlMap.empty]
  | append_singleton h x ih =>
      have hbefore := ih hh.of_append.1
      rw [lastWrites_concat, TtlMap.run_concat]
      obtain ⟨now, r⟩ := x
      cases r with
      | setex k d value =>
          rw [TtlMap.serve_setex, pushWrite, List.mem_cons, List.mem_filter, hbefore]
          by_cases hk : key = k
          · simp [hk, eq_comm]
          · simp [hk]
      | delete k => exact absurd (by simp) (hh.keeps now k)
      | _ => exact hbefore

end History

/-! ### Cutting a list down -/

section

variable {α : Type} {p : α → Bool} {l : List α} {n : Nat}

/-- When what has a property comes first, it makes no difference whether a list is cut down to its
front or to what has the property first. -/
theorem take_filter_of_pairwise (hl : l.Pairwise fun x y => p y = true → p x = true) :
    (l.take n).filter p = (l.filter p).take n := by
  induction l generalizing n with
  | nil => simp
  | cons x l ih =>
      obtain ⟨hx, hl⟩ := List.pairwise_cons.1 hl
      cases n with
      | zero => rfl
      | succ n =>
          cases hp : p x with
          | true =>
              rw [List.take_succ_cons, List.filter_cons_of_pos hp, List.filter_cons_of_pos hp,
                List.take_succ_cons, ih hl]
          | false =>
              -- Nothing after `x` has the property either.
              have hnone (l' : List α) (hsub : ∀ y ∈ l', y ∈ l) : l'.filter p = [] := by
                refine List.filter_eq_nil_iff.2 ?_
                intro y hy hpy
                exact Bool.false_ne_true (hp.symm.trans (hx y (hsub y hy) hpy))
              have hneg : ¬p x = true := Bool.eq_false_iff.1 hp
              rw [List.take_succ_cons, List.filter_cons_of_neg hneg, List.filter_cons_of_neg hneg,
                hnone l fun y hy => hy, hnone (l.take n) fun y hy => List.mem_of_mem_take hy,
                List.take_nil]

/-- Where one element at most is taken out, the front is known from one element more. -/
theorem take_filter_take {f : α → String} (hl : (l.map f).Nodup) (key : String) :
    ((l.take (n + 1)).filter fun x => f x ≠ key).take n =
      (l.filter fun x => f x ≠ key).take n := by
  induction l generalizing n with
  | nil => simp
  | cons x l ih =>
      obtain ⟨hx, hl⟩ := List.nodup_cons.1 hl
      rw [List.take_succ_cons]
      by_cases hkey : f x = key
      · -- The element is found, and there is no other.
        have hrest (l' : List α) (hsub : ∀ y ∈ l', y ∈ l) :
            (l'.filter fun x => f x ≠ key) = l' := by
          refine List.filter_eq_self.2 ?_
          intro y hy
          refine decide_eq_true fun h => hx ?_
          rw [hkey, ← h]
          exact List.mem_map_of_mem (hsub y hy)
        rw [List.filter_cons_of_neg (by simp [hkey]), List.filter_cons_of_neg (by simp [hkey]),
          hrest l fun y hy => hy, hrest (l.take n) fun y hy => List.mem_of_mem_take hy,
          List.take_take, Nat.min_self]
      · rw [List.filter_cons_of_pos (by simp [hkey]), List.filter_cons_of_pos (by simp [hkey])]
        cases n with
        | zero => rfl
        | succ n => rw [List.take_succ_cons, List.take_succ_cons, ih hl]

end

/-! ### What the eager store shows -/

namespace EagerStore

variable {m : EagerStore} {ws : List (String × Entry)} {n : Nat} {key : String}

/-- Whether an entry is visible. -/
def isLive (now : Instant) (w : String × Entry) : Bool := decide (now < w.2.expiresAt)

/-- The first entry is evicted when it expires first. -/
theorem entries_evict_cons {w : String × Entry} {rest : List (String × Entry)}
    (hentries : m.entries = w :: rest) (hfirst : ∀ x ∈ rest, w.2.expiresAt ≤ x.2.expiresAt)
    (hkeys : (m.entries.map Prod.fst).Nodup) : m.evict.entries = rest := by
  have hargmin : (m.entries.argmin fun x => x.2.expiresAt) = some w := by
    rw [hentries, List.argmin_cons]
    cases hrest : rest.argmin fun x => x.2.expiresAt with
    | none => rfl
    | some x =>
        have hle := hfirst x (List.argmin_mem hrest)
        exact if_neg (Nat.not_lt.2 hle)
  rw [hentries, List.map_cons, List.nodup_cons] at hkeys
  rw [evict, hargmin]
  simp only [remove, hentries]
  rw [List.filter_cons_of_neg (by simp)]
  refine List.filter_eq_self.2 ?_
  intro x hx
  refine decide_eq_true fun h => hkeys.1 ?_
  rw [← h]
  exact List.mem_map_of_mem hx

/-- **What is evicted** from a full store whose deadlines fall: what falls off the end of the list. -/
theorem entries_evict (hfalling : ws.Pairwise fun w w' => w'.2.expiresAt < w.2.expiresAt)
    (hkeys : (ws.map Prod.fst).Nodup) (hlength : n < ws.length)
    (hentries : m.entries = (ws.take (n + 1)).reverse) :
    m.evict.entries = (ws.take n).reverse := by
  have hsplit : ws.take (n + 1) = ws.take n ++ [ws[n]] := List.take_succ_eq_append_getElem hlength
  have hkeys' : (m.entries.map Prod.fst).Nodup := by
    rw [hentries, List.map_reverse, List.nodup_reverse, List.map_take]
    exact hkeys.take
  rw [hsplit, List.reverse_append, List.reverse_singleton, List.singleton_append] at hentries
  refine entries_evict_cons hentries ?_ hkeys'
  intro x hx
  have hfalling' := hfalling.take (i := n + 1)
  rw [hsplit, List.pairwise_append] at hfalling'
  exact Nat.le_of_lt (hfalling'.2.2 x (List.mem_reverse.1 hx) _ (List.mem_singleton.2 rfl))

/-- What a write leaves of the others: those written last, one fewer than there is room for. -/
theorem entries_remove_makeRoom
    (hfalling : ws.Pairwise fun w w' => w'.2.expiresAt < w.2.expiresAt)
    (hkeys : (ws.map Prod.fst).Nodup) (hroom : m.room = n + 1)
    (hentries : m.entries = (ws.take (n + 1)).reverse) :
    ((m.makeRoom key).remove key).entries = ((ws.filter fun w => w.1 ≠ key).take n).reverse := by
  rw [← take_filter_take hkeys]
  have hremove (m' : EagerStore) (l : List (String × Entry)) (hl : m'.entries = l.reverse) :
      (m'.remove key).entries = (l.filter fun w => w.1 ≠ key).reverse := by
    rw [remove, hl, List.filter_reverse]
  have hvalue : m.value? key = none ↔ ∀ w ∈ ws.take (n + 1), w.1 ≠ key := by
    rw [value?, Option.map_eq_none_iff, List.lookup_eq_none_iff, hentries]
    simp only [List.mem_reverse, bne_iff_ne, ne_comm]
  by_cases hstored : m.value? key = none
  · have hall : (ws.take (n + 1)).filter (fun w => w.1 ≠ key) = ws.take (n + 1) :=
      List.filter_eq_self.2 fun w hw => decide_eq_true (hvalue.1 hstored w hw)
    have hlength : m.entries.length = min (n + 1) ws.length := by
      rw [hentries, List.length_reverse, List.length_take]
    rw [hall, List.take_take, Nat.min_eq_left (Nat.le_succ n)]
    by_cases hfull : m.room ≤ m.entries.length
    · have hlt : n < ws.length := by omega
      have hfront : (ws.take n).filter (fun w => w.1 ≠ key) = ws.take n := by
        refine List.filter_eq_self.2 ?_
        intro w hw
        refine decide_eq_true (hvalue.1 hstored w ?_)
        exact (List.take_sublist_take_left (Nat.le_succ n)).subset hw
      rw [makeRoom, if_pos ⟨hstored, hfull⟩,
        hremove _ _ (entries_evict hfalling hkeys hlt hentries), hfront]
    · have hshort : ws.length ≤ n := by omega
      rw [makeRoom, if_neg fun h => hfull h.2, hremove _ _ hentries, hall,
        List.take_of_length_le hshort, List.take_of_length_le (Nat.le_succ_of_le hshort)]
  · -- The key takes up a place itself.
    have hless : ((ws.take (n + 1)).filter fun w => w.1 ≠ key).length ≤ n := by
      have hlt : ((ws.take (n + 1)).filter fun w => w.1 ≠ key).length <
          (ws.take (n + 1)).length := by
        refine List.length_filter_lt_length_iff_exists.2 ?_
        by_contra hnone
        refine hstored (hvalue.2 ?_)
        intro w hw hkey
        exact hnone ⟨w, hw, by simp [hkey]⟩
      have hle : (ws.take (n + 1)).length ≤ n + 1 := List.length_take_le ..
      omega
    rw [makeRoom, if_neg fun h => hstored h.1, hremove _ _ hentries, List.take_of_length_le hless]

theorem room_run (m : EagerStore) (h : History) : (m.run h).room = m.room := by
  have hmake (m : EagerStore) (key : String) : (m.makeRoom key).room = m.room := by
    unfold makeRoom evict
    split
    · split <;> rfl
    · rfl
  have hserve (m : EagerStore) (now : Instant) (r : StoreRequest) :
      (m.serve now r).room = m.room := by
    cases r with
    | setex key ttl value => exact hmake (m.advance now) key
    | _ => rfl
  induction h generalizing m with
  | nil => rfl
  | cons x h ih => exact (ih (m.serve x.1 x.2)).trans (hserve m x.1 x.2)

/-- Deadlines fall along a list, so what is live at any moment comes first. -/
theorem pairwise_isLive (hfalling : ws.Pairwise fun w w' => w'.2.expiresAt < w.2.expiresAt)
    (t : Instant) : ws.Pairwise fun w w' => isLive t w' = true → isLive t w = true := by
  refine hfalling.imp ?_
  intro w w' hlt hlive
  exact decide_eq_true (Nat.lt_trans (of_decide_eq_true hlive) hlt)

/-- What is live later is live now. -/
theorem filter_isLive_filter {now t : Instant} (hle : now ≤ t) (ws : List (String × Entry)) :
    (ws.filter (isLive now)).filter (isLive t) = ws.filter (isLive t) := by
  rw [List.filter_filter]
  refine List.filter_congr ?_
  intro w _
  rw [isLive, isLive, ← Bool.decide_and, decide_eq_decide]
  exact and_iff_left_of_imp (Nat.lt_of_le_of_lt hle)

/-- A write moves its key to the front of what is visible. -/
theorem entries_serve_setex
    (hfalling : ws.Pairwise fun w w' => w'.2.expiresAt < w.2.expiresAt)
    (hkeys : (ws.map Prod.fst).Nodup) (hroom : m.room = n + 1) {now t : Instant} (hle : now ≤ t)
    (hentries : (m.advance now).entries = ((ws.take (n + 1)).filter (isLive now)).reverse)
    (ttl : Duration) (value : Bytes) :
    ((m.serve now (.setex key ttl value)).advance t).entries =
      (((History.pushWrite ws (now, .setex key ttl value)).take (n + 1)).filter
        (isLive t)).reverse := by
  -- It is the live part of the list that is cut down to the room.
  rw [take_filter_of_pairwise (pairwise_isLive hfalling now)] at hentries
  have hothers : (((m.advance now).makeRoom key).remove key).entries =
      (((ws.filter (isLive now)).filter fun w => w.1 ≠ key).take n).reverse :=
    entries_remove_makeRoom (hfalling.filter (isLive now))
      (hkeys.sublist (List.filter_sublist.map _)) hroom hentries
  have hfalling' := hfalling.filter fun w => decide (w.1 ≠ key)
  rw [List.filter_comm, ← take_filter_of_pairwise (pairwise_isLive hfalling' now)] at hothers
  let others := (ws.filter fun w => w.1 ≠ key).take n
  let new : String × Entry := (key, ⟨value, now + ttl.nanos⟩)
  calc ((m.serve now (.setex key ttl value)).advance t).entries
      = ((((m.advance now).makeRoom key).remove key).entries ++ [new]).filter (isLive t) := by
        rw [serve, advance_advance _ hle]
        rfl
    _ = ((others.filter (isLive now)).reverse ++ [new]).filter (isLive t) := by rw [hothers]
    _ = ((others.filter (isLive t)).reverse ++ [new].filter (isLive t)) := by
        rw [List.filter_append, List.filter_reverse, filter_isLive_filter hle]
    _ = ((new :: others).filter (isLive t)).reverse := by
        rw [← List.filter_reverse, ← List.filter_append, ← List.reverse_cons, List.filter_reverse]

/-- **What is visible after a history**: of the last writes, as many as there is room for, those
that have not expired. -/
theorem entries_run {ttl : Duration} {h : History} (hh : h.OneTtl ttl) {t : Instant}
    (ht : ∀ x ∈ h, x.1 ≤ t) :
    ((run ⟨n + 1, []⟩ h).advance t).entries =
      ((h.lastWrites.take (n + 1)).filter (isLive t)).reverse := by
  induction h using List.reverseRecOn generalizing t with
  | nil => rfl
  | append_singleton h x ih =>
      obtain ⟨hbefore, hlast⟩ := hh.of_append
      obtain ⟨now, r⟩ := x
      have hle : now ≤ t := ht (now, r) (by simp)
      rw [run_concat, History.lastWrites_concat]
      have hreads (hr : r.writes? = none) : (((run ⟨n + 1, []⟩ h).serve now r).advance t).entries =
          (((History.lastWrites h).take (n + 1)).filter (isLive t)).reverse := by
        rw [serve_of_not_writes _ _ hr, advance_advance _ hle]
        exact ih hbefore fun y hy => (hlast y hy).trans hle
      cases r with
      | setex key d value =>
          exact entries_serve_setex hbefore.falling (History.nodup_recent h) (room_run ..) hle
            (ih hbefore hlast) d value
      | delete key => exact absurd (by simp) (hh.keeps now key)
      | _ => exact hreads rfl

end EagerStore

/-! ### What lookups find -/

namespace Store

variable {s : Store} {h : History} {ttl : Duration} {t : Instant} {key : String}

/-- A lookup finds the values of the live entries. -/
theorem Distinct.get_eq_some_iff (hs : s.Distinct) {value : Bytes} :
    (s.get t key).1 = some value ↔
      ∃ e, (key, e) ∈ (s.retainLive t).entries ∧ e.value = value := by
  have hlive := hs.of_sublist (retainLive_sublist s t)
  rw [get_fst, Option.bind_eq_some_iff]
  constructor
  · rintro ⟨e, hfind, hvalue⟩
    obtain ⟨hlt, hvalue⟩ := Entry.valueAt_eq_some_iff.1 hvalue
    refine ⟨e, hlive.find?_eq_some_iff.1 ?_, hvalue⟩
    rw [hs.find?_retainLive, hfind, Option.filter_some, Entry.isExpired_eq_false_iff.2 hlt]
    rfl
  · rintro ⟨e, hmem, hvalue⟩
    have hlt := Entry.isExpired_eq_false_iff.1 (isExpired_of_mem_retainLive hmem)
    exact ⟨e, hs.find?_of_sublist (retainLive_sublist s t) (hlive.find?_eq_some_iff.2 hmem),
      Entry.valueAt_eq_some_iff.2 ⟨hlt, hvalue⟩⟩

/-- The live entries of a store are the last writes that it has room for, as far as they live. -/
theorem mem_retainLive_run_iff (capacity : Nat) (hh : h.OneTtl ttl) (ht : ∀ x ∈ h, x.1 ≤ t)
    {e : Entry} : (key, e) ∈ (((empty capacity).run h).retainLive t).entries ↔
      (key, e) ∈ h.lastWrites.take (max capacity 1) ∧ t < e.expiresAt := by
  have hshows := (shows_empty capacity 0).run hh.ordered hh.shown (fun _ _ => Nat.zero_le _)
    (Nat.zero_le t) ht
  obtain ⟨n, hn⟩ : ∃ n, max capacity 1 = n + 1 := ⟨max capacity 1 - 1, by omega⟩
  have hentries := hshows.visible
  rw [hn, EagerStore.entries_run hh ht] at hentries
  rw [← hentries, List.mem_reverse, List.mem_filter, EagerStore.isLive, decide_eq_true_iff, hn]

/-- **With one span of life a store keeps what was written last.**  After a history without deletes,
whose writes come one after the other and have the same span, mixed with reads and purges in any
way: a lookup finds a value exactly when its key is among those written last, as many as the
capacity allows and one at least, the value is the one written to it last, and the span since then
is not over. -/
theorem keeps_last_written (capacity : Nat) (hh : h.OneTtl ttl) (ht : ∀ x ∈ h, x.1 ≤ t)
    (key : String) (value : Bytes) :
    (((empty capacity).run h).get t key).1 = some value ↔
      key ∈ h.recent.take (max capacity 1) ∧
      ∃ before time after, h = before ++ (time, .setex key ttl value) :: after ∧
        (∀ x ∈ after, x.2.writes? ≠ some key) ∧ t < time + ttl.nanos := by
  rw [(distinct_run capacity h).get_eq_some_iff]
  simp only [mem_retainLive_run_iff capacity hh ht, History.recent, ← List.map_take]
  constructor
  · rintro ⟨e, ⟨hfront, hlt⟩, rfl⟩
    refine ⟨List.mem_map_of_mem hfront, ?_⟩
    have hrun := hh.mem_lastWrites_iff.1 (List.mem_of_mem_take hfront)
    obtain ⟨before, time, d, value, after, hsplit, hafter, rfl⟩ := TtlMap.run_eq_some_iff.1 hrun
    obtain rfl : d = ttl := hh.same time key d value (by rw [hsplit]; simp)
    exact ⟨before, time, after, hsplit, hafter, hlt⟩
  · rintro ⟨hfront, before, time, after, hsplit, hafter, hlt⟩
    obtain ⟨⟨k, e⟩, hmem, rfl⟩ := List.mem_map.1 hfront
    have hrun : TtlMap.run h k = some ⟨value, time + ttl.nanos⟩ :=
      TtlMap.run_eq_some_iff.2 ⟨before, time, ttl, value, after, hsplit, hafter, rfl⟩
    -- The key is listed once.
    have hlast := hh.mem_lastWrites_iff.1 (List.mem_of_mem_take hmem)
    obtain rfl : e = ⟨value, time + ttl.nanos⟩ := Option.some.inj (hlast.symm.trans hrun)
    exact ⟨_, ⟨hmem, hlt⟩, rfl⟩

/-- A store of two keys that is written five times: the third key has cost the second one, since the
first one had been written again by then, and a purge has cost nothing. -/
theorem keeps_last_written_of_two_keys :
    let h : History := [(0, .setex "a" (.ofSecs 9) [1]), (1, .setex "b" (.ofSecs 9) [2]),
      (2, .get "b"), (2, .setex "a" (.ofSecs 9) [3]), (3, .purge), (3, .setex "c" (.ofSecs 9) [4])]
    h.OneTtl (.ofSecs 9) ∧ (∀ x ∈ h, x.1 ≤ 4) ∧ h.recent.take 2 = ["c", "a"] ∧
      (((empty 2).run h).get 4 "a").1 = some [3] ∧ (((empty 2).run h).get 4 "b").1 = none := by
  intro h
  have hh : h.OneTtl (.ofSecs 9) := {
    ordered := by decide
    apart := by decide
    shown := by decide
    same := by
      intro t key d value hmem
      simp only [h, List.mem_cons, Prod.mk.injEq, StoreRequest.setex.injEq, reduceCtorEq,
        and_false, List.not_mem_nil, or_false, false_or] at hmem
      rcases hmem with hmem | hmem | hmem | hmem <;> exact hmem.2.2.1
    keeps := by
      intro t key
      simp [h] }
  have ht : ∀ x ∈ h, x.1 ≤ 4 := by decide
  have hfront : h.recent.take 2 = ["c", "a"] := by decide
  refine ⟨hh, ht, hfront, ?_, ?_⟩
  · refine (keeps_last_written 2 hh ht "a" [3]).2 ⟨?_, h.take 3, 2, h.drop 4, rfl, by decide, ?_⟩
    · exact hfront ▸ by decide
    · decide
  · refine Option.eq_none_iff_forall_ne_some.2 ?_
    intro value hvalue
    have hmem := ((keeps_last_written 2 hh ht "b" value).1 hvalue).1
    rw [show max 2 1 = 2 from rfl, hfront] at hmem
    exact absurd hmem (by decide)

end Store

end DataTier
