/-
**A lookup in two sections cannot be told from one at a single moment.**

A lookup that finds an expired entry leaves the lock of the store and comes back for it in a second
section.  In between, time passes and other clients run sections of theirs: the key may be
overwritten, deleted, purged or evicted, and other lookups may be on their way to the same entry.
The second section therefore looks at the entry again.

The comparison is with a store where every lookup is over at its first section.  The two stores need
not hold the same expired entries, but they hold the same live ones in the same order; that is all
that a request depends on, and the second section does not touch it.

Main definitions:

* `DataTier.StoreSection`, `DataTier.SharedStore` — what can run next, and a store with its clients;
* `DataTier.SharedStore.run`, `SharedStore.runAtOnce` — lookups in two sections and in one;
* `DataTier.Store.SameLive` — the simulation relation.

Main results:

* `DataTier.Store.Proper.retainLive_serve` — a request depends on the live entries only;
* `DataTier.SharedStore.Alike.act` — a section keeps the relation;
* `DataTier.SharedStore.lookups_linearizable` — **every answer and the live entries are the same**,
  and a second section removes no live entry.
-/

import DataTier.Proofs.Store.Eager

set_option relaxedAutoImplicit false
set_option autoImplicit false

namespace DataTier

/-! ### What depends on live entries only -/

namespace Store

variable {s s' : Store} {now later : Instant} {key : String}

/-- No key is stored twice, and there are no more entries than room. -/
structure Proper (s : Store) : Prop where
  /-- No key is stored twice. -/
  distinct : s.Distinct
  /-- There are no more entries than room. -/
  fits : s.size ≤ s.room

theorem proper_empty (capacity : Nat) : (empty capacity).Proper :=
  ⟨distinct_empty capacity, Nat.zero_le _⟩

theorem Proper.of_sublist (hs : s.Proper) (hcapacity : s'.capacity = s.capacity)
    (h : s'.entries.Sublist s.entries) : s'.Proper where
  distinct := hs.distinct.of_sublist h
  fits := by
    rw [room, hcapacity]
    exact h.length_le.trans hs.fits

theorem Proper.retainLive (hs : s.Proper) (now : Instant) : (s.retainLive now).Proper :=
  hs.of_sublist rfl (retainLive_sublist s now)

theorem Proper.dropExpired (hs : s.Proper) (now : Instant) (key : String) :
    (s.dropExpired now key).Proper :=
  hs.of_sublist (capacity_dropExpired s now key) (dropExpired_sublist s now key)

theorem Proper.serve (hs : s.Proper) (now : Instant) (r : StoreRequest) :
    (s.serve now r).Proper where
  distinct := hs.distinct.serve now r
  fits := by
    rw [room_serve]
    exact size_serve_le hs.fits now r

/-- What is live later is live now. -/
theorem retainLive_retainLive_of_le (s : Store) (h : now ≤ later) :
    (s.retainLive now).retainLive later = s.retainLive later := by
  have hkeep (x : String × Entry) :
      (!x.2.isExpired later && !x.2.isExpired now) = !x.2.isExpired later := by
    cases hlater : x.2.isExpired later with
    | true => rfl
    | false =>
        have hlive := Nat.lt_of_le_of_lt h (Entry.isExpired_eq_false_iff.1 hlater)
        rw [Entry.isExpired_eq_false_iff.2 hlive]
        rfl
  simp only [retainLive, List.filter_filter, hkeep]

/-- The live entries decide which room a write finds. -/
theorem Proper.retainLive_makeRoom_retainLive (hs : s.Proper) (now : Instant) (key : String) :
    ((s.retainLive now).makeRoom now key).retainLive now = (s.makeRoom now key).retainLive now := by
  rw [retainLive_makeRoom (hs.retainLive now).fits, retainLive_makeRoom hs.fits,
    retainLive_retainLive]

/-- **A request depends on the live entries only** in what it leaves live. -/
theorem Proper.retainLive_serve (hs : s.Proper) (now : Instant) (r : StoreRequest) :
    ((s.retainLive now).serve now r).retainLive now = (s.serve now r).retainLive now := by
  have hlive := hs.retainLive now
  cases r with
  | setex key ttl value =>
      have hroom := hs.retainLive_makeRoom_retainLive now key
      cases hdeadline : now.after? ttl with
      | some deadline =>
          rw [Store.serve, Store.serve, setex_of_after? hdeadline, setex_of_after? hdeadline,
            retainLive_put, hroom, ← retainLive_put]
      | none =>
          rw [Store.serve, Store.serve, setex_of_not_shown hdeadline, setex_of_not_shown hdeadline,
            hroom]
  | get key =>
      rw [Store.serve, Store.serve, get_snd, get_snd, hlive.distinct.retainLive_dropExpired,
        hs.distinct.retainLive_dropExpired, retainLive_retainLive]
  | delete key =>
      rw [Store.serve, Store.serve, retainLive_delete, retainLive_delete, retainLive_retainLive]
  | contains key => exact retainLive_retainLive s now
  | purge => exact congrArg (Store.retainLive · now) (retainLive_retainLive s now)

/-- A request depends on the live entries only in what it is answered. -/
theorem Proper.answer?_retainLive (hs : s.Proper) (now : Instant) (r : StoreRequest) :
    (s.retainLive now).answer? now r = s.answer? now r := by
  have hget (key : String) : ((s.retainLive now).get now key).1 = (s.get now key).1 :=
    get_serve_of_reads hs.distinct (r := .purge) rfl (Nat.le_refl now) key
  cases r with
  | get key => rw [answer?, answer?, hget]
  | contains key => rw [answer?, answer?, contains_eq, contains_eq, hget]
  | _ => rfl

/-- The entries that are live are found as before by whoever drops an expired one. -/
theorem find?_dropExpired_of_live {k : String} {e : Entry} (hfind : s.find? k = some e)
    (hlive : e.isExpired now = false) : (s.dropExpired now key).find? k = some e := by
  rw [find?_dropExpired]
  split
  · simp [hfind, Option.filter_some, hlive]
  · exact hfind

/-! ### The simulation -/

/-- Two stores with the same live entries, in the same order. -/
structure SameLive (s s' : Store) (now : Instant) : Prop where
  /-- The one store. -/
  left : s.Proper
  /-- The other one. -/
  right : s'.Proper
  /-- They are the same without their expired entries. -/
  live : s.retainLive now = s'.retainLive now

theorem Proper.sameLive (hs : s.Proper) (now : Instant) : SameLive s s now := ⟨hs, hs, rfl⟩

/-- What has expired in the meantime is gone from both. -/
theorem SameLive.advance (h : SameLive s s' now) (hle : now ≤ later) : SameLive s s' later where
  left := h.left
  right := h.right
  live := by
    rw [← retainLive_retainLive_of_le s hle, h.live, retainLive_retainLive_of_le s' hle]

theorem SameLive.serve (h : SameLive s s' now) (r : StoreRequest) :
    SameLive (s.serve now r) (s'.serve now r) now where
  left := h.left.serve now r
  right := h.right.serve now r
  live := by rw [← h.left.retainLive_serve, h.live, h.right.retainLive_serve]

theorem SameLive.answer?_eq (h : SameLive s s' now) (r : StoreRequest) :
    s.answer? now r = s'.answer? now r := by
  rw [← h.left.answer?_retainLive, h.live, h.right.answer?_retainLive]

/-- The second section of a lookup may run in one of the stores alone. -/
theorem SameLive.dropExpired (h : SameLive s s' now) (key : String) :
    SameLive (s.dropExpired now key) s' now where
  left := h.left.dropExpired now key
  right := h.right
  live := (h.left.distinct.retainLive_dropExpired now key).trans h.live

/-- A lookup may run in one of the stores alone. -/
theorem SameLive.get_right (h : SameLive s s' now) (key : String) :
    SameLive s (s'.serve now (.get key)) now where
  left := h.left
  right := h.right.serve now (.get key)
  live := by
    rw [Store.serve, get_snd, h.right.distinct.retainLive_dropExpired]
    exact h.live

end Store

/-! ### Stores with clients -/

/-- What can run next: a section under the lock of the store, or nothing for a while. -/
inductive StoreSection where
  /-- Time passes. -/
  | tick (d : Nat)
  /-- A new client makes a request; of a lookup this is the first section. -/
  | request (r : StoreRequest)
  /-- The second section of the lookup of client `i`, if it needs one. -/
  | finish (i : Nat)

/-- How far a client has come. -/
inductive StoreClient where
  /-- Its lookup has found an expired entry, which the second section is to drop. -/
  | dropping (key : String)
  /-- It has its answer, if it has asked for something. -/
  | answered (answer : Option StoreAnswer)
  deriving DecidableEq

/-- The client once it has run all its sections: the second one of a lookup finds nothing. -/
def StoreClient.settled : StoreClient → StoreClient
  | .dropping _ => .answered (some (.value none))
  | .answered answer => .answered answer

/-- A store with a clock, and the clients that have used it. -/
structure SharedStore where
  /-- The store. -/
  store : Store
  /-- The clock. -/
  clock : Instant
  /-- The clients, in the order of their requests. -/
  clients : List StoreClient := []

/-- The first section of a request.  Only a lookup may need another one. -/
def Store.ask (s : Store) (now : Instant) : StoreRequest → StoreClient × Store
  | .get key =>
    match s.probe now key with
    | .absent => (.answered (some (.value none)), s)
    | .live value => (.answered (some (.value (some value))), s)
    | .expired => (.dropping key, s)
  | r => (.answered (s.answer? now r), s.serve now r)

/-- A request in one section. -/
def Store.askAtOnce (s : Store) (now : Instant) (r : StoreRequest) : StoreClient × Store :=
  (.answered (s.answer? now r), s.serve now r)

namespace SharedStore

/-- An empty store without clients. -/
def start (capacity : Nat) (clock : Instant) : SharedStore := { store := .empty capacity, clock }

/-- The store after one section. -/
def act (s : SharedStore) : StoreSection → SharedStore
  | .tick d => { s with clock := s.clock + d }
  | .request r =>
    let (client, store) := s.store.ask s.clock r
    { s with store, clients := s.clients ++ [client] }
  | .finish i =>
    match s.clients[i]? with
    | some (.dropping key) =>
      { s with
        store := s.store.dropExpired s.clock key
        clients := s.clients.set i (.answered (some (.value none))) }
    | _ => s

/-- The store after one section when no request needs a second one. -/
def actAtOnce (s : SharedStore) : StoreSection → SharedStore
  | .tick d => { s with clock := s.clock + d }
  | .request r =>
    let (client, store) := s.store.askAtOnce s.clock r
    { s with store, clients := s.clients ++ [client] }
  | .finish _ => s

/-- The store after sections in the order given. -/
def run (s : SharedStore) (schedule : List StoreSection) : SharedStore := schedule.foldl act s

/-- The same when no request needs a second section. -/
def runAtOnce (s : SharedStore) (schedule : List StoreSection) : SharedStore :=
  schedule.foldl actAtOnce s

/-- What the simulation keeps: the clocks agree, the live entries agree, and every client that has
its answer has the same one. -/
structure Alike (s s' : SharedStore) : Prop where
  /-- The clocks agree. -/
  clock : s'.clock = s.clock
  /-- The live entries agree. -/
  store : s.store.SameLive s'.store s.clock
  /-- Whoever is still to run a second section has found nothing. -/
  clients : s'.clients = s.clients.map StoreClient.settled

variable {s s' : SharedStore}

/-- A first section answers what the whole request would. -/
theorem settled_ask (s : Store) (now : Instant) (r : StoreRequest) :
    (s.ask now r).1.settled = .answered (s.answer? now r) := by
  cases r with
  | get key =>
      rw [Store.ask, Store.answer?, Store.get]
      cases s.probe now key with
      | absent => rfl
      | live value => rfl
      | expired => rfl
  | _ => rfl

/-- A first section leaves live what the whole request would. -/
theorem sameLive_ask {s s' : Store} {now : Instant} (h : s.SameLive s' now) (r : StoreRequest) :
    (s.ask now r).2.SameLive (s'.serve now r) now := by
  cases r with
  | get key =>
      have hstore : (s.ask now (.get key)).2 = s := by
        rw [Store.ask]
        split <;> rfl
      rw [hstore]
      exact h.get_right key
  | setex key ttl value => exact h.serve (.setex key ttl value)
  | delete key => exact h.serve (.delete key)
  | contains key => exact h.serve (.contains key)
  | purge => exact h.serve .purge

/-- **A section keeps the relation.** -/
theorem Alike.act (h : Alike s s') (x : StoreSection) : Alike (s.act x) (s'.actAtOnce x) := by
  cases x with
  | tick d =>
      exact {
        clock := congrArg (· + d) h.clock
        store := h.store.advance (Nat.le_add_right s.clock d)
        clients := h.clients }
  | request r =>
      refine {
        clock := h.clock
        store := ?_
        clients := ?_ }
      · simp only [SharedStore.act, actAtOnce, Store.askAtOnce, h.clock]
        exact sameLive_ask h.store r
      · simp only [SharedStore.act, actAtOnce, Store.askAtOnce, h.clock, h.clients, List.map_append,
          List.map_cons, List.map_nil, settled_ask, h.store.answer?_eq]
  | finish i =>
      rw [SharedStore.act, actAtOnce]
      split
      · next key hi =>
        refine {
          clock := h.clock
          store := h.store.dropExpired key
          clients := ?_ }
        -- The answer of a second section has been settled by the first one.
        have hsettled : (s.clients.map StoreClient.settled)[i]? =
            some (.answered (some (.value none))) := by
          rw [List.getElem?_map, hi]
          rfl
        obtain ⟨hlt, hget⟩ := List.getElem?_eq_some_iff.1 hsettled
        rw [h.clients, List.map_set, StoreClient.settled, ← hget, List.set_getElem_self]
      · exact h

/-- Schedules keep the relation. -/
theorem Alike.run (h : Alike s s') (schedule : List StoreSection) :
    Alike (s.run schedule) (s'.runAtOnce schedule) := by
  induction schedule generalizing s s' with
  | nil => exact h
  | cons x schedule ih => exact ih (h.act x)

/-- A second section drops an expired entry, or there is none to be run. -/
theorem store_act_finish (s : SharedStore) (i : Nat) :
    (s.act (.finish i)).store = s.store ∨
      ∃ key, (s.act (.finish i)).store = s.store.dropExpired s.clock key := by
  rw [SharedStore.act]
  split
  · next key _ => exact .inr ⟨key, rfl⟩
  · exact .inl rfl

theorem alike_start (capacity : Nat) (clock : Instant) :
    Alike (start capacity clock) (start capacity clock) where
  clock := rfl
  store := (Store.proper_empty capacity).sameLive clock
  clients := rfl

/-- **A lookup in two sections cannot be told from one at a single moment.**  However the sections
of the clients follow each other and whatever time passes between them, the live entries are those
of a store where each lookup is over at its first section, and each client that has its answer has
been answered the same.  A second section, whoever runs it and whenever it comes, removes no entry
that is live at that moment. -/
theorem lookups_linearizable (capacity : Nat) (clock : Instant) (schedule : List StoreSection) :
    let s := (start capacity clock).run schedule
    let s' := (start capacity clock).runAtOnce schedule
    s'.clock = s.clock ∧
    s'.store.retainLive s'.clock = s.store.retainLive s.clock ∧
    s'.clients = s.clients.map StoreClient.settled ∧
    ∀ i, (s.act (.finish i)).store.retainLive s.clock = s.store.retainLive s.clock ∧
      ∀ key e, s.store.find? key = some e → e.isExpired s.clock = false →
        (s.act (.finish i)).store.find? key = some e := by
  intro s s'
  have h : Alike s s' := (alike_start capacity clock).run schedule
  refine ⟨h.clock, ?_, h.clients, fun i => ?_⟩
  · rw [h.clock]
    exact h.store.live.symm
  · obtain hsame | ⟨key, hdrop⟩ := store_act_finish s i
    · rw [hsame]
      exact ⟨rfl, fun _ _ hfind _ => hfind⟩
    · rw [hdrop]
      exact ⟨h.store.left.distinct.retainLive_dropExpired s.clock key,
        fun _ _ hfind hlive => Store.find?_dropExpired_of_live hfind hlive⟩

/-- A key expires and is looked up; before the second section of that lookup it is overwritten.
The lookup has found nothing, and the new value stays. -/
theorem lookups_linearizable_of_overwritten_key :
    let before : List StoreSection := [.request (.setex "a" (.ofSecs 1) [97]),
      .tick nanosPerSecond, .request (.get "a"), .request (.setex "a" (.ofSecs 5) [98])]
    let schedule := before ++ [.finish 1, .request (.get "a")]
    ((start 2 0).run before).clients = [.answered none, .dropping "a", .answered none] ∧
    (((start 2 0).run before).act (.finish 1)).store.find? "a" =
      some ⟨[98], 6 * nanosPerSecond⟩ ∧
    ((start 2 0).runAtOnce schedule).clients = [.answered none, .answered (some (.value none)),
      .answered none, .answered (some (.value (some [98])))] := by
  intro before schedule
  obtain ⟨-, -, -, hkeeps⟩ := lookups_linearizable 2 0 before
  obtain ⟨-, -, hclients, -⟩ := lookups_linearizable 2 0 schedule
  refine ⟨by decide, (hkeeps 1).2 _ _ (by decide) (by decide), ?_⟩
  rw [hclients]
  decide

end SharedStore

end DataTier
