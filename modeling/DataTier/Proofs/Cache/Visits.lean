/-
**Memoized calls one after the other.**

A visit is a call with nothing in between: its lookup, its computation if the lookup has no data,
and its write, which is executed before the next visit begins.  It is put together from the steps of
a call, so visits one after the other are a run of memoized calls.

Main definitions:

* `DataTier.Visit` — a call, its times, and what it would compute;
* `DataTier.Memos.turn`, `Memos.turns` — a visit, and visits one after the other;
* `DataTier.Memos.Fair` — times that do not go back, and room for every write.

Main results:

* `DataTier.Memos.turn_of_hit`, `Memos.turn_of_miss` — what a visit does;
* `DataTier.Memos.run_turns` — visits are a run of memoized calls.
-/

import DataTier.Proofs.Cache.Provenance
import DataTier.Proofs.Store.Refinement

set_option relaxedAutoImplicit false
set_option autoImplicit false

namespace DataTier

/-! ### Visits -/

/-- A memoized call with nothing in between. -/
structure Visit (F : MemoFamily) where
  /-- The prefix of its keys. -/
  keyPrefix : String
  /-- How long its result is to live. -/
  ttl : Duration
  /-- Its arguments. -/
  args : Datum
  /-- When it reads the store. -/
  readAt : Instant
  /-- How long its lookup takes. -/
  elapsed : Double
  /-- What its computation comes to, if it computes. -/
  outcome : Memo.Computed (F.Result keyPrefix)
  /-- When it is over; its write, if it leaves one, is executed then. -/
  endsAt : Instant

namespace Visit

variable {F : MemoFamily}

/-- The memoized computation of a visit. -/
def memo (x : Visit F) : Memo (F.Result x.keyPrefix) := F.memo x.keyPrefix x.ttl

/-- The call of a visit. -/
def call (x : Visit F) (phase : MemoPhase) : MemoCall := ⟨x.keyPrefix, x.ttl, x.args, phase⟩

/-- The bytes that a visit leaves to be stored if it computes. -/
def bytes? (x : Visit F) : Option Bytes := x.memo.bytes? x.outcome

/-- A visit that is answered from the store. -/
def hit (x : Visit F) (i : Nat) (key : String) (data : F.Result x.keyPrefix) : MemoEvent F :=
  .returned i x.keyPrefix x.args (some x.readAt) (.ok (some key) (.hit data x.elapsed))

/-- A visit that computes, and how it is answered. -/
def computes (x : Visit F) (i : Nat) (answer : Memo.Answer (F.Result x.keyPrefix)) :
    List (MemoEvent F) :=
  [.computed i x.keyPrefix x.ttl x.args x.outcome, .returned i x.keyPrefix x.args none answer]

/-- The write of a visit that has computed, unless the clock cannot show its deadline. -/
def writes (x : Visit F) (i : Nat) : List (MemoEvent F) :=
  if x.bytes?.isSome ∧ (x.endsAt.after? x.ttl).isSome then [.wrote i x.endsAt] else []

/-- The store that a visit leaves behind if it computes under a key. -/
def leaves (x : Visit F) (store : Store) (key : String) : Store :=
  match x.bytes? with
  | none => store
  | some bs => (store.setex x.endsAt key x.ttl bs).2

end Visit

namespace Memos

variable {F : MemoFamily} {s s' : Memos F}

/-- The time is another one. -/
def withClock (s : Memos F) (t : Instant) : Memos F := { s with clock := t }

/-- Call `i` looks its key up, if that is what it is to do. -/
def look (s : Memos F) (i : Nat) (x : Visit F) : Memos F :=
  match (s.calls[i]?).map MemoCall.phase with
  | some (.asking key) =>
    (s.withStore (s.client.state.get s.clock key).2).answer i (x.call (.asking key)) key
      (some s.clock) x.elapsed (.ok (s.client.state.get s.clock key).1)
  | _ => s

/-- Call `i` computes, if that is what it is to do. -/
def compute (s : Memos F) (i : Nat) (x : Visit F) : Memos F :=
  match (s.calls[i]?).map MemoCall.phase with
  | some (.computing key) => s.conclude i (x.call (.computing key)) key x.elapsed x.outcome
  | _ => s

/-- The call of a visit, from its begin to its answer. -/
def enter (s : Memos F) (x : Visit F) : Memos F :=
  (((s.withClock x.readAt).begin x.keyPrefix x.ttl x.args).look s.calls.length x).compute
    s.calls.length x

/-- Write `k` is executed, and reported if it has not broken down. -/
def settle (s : Memos F) (k : Nat) : Memos F :=
  match s.writes[k]? with
  | none => s
  | some w =>
    let landed := s.land k w
    match s.clock.after? w.write.ttl with
    | none => landed
    | some _ =>
      { landed with
        client := landed.client.finishWriteBack w.write.key w.write.ttl w.write.value.length
          (.ok ())
        writes := landed.writes.set k { w with landed := true, reported := true } }

/-- **A visit**: its call, and its write. -/
def turn (s : Memos F) (x : Visit F) : Memos F :=
  ((s.enter x).withClock x.endsAt).settle s.writes.length

/-- Visits one after the other. -/
def turns (s : Memos F) (xs : List (Visit F)) : Memos F := xs.foldl turn s

/-- A client of a store that holds something, before any call. -/
def startWith (F : MemoFamily) (store : Store) (opTimeout : Duration) (clock : Instant) : Memos F :=
  (start F store.capacity opTimeout clock).withStore store

/-- The write of a visit, if it leaves one, finds fewer other keys visible than there is room
for. -/
def FindsRoom (s : Memos F) (x : Visit F) : Prop :=
  ∀ w, (s.enter x).writes[s.writes.length]? = some w →
    FewerThan (s.enter x).client.state.room fun k =>
      k ≠ w.write.key ∧ (s.enter x).client.state.contains x.endsAt k = true

/-- **Visits that can follow**: times do not go back, and every write finds room. -/
def Fair (s : Memos F) : List (Visit F) → Prop
  | [] => True
  | x :: xs => s.clock ≤ x.readAt ∧ x.readAt ≤ x.endsAt ∧ s.FindsRoom x ∧ (s.turn x).Fair xs

/-! ### What a visit does -/

/-- What a visit has done to the calls, apart from the write that it leaves. -/
structure Entered (s : Memos F) (x : Visit F) (store : Store) (writes : List MemoWriting)
    (new : List (MemoEvent F)) (s' : Memos F) : Prop where
  backend : s'.client.backend = s.client.backend
  state : s'.client.state = store
  clock : s'.clock = x.readAt
  length : s'.calls.length = s.calls.length + 1
  writes : s'.writes = s.writes ++ writes
  trace : s'.trace = s.trace ++ new

/-- A call that has a key is to look it up. -/
theorem entered_begin (hb : s.client.backend = some Store.backend) {x : Visit F} {key : String}
    (hkey : x.memo.keyFor x.args = .ok key) :
    ∃ s', (s.withClock x.readAt).begin x.keyPrefix x.ttl x.args = s' ∧
      Entered s x s.client.state [] [] s' ∧
      s'.calls[s.calls.length]? = some (x.call (.asking key)) := by
  have hplan : (F.memo x.keyPrefix x.ttl).plan (s.withClock x.readAt).client x.args =
      (.look key, s.client) := plan_eq_look hb hkey
  refine ⟨_, begin_eq hplan, ⟨rfl, rfl, rfl, ?_, ?_, ?_⟩, ?_⟩
  · simp [withClock]
  · simp [withClock]
  · simp [withClock]
  · simp [withClock, Visit.call, MemoPhase.ofPlan]

/-- A call without a key is to compute. -/
theorem entered_begin_of_error {x : Visit F} {fault : Datum.Fault}
    (hkey : x.memo.keyFor x.args = .error fault) :
    ∃ s', (s.withClock x.readAt).begin x.keyPrefix x.ttl x.args = s' ∧
      Entered s x s.client.state [] [] s' ∧
      s'.calls[s.calls.length]? = some (x.call (.computing none)) := by
  have hsame := (F.memo x.keyPrefix x.ttl).same_plan (s.withClock x.readAt).client x.args
  rcases hplan : (F.memo x.keyPrefix x.ttl).plan (s.withClock x.readAt).client x.args with
    ⟨plan, client⟩
  rw [hplan] at hsame
  cases plan with
  | look key =>
    have hlook := Memo.plan_eq_look_iff.1 (congrArg Prod.fst hplan)
    rw [Visit.memo, hlook.2] at hkey
    cases hkey
  | bypass =>
    refine ⟨_, begin_eq hplan, ⟨hsame.backend, hsame.state, rfl, ?_, ?_, ?_⟩, ?_⟩
    · simp [withClock]
    · simp [withClock]
    · simp [withClock]
    · simp [withClock, Visit.call, MemoPhase.ofPlan]

theorem look_eq {i : Nat} {x : Visit F} {key : String}
    (hi : s.calls[i]? = some (x.call (.asking key))) :
    s.look i x = (s.withStore (s.client.state.get s.clock key).2).answer i (x.call (.asking key))
      key (some s.clock) x.elapsed (.ok (s.client.state.get s.clock key).1) := by
  rw [look, hi]
  rfl

/-- The lookup of a call ends as a hit when the bytes that are visible are a result; otherwise the
call goes on to compute. -/
theorem entered_look {x : Visit F} {store : Store} {key : String}
    (h : Entered s x store [] [] s')
    (hi : s'.calls[s.calls.length]? = some (x.call (.asking key))) :
    match (store.get x.readAt key).1.bind x.memo.codec.decode? with
    | some data =>
      Entered s x (store.get x.readAt key).2 [] [x.hit s.calls.length key data]
          (s'.look s.calls.length x) ∧
        (s'.look s.calls.length x).calls[s.calls.length]? = some (x.call .ended)
    | none =>
      Entered s x (store.get x.readAt key).2 [] [] (s'.look s.calls.length x) ∧
        (s'.look s.calls.length x).calls[s.calls.length]? =
          some (x.call (.computing (some key))) := by
  have hlt := (List.getElem?_eq_some_iff.1 hi).1
  rw [look_eq hi, h.state, h.clock]
  rcases store.get x.readAt key with ⟨found, store'⟩
  -- The client after the lookup is known only up to its statistics and its log.
  have hsame := x.memo.same_afterLookup (s'.withStore store').client key (.ok found)
  have hfirst := x.memo.afterLookup_ok (s'.withStore store').client key found
  rcases hlookup : x.memo.afterLookup (s'.withStore store').client key (.ok found) with
    ⟨lookup, client⟩
  have hlookup' : ((s'.withStore store').memo (x.call (.asking key))).afterLookup
      (s'.withStore store').client key (.ok found) = (lookup, client) := hlookup
  rw [hlookup] at hsame hfirst
  unfold Memos.answer
  rw [hlookup']
  cases hfound : found.bind x.memo.codec.decode? with
  | some data =>
    rw [hfound] at hfirst
    obtain rfl : lookup = .hit key data := hfirst
    refine ⟨⟨hsame.backend.trans h.backend, hsame.state, h.clock, ?_, h.writes, ?_⟩, ?_⟩
    · simp [advance, withStore, h.length]
    · simp [withStore, h.trace, Visit.hit, Visit.call]
    · simp [advance, withStore, hlt, Visit.call]
  | none =>
    rw [hfound] at hfirst
    obtain rfl : lookup = .miss key := hfirst
    refine ⟨⟨hsame.backend.trans h.backend, hsame.state, h.clock, ?_, h.writes, h.trace⟩, ?_⟩
    · simp [advance, withStore, h.length]
    · simp [advance, withStore, hlt, Visit.call]

/-- A call that is to compute does so. -/
theorem entered_compute {x : Visit F} {store : Store} {key : Option String}
    (h : Entered s x store [] [] s')
    (hi : s'.calls[s.calls.length]? = some (x.call (.computing key))) :
    ∃ answer, answer.isHit = false ∧ answer.outcome = x.outcome ∧
      Entered s x store
        (key.bind fun key => x.bytes?.map fun bs =>
          ⟨s.calls.length, ⟨key, x.ttl, bs⟩, false, false⟩).toList
        (x.computes s.calls.length answer) (s'.compute s.calls.length x) := by
  have hsame := x.memo.same_conclude s'.client key x.elapsed x.outcome
  have hwrite := x.memo.write_conclude s'.client key x.elapsed x.outcome
  obtain ⟨houtcome, hmiss⟩ := x.memo.outcome_conclude s'.client key x.elapsed x.outcome
  rcases hconclude : x.memo.conclude s'.client key x.elapsed x.outcome with
    ⟨answer, write, client⟩
  rw [hconclude] at hsame hwrite houtcome hmiss
  have hcompute : s'.compute s.calls.length x =
      { s'.advance s.calls.length (x.call (.computing key)) .ended with
        client
        writes := s'.writes ++ write.toList.map (⟨s.calls.length, ·, false, false⟩)
        trace := s'.trace ++ x.computes s.calls.length answer } := by
    rw [compute, hi]
    show s'.conclude s.calls.length (x.call (.computing key)) key x.elapsed x.outcome = _
    unfold Memos.conclude
    rw [show (s'.memo (x.call (.computing key))).conclude s'.client key x.elapsed x.outcome =
      (answer, write, client) from hconclude]
    rfl
  rw [hcompute]
  refine ⟨answer, hmiss, houtcome, hsame.backend.trans h.backend, hsame.state.trans h.state,
    h.clock, ?_, ?_, ?_⟩
  · simp [advance, h.length]
  · obtain rfl : write = _ := hwrite
    rw [h.writes, List.append_nil]
    cases key with
    | none => rfl
    | some key =>
      simp only [Option.bind_some, Visit.bytes?]
      cases x.memo.bytes? x.outcome <;> rfl
  · rw [h.trace, List.append_nil]

theorem enter_of_hit (hb : s.client.backend = some Store.backend) {x : Visit F} {key : String}
    (hkey : x.memo.keyFor x.args = .ok key) {data : F.Result x.keyPrefix}
    (hfound : (s.client.state.get x.readAt key).1.bind x.memo.codec.decode? = some data) :
    Entered s x (s.client.state.get x.readAt key).2 [] [x.hit s.calls.length key data]
      (s.enter x) := by
  obtain ⟨s', hbegin, hentered, hi⟩ := entered_begin hb hkey
  have hlook := entered_look hentered hi
  rw [hfound] at hlook
  obtain ⟨hlooked, hended⟩ := hlook
  rw [enter, hbegin, compute, hended]
  exact hlooked

theorem enter_of_miss (hb : s.client.backend = some Store.backend) {x : Visit F} {key : String}
    (hkey : x.memo.keyFor x.args = .ok key)
    (hmissing : (s.client.state.get x.readAt key).1.bind x.memo.codec.decode? = none) :
    ∃ answer, answer.isHit = false ∧ answer.outcome = x.outcome ∧
      Entered s x (s.client.state.get x.readAt key).2
        (x.bytes?.map fun bs => ⟨s.calls.length, ⟨key, x.ttl, bs⟩, false, false⟩).toList
        (x.computes s.calls.length answer) (s.enter x) := by
  obtain ⟨s', hbegin, hentered, hi⟩ := entered_begin hb hkey
  have hlook := entered_look hentered hi
  rw [hmissing] at hlook
  obtain ⟨hlooked, hcomputing⟩ := hlook
  rw [enter, hbegin]
  exact entered_compute hlooked hcomputing

theorem enter_of_error {x : Visit F} {fault : Datum.Fault}
    (hkey : x.memo.keyFor x.args = .error fault) :
    ∃ answer, answer.isHit = false ∧ answer.outcome = x.outcome ∧
      Entered s x s.client.state [] (x.computes s.calls.length answer) (s.enter x) := by
  obtain ⟨s', hbegin, hentered, hi⟩ := entered_begin_of_error hkey
  have hlook : s'.look s.calls.length x = s' := by
    rw [look, hi]
    rfl
  rw [enter, hbegin, hlook]
  exact entered_compute hentered hi

/-- What a whole visit has done. -/
structure Turned (s : Memos F) (x : Visit F) (store : Store) (new : List (MemoEvent F))
    (s' : Memos F) : Prop where
  backend : s'.client.backend = s.client.backend
  state : s'.client.state = store
  clock : s'.clock = x.endsAt
  length : s'.calls.length = s.calls.length + 1
  trace : s'.trace = s.trace ++ new

/-- A visit that leaves no write is over with its call. -/
theorem turned_of_no_write {x : Visit F} {store : Store} {new : List (MemoEvent F)}
    (h : Entered s x store [] new (s.enter x)) : Turned s x store new (s.turn x) := by
  have hnone : (s.enter x).writes[s.writes.length]? = none := by
    rw [h.writes, List.append_nil, List.getElem?_eq_none (Nat.le_refl _)]
  have hturn : s.turn x = (s.enter x).withClock x.endsAt := by
    unfold turn settle
    rw [show ((s.enter x).withClock x.endsAt).writes[s.writes.length]? = none from hnone]
  rw [hturn]
  exact ⟨h.backend, h.state, rfl, h.length, h.trace⟩

/-- A write that a visit leaves is executed. -/
theorem turned_of_write (hb : s.client.backend = some Store.backend) {x : Visit F} {store : Store}
    {w : MemoWriting} {new : List (MemoEvent F)} (h : Entered s x store [w] new (s.enter x)) :
    Turned s x (store.setex x.endsAt w.write.key w.write.ttl w.write.value).2
      (new ++ if (x.endsAt.after? w.write.ttl).isSome then [.wrote w.call x.endsAt] else [])
      (s.turn x) := by
  have hwrite : ((s.enter x).withClock x.endsAt).writes[s.writes.length]? = some w := by
    rw [withClock, h.writes, List.getElem?_append_right (Nat.le_refl _), Nat.sub_self]
    rfl
  have hb' : ((s.enter x).withClock x.endsAt).client.backend = some Store.backend :=
    h.backend.trans hb
  unfold turn settle
  rw [hwrite]
  cases hafter : x.endsAt.after? w.write.ttl with
  -- A deadline that the clock cannot show breaks the write down once it has made room.
  | none =>
    have hafter' : ((s.enter x).withClock x.endsAt).clock.after? w.write.ttl = none := hafter
    simp only [hafter', land_of_not_shown hb' hafter']
    refine ⟨h.backend, ?_, rfl, h.length, ?_⟩
    · simp [withStore, withClock, h.state, Store.setex, Entry.create?, hafter]
    · simpa [withStore, withClock] using h.trace
  | some deadline =>
    have hafter' : ((s.enter x).withClock x.endsAt).clock.after? w.write.ttl = some deadline :=
      hafter
    simp only [hafter', land_of_shown hb' hafter']
    refine ⟨?_, ?_, rfl, h.length, ?_⟩
    · exact (Client.same_finishWriteBack ..).backend.trans h.backend
    · rw [(Client.same_finishWriteBack ..).state, Store.setex_of_after? hafter]
      simp [withStore, withClock, h.state]
    · simp [withClock, h.trace]

/-- **A visit whose key is visible, with bytes that are a result**, is answered with it. -/
theorem turn_of_hit (hb : s.client.backend = some Store.backend) {x : Visit F} {key : String}
    (hkey : x.memo.keyFor x.args = .ok key) {data : F.Result x.keyPrefix}
    (hfound : (s.client.state.get x.readAt key).1.bind x.memo.codec.decode? = some data) :
    Turned s x (s.client.state.get x.readAt key).2 [x.hit s.calls.length key data] (s.turn x) :=
  turned_of_no_write (enter_of_hit hb hkey hfound)

/-- **A visit whose key is not visible, or with bytes that are no result**, computes and writes. -/
theorem turn_of_miss (hb : s.client.backend = some Store.backend) {x : Visit F} {key : String}
    (hkey : x.memo.keyFor x.args = .ok key)
    (hmissing : (s.client.state.get x.readAt key).1.bind x.memo.codec.decode? = none) :
    ∃ answer, answer.isHit = false ∧ answer.outcome = x.outcome ∧
      Turned s x (x.leaves (s.client.state.get x.readAt key).2 key)
        (x.computes s.calls.length answer ++ x.writes s.calls.length) (s.turn x) := by
  obtain ⟨answer, hmiss, houtcome, hentered⟩ := enter_of_miss hb hkey hmissing
  refine ⟨answer, hmiss, houtcome, ?_⟩
  unfold Visit.leaves Visit.writes
  cases hbytes : x.bytes? with
  | none =>
    rw [hbytes] at hentered
    simpa using turned_of_no_write hentered
  | some bs =>
    rw [hbytes] at hentered
    simpa using turned_of_write hb hentered

/-- A visit without a key computes, and leaves the store alone. -/
theorem turn_of_error {x : Visit F} {fault : Datum.Fault}
    (hkey : x.memo.keyFor x.args = .error fault) :
    ∃ answer, answer.isHit = false ∧ answer.outcome = x.outcome ∧
      Turned s x s.client.state (x.computes s.calls.length answer) (s.turn x) := by
  obtain ⟨answer, hmiss, houtcome, hentered⟩ := enter_of_error hkey
  exact ⟨answer, hmiss, houtcome, turned_of_no_write hentered⟩

/-! ### Visits are runs -/

theorem run_withClock {t : Instant} (h : s.clock ≤ t) : Run s (s.withClock t) := by
  have htick := Relation.ReflTransGen.single (Step.tick (s := s) (t - s.clock))
  rwa [Nat.add_sub_of_le h] at htick

theorem run_look {i : Nat} {x : Visit F} {phase : MemoPhase}
    (hi : s.calls[i]? = some (x.call phase)) :
    Run s (s.look i x) ∧ ∃ phase', (s.look i x).calls[i]? = some (x.call phase') := by
  have hlt := (List.getElem?_eq_some_iff.1 hi).1
  cases phase with
  | asking key =>
    rw [look_eq hi]
    refine ⟨run_lookup hi rfl x.elapsed, ?_⟩
    unfold Memos.answer
    split
    · exact ⟨.ended, by simp [advance, withStore, hlt, Visit.call]⟩
    · next k client hlookup =>
      exact ⟨.computing (some k), by simp [advance, withStore, hlt, Visit.call]⟩
    · exact ⟨.computing none, by simp [advance, withStore, hlt, Visit.call]⟩
  | _ =>
    rw [look, hi]
    exact ⟨.refl, _, hi⟩

theorem run_compute {i : Nat} {x : Visit F} {phase : MemoPhase}
    (hi : s.calls[i]? = some (x.call phase)) : Run s (s.compute i x) := by
  rw [compute, hi]
  cases phase with
  | computing key => exact .single (.conclude hi rfl x.elapsed x.outcome)
  | _ => exact .refl

theorem run_enter {x : Visit F} (h : s.clock ≤ x.readAt) : Run s (s.enter x) := by
  rcases hplan : (F.memo x.keyPrefix x.ttl).plan (s.withClock x.readAt).client x.args with
    ⟨plan, client⟩
  have hbegin := (run_withClock h).tail (.begin x.keyPrefix x.ttl x.args)
  have hi : ((s.withClock x.readAt).begin x.keyPrefix x.ttl x.args).calls[s.calls.length]? =
      some (x.call (.ofPlan plan)) := by
    rw [begin_eq hplan]
    simp [withClock, Visit.call]
  obtain ⟨hlook, phase, hi'⟩ := run_look hi
  exact (hbegin.trans hlook).trans (run_compute hi')

theorem run_settle {k : Nat}
    (h : ∀ w, s.writes[k]? = some w → w.landed = false ∧ w.reported = false) :
    Run s (s.settle k) := by
  unfold settle
  cases hk : s.writes[k]? with
  | none => exact .refl
  | some w =>
    obtain ⟨hlanded, hreported⟩ := h w hk
    have hland := Relation.ReflTransGen.single (Step.land hk hlanded)
    have hk' : (s.land k w).writes[k]? = some { w with landed := true } := by
      have hlt := (List.getElem?_eq_some_iff.1 hk).1
      unfold land
      split <;> simp [hlt]
    cases hafter : s.clock.after? w.write.ttl with
    | none => simpa [hafter] using hland
    | some deadline =>
      have hreport := hland.tail (Step.report hk' hreported (.ok ()))
      simpa [hafter] using hreport

/-- The write that a visit leaves, if it leaves one. -/
theorem getElem?_writes_enter (hb : s.client.backend = some Store.backend) {x : Visit F}
    {w : MemoWriting} (hw : (s.enter x).writes[s.writes.length]? = some w) :
    ∃ key bs, x.memo.keyFor x.args = .ok key ∧ x.bytes? = some bs ∧
      w = ⟨s.calls.length, ⟨key, x.ttl, bs⟩, false, false⟩ := by
  have hlast {new : List MemoWriting} (h : (s.enter x).writes = s.writes ++ new) :
      new[0]? = some w := by
    rwa [h, List.getElem?_append_right (Nat.le_refl _), Nat.sub_self] at hw
  cases hkey : x.memo.keyFor x.args with
  | error fault =>
    obtain ⟨answer, -, -, hentered⟩ := enter_of_error hkey
    cases hlast hentered.writes
  | ok key =>
    cases hfound : (s.client.state.get x.readAt key).1.bind x.memo.codec.decode? with
    | some data => cases hlast (enter_of_hit hb hkey hfound).writes
    | none =>
      obtain ⟨answer, -, -, hentered⟩ := enter_of_miss hb hkey hfound
      cases hbytes : x.bytes? with
      | none =>
        rw [hbytes] at hentered
        cases hlast hentered.writes
      | some bs =>
        rw [hbytes] at hentered
        exact ⟨key, bs, rfl, rfl, (Option.some.inj (hlast hentered.writes)).symm⟩

theorem clock_enter (hb : s.client.backend = some Store.backend) (x : Visit F) :
    (s.enter x).clock = x.readAt := by
  cases hkey : x.memo.keyFor x.args with
  | error fault =>
    obtain ⟨answer, -, -, hentered⟩ := enter_of_error hkey
    exact hentered.clock
  | ok key =>
    cases hfound : (s.client.state.get x.readAt key).1.bind x.memo.codec.decode? with
    | some data => exact (enter_of_hit hb hkey hfound).clock
    | none =>
      obtain ⟨answer, -, -, hentered⟩ := enter_of_miss hb hkey hfound
      exact hentered.clock

/-- **A visit is a run** of memoized calls. -/
theorem run_turn (hb : s.client.backend = some Store.backend) {x : Visit F}
    (hreads : s.clock ≤ x.readAt) (hends : x.readAt ≤ x.endsAt) : Run s (s.turn x) := by
  have hclock : (s.enter x).clock ≤ x.endsAt := by rwa [clock_enter hb]
  refine ((run_enter hreads).trans (run_withClock hclock)).trans (run_settle ?_)
  intro w hw
  obtain ⟨key, bs, -, -, rfl⟩ := getElem?_writes_enter hb hw
  exact ⟨rfl, rfl⟩

theorem turned_turn (hb : s.client.backend = some Store.backend) (x : Visit F) :
    ∃ store new, Turned s x store new (s.turn x) := by
  cases hkey : x.memo.keyFor x.args with
  | error fault =>
    obtain ⟨answer, -, -, hturned⟩ := turn_of_error hkey
    exact ⟨_, _, hturned⟩
  | ok key =>
    cases hfound : (s.client.state.get x.readAt key).1.bind x.memo.codec.decode? with
    | some data => exact ⟨_, _, turn_of_hit hb hkey hfound⟩
    | none =>
      obtain ⟨answer, -, -, hturned⟩ := turn_of_miss hb hkey hfound
      exact ⟨_, _, hturned⟩

/-- **Visits one after the other are a run.** -/
theorem run_turns {xs : List (Visit F)} (hb : s.client.backend = some Store.backend)
    (h : s.Fair xs) : Run s (s.turns xs) := by
  induction xs generalizing s with
  | nil => exact .refl
  | cons x xs ih =>
    obtain ⟨hreads, hends, -, hrest⟩ := h
    obtain ⟨store, new, hturned⟩ := turned_turn hb x
    exact (run_turn hb hreads hends).trans (ih (hturned.backend.trans hb) hrest)

end Memos

end DataTier
