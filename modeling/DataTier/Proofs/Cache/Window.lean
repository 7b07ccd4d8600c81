/-
**One computation for each key and window.**

Under one key there is at most one result at a time that was written and still lives.  A visit is
answered with it, and computes only when there is none.

Bytes that were stored before the first visit do no harm as long as they are no results; they may
still take room.  Room has to be found by every write: a store that is full lets go of a result that
still lives, even for one that never lives.

Main definitions:

* `DataTier.Deposit` — a result that has been computed and written;
* `DataTier.Store.Thins` — losing entries, but none that lives;
* `DataTier.Memos.Current` — the invariant: what lives is stored.

Main results:

* `DataTier.Memos.Current.turn` — a visit keeps the invariant;
* `DataTier.Memos.one_computation_per_window` — when a visit is answered from the store.
-/

import DataTier.Proofs.Cache.Visits

set_option relaxedAutoImplicit false
set_option autoImplicit false

namespace DataTier

/-! ### What has been written -/

/-- The call to which something happens. -/
def MemoEvent.call {F : MemoFamily} : MemoEvent F → Nat
  | .computed i _ _ _ _ => i
  | .wrote i _ => i
  | .returned i _ _ _ _ => i

/-- A result that a call has computed, and when it was written. -/
structure Deposit (F : MemoFamily) where
  /-- The call. -/
  call : Nat
  /-- The prefix of its keys. -/
  keyPrefix : String
  /-- How long the result lives. -/
  ttl : Duration
  /-- The arguments of the call. -/
  args : Datum
  /-- The result. -/
  data : F.Result keyPrefix
  /-- When it was written. -/
  time : Instant

namespace Deposit

variable {F : MemoFamily} {d : Deposit F} {old new : List (MemoEvent F)} {i : Nat}

/-- The first moment at which the result does not live any more. -/
def deadline (d : Deposit F) : Instant := d.time + d.ttl.nanos

/-- The call has the key. -/
def Under (d : Deposit F) (key : String) : Prop :=
  (F.memo d.keyPrefix d.ttl).keyFor d.args = .ok key

/-- The call has computed the result, and its write was executed. -/
def In (d : Deposit F) (trace : List (MemoEvent F)) : Prop :=
  .computed d.call d.keyPrefix d.ttl d.args (.ok d.data) ∈ trace ∧ .wrote d.call d.time ∈ trace

/-- The result was written under the key, and lives at this time. -/
structure Covers (d : Deposit F) (trace : List (MemoEvent F)) (key : String) (t : Instant) :
    Prop where
  mem : d.In trace
  under : d.Under key
  written : d.time ≤ t
  lives : t < d.deadline

/-- What happens to different calls does not make a deposit. -/
theorem in_append_iff (hold : ∀ e ∈ old, e.call < i) (hnew : ∀ e ∈ new, e.call = i) :
    d.In (old ++ new) ↔ d.In old ∨ d.In new := by
  constructor
  · rintro ⟨hcomputed, hwrote⟩
    obtain hcomputed | hcomputed := List.mem_append.1 hcomputed
    · obtain hwrote | hwrote := List.mem_append.1 hwrote
      · exact .inl ⟨hcomputed, hwrote⟩
      · have hlt : d.call < i := hold _ hcomputed
        have heq : d.call = i := hnew _ hwrote
        exact absurd heq (Nat.ne_of_lt hlt)
    · obtain hwrote | hwrote := List.mem_append.1 hwrote
      · have hlt : d.call < i := hold _ hwrote
        have heq : d.call = i := hnew _ hcomputed
        exact absurd heq (Nat.ne_of_lt hlt)
      · exact .inr ⟨hcomputed, hwrote⟩
  · rintro (⟨hcomputed, hwrote⟩ | ⟨hcomputed, hwrote⟩)
    · exact ⟨List.mem_append_left _ hcomputed, List.mem_append_left _ hwrote⟩
    · exact ⟨List.mem_append_right _ hcomputed, List.mem_append_right _ hwrote⟩

end Deposit

namespace Visit

variable {F : MemoFamily} {x : Visit F} {i : Nat} {d : Deposit F}

theorem mem_writes_iff {e : MemoEvent F} :
    e ∈ x.writes i ↔
      (∃ data bs, x.outcome = .ok data ∧ (F.codec x.keyPrefix).encode data = .ok bs) ∧
      (x.endsAt.after? x.ttl).isSome ∧ e = .wrote i x.endsAt := by
  have hbytes : x.bytes?.isSome ↔
      ∃ data bs, x.outcome = .ok data ∧ (F.codec x.keyPrefix).encode data = .ok bs := by
    rw [Option.isSome_iff_exists]
    constructor
    · rintro ⟨bs, hbs⟩
      obtain ⟨data, hdata, hencode⟩ := Memo.bytes?_eq_some_iff.1 hbs
      exact ⟨data, bs, hdata, hencode⟩
    · rintro ⟨data, bs, hdata, hencode⟩
      exact ⟨bs, Memo.bytes?_eq_some_iff.2 ⟨data, hdata, hencode⟩⟩
  rw [← hbytes]
  unfold writes
  split
  · next h => simp [h]
  · next h =>
    constructor
    · intro he
      cases he
    · rintro ⟨hsome, hshown, -⟩
      exact absurd ⟨hsome, hshown⟩ h

theorem call_eq_of_mem {answer : Memo.Answer (F.Result x.keyPrefix)} {e : MemoEvent F}
    (he : e ∈ x.computes i answer ++ x.writes i) : e.call = i := by
  obtain he | he := List.mem_append.1 he
  · rcases List.mem_pair.1 he with rfl | rfl <;> rfl
  · obtain ⟨-, -, rfl⟩ := mem_writes_iff.1 he
    rfl

/-- **The deposit that a visit makes** if it computes. -/
theorem in_computes_iff {answer : Memo.Answer (F.Result x.keyPrefix)} :
    d.In (x.computes i answer ++ x.writes i) ↔
      ∃ data bs, x.outcome = .ok data ∧ (F.codec x.keyPrefix).encode data = .ok bs ∧
        (x.endsAt.after? x.ttl).isSome ∧
        d = ⟨i, x.keyPrefix, x.ttl, x.args, data, x.endsAt⟩ := by
  constructor
  · rintro ⟨hcomputed, hwrote⟩
    have hcomputed : .computed d.call d.keyPrefix d.ttl d.args (.ok d.data) =
        (.computed i x.keyPrefix x.ttl x.args x.outcome : MemoEvent F) := by
      obtain hmem | hmem := List.mem_append.1 hcomputed
      · rcases List.mem_pair.1 hmem with heq | heq
        · exact heq
        · cases heq
      · obtain ⟨-, -, heq⟩ := mem_writes_iff.1 hmem
        cases heq
    have hwrote : .wrote d.call d.time ∈ x.writes i := by
      obtain hmem | hmem := List.mem_append.1 hwrote
      · rcases List.mem_pair.1 hmem with heq | heq <;> cases heq
      · exact hmem
    obtain ⟨⟨data, bs, hdata, hencode⟩, hshown, htime⟩ := mem_writes_iff.1 hwrote
    refine ⟨data, bs, hdata, hencode, hshown, ?_⟩
    obtain ⟨j, p, ttl, args, data', time⟩ := d
    rw [hdata] at hcomputed
    obtain ⟨rfl, rfl, rfl, rfl, hsame⟩ := MemoEvent.computed.inj hcomputed
    obtain rfl := Memo.Computed.ok.inj (eq_of_heq hsame)
    obtain ⟨-, rfl⟩ := MemoEvent.wrote.inj htime
    rfl
  · rintro ⟨data, bs, hdata, hencode, hshown, rfl⟩
    refine ⟨List.mem_append_left _ ?_, List.mem_append_right _ ?_⟩
    · rw [← hdata]
      exact List.mem_cons_self
    · exact mem_writes_iff.2 ⟨⟨data, bs, hdata, hencode⟩, hshown, rfl⟩

end Visit

/-! ### Stores that lose nothing that lives -/

namespace Store

variable {s s' s'' : Store} {now later : Instant} {key : String}

/-- A store that has lost entries, but none that lives. -/
structure Thins (s s' : Store) (now : Instant) : Prop where
  sublist : s'.entries.Sublist s.entries
  live : ∀ key e, s.find? key = some e → now < e.expiresAt → s'.find? key = some e

theorem Thins.mono (h : s.Thins s' now) (hle : now ≤ later) : s.Thins s' later where
  sublist := h.sublist
  live key e he hlive := h.live key e he (Nat.lt_of_le_of_lt hle hlive)

theorem Thins.trans (h : s.Thins s' now) (h' : s'.Thins s'' now) : s.Thins s'' now where
  sublist := h'.sublist.trans h.sublist
  live key e he hlive := h'.live key e (h.live key e he hlive) hlive

theorem thins_get (s : Store) (now : Instant) (key : String) : s.Thins (s.get now key).2 now := by
  rw [get_snd]
  refine ⟨dropExpired_sublist s now key, ?_⟩
  intro k e he hlive
  rw [find?_dropExpired, he]
  split
  · rw [Option.filter_some, Entry.isExpired_eq_false_iff.2 hlive]
    rfl
  · rfl

theorem Distinct.thins_makeRoom (hs : s.Distinct)
    (hfew : FewerThan s.room fun k => k ≠ key ∧ s.contains now k = true) :
    s.Thins (s.makeRoom now key) now where
  sublist := makeRoom_sublist s now key
  live _ _ he hlive := hs.find?_makeRoom hfew he hlive

/-- A lookup that finds something leaves the store as it is. -/
theorem get_snd_of_found {bs : Bytes} (h : (s.get now key).1 = some bs) :
    (s.get now key).2 = s := by
  unfold get at h ⊢
  cases hprobe : s.probe now key with
  | live value => rfl
  | absent => rfl
  | expired =>
    rw [hprobe] at h
    cases h

end Store

namespace Memos

variable {F : MemoFamily} {s s' : Memos F} {store₀ store : Store} {x : Visit F} {key : String}
  {new : List (MemoEvent F)}

/-! ### The invariant -/

/-- **The invariant**: what lives is stored, and is alone under its key; and what is stored has been
written, or was there before. -/
structure Current (store₀ : Store) (s : Memos F) : Prop where
  backend : s.client.backend = some Store.backend
  distinct : s.client.state.Distinct
  calls : ∀ e ∈ s.trace, e.call < s.calls.length
  past : ∀ d : Deposit F, d.In s.trace → d.time ≤ s.clock
  origin : ∀ key e, s.client.state.find? key = some e → store₀.find? key = some e ∨
    ∃ d : Deposit F, d.In s.trace ∧ d.Under key ∧
      (F.codec d.keyPrefix).encode d.data = .ok e.value ∧ e.expiresAt = d.deadline
  held : ∀ (d : Deposit F) key, d.In s.trace → d.Under key → s.clock < d.deadline →
    ∃ bs, (F.codec d.keyPrefix).encode d.data = .ok bs ∧
      s.client.state.find? key = some ⟨bs, d.deadline⟩
  alone : ∀ (d d' : Deposit F) key, d.In s.trace → d'.In s.trace → d.Under key → d'.Under key →
    s.clock < d.deadline → s.clock < d'.deadline → d = d'

theorem current_startWith (F : MemoFamily) {store : Store} (hstore : store.Distinct)
    (opTimeout : Duration) (clock : Instant) :
    Current store (startWith F store opTimeout clock) where
  backend := rfl
  distinct := hstore
  calls e he := by cases he
  past d hd := by cases hd.1
  origin key e he := .inl he
  held d key hd := by cases hd.1
  alone d d' key hd := by cases hd.1

/-- A result that still lives is found under its key. -/
theorem Current.found (hF : F.Faithful) (hs : Current store₀ s)
    (hkey : x.memo.keyFor x.args = .ok key) (hclock : s.clock ≤ x.readAt) {d : Deposit F}
    (hin : d.In s.trace) (hunder : d.Under key) (hlive : x.readAt < d.deadline) :
    ∃ data, d = ⟨d.call, x.keyPrefix, d.ttl, d.args, data, d.time⟩ ∧
      (s.client.state.get x.readAt key).1.bind x.memo.codec.decode? = some data := by
  obtain ⟨bs, hencode, hfind⟩ :=
    hs.held d key hin hunder (Nat.lt_of_le_of_lt hclock hlive)
  obtain ⟨j, p, ttl, args, data, time⟩ := d
  -- The key tells the prefix, so the visit decodes with the codec that has encoded.
  obtain ⟨rfl, -⟩ := eq_of_keyFor hunder hkey
  refine ⟨data, rfl, ?_⟩
  rw [Store.get_fst, hfind, Option.bind_some, Entry.valueAt_eq_some_iff.2 ⟨hlive, rfl⟩]
  exact hF _ _ _ hencode

/-- A result that is found has been written, and still lives. -/
theorem Current.covers_of_found (hF : F.Faithful) (hs : Current store₀ s)
    (hkey : x.memo.keyFor x.args = .ok key) (hclock : s.clock ≤ x.readAt)
    (hjunk : ∀ e, store₀.find? key = some e → x.memo.codec.decode? e.value = none)
    {data : F.Result x.keyPrefix}
    (hfound : (s.client.state.get x.readAt key).1.bind x.memo.codec.decode? = some data) :
    ∃ j ttl args time,
      Deposit.Covers ⟨j, x.keyPrefix, ttl, args, data, time⟩ s.trace key x.readAt := by
  obtain ⟨bs, hget, hdecode⟩ := Option.bind_eq_some_iff.1 hfound
  rw [Store.get_fst] at hget
  obtain ⟨e, hfind, hvalue⟩ := Option.bind_eq_some_iff.1 hget
  obtain ⟨hlive, rfl⟩ := Entry.valueAt_eq_some_iff.1 hvalue
  obtain hold | ⟨d, hin, hunder, hencode, hdeadline⟩ := hs.origin key e hfind
  · rw [hjunk e hold] at hdecode
    cases hdecode
  · have htime := hs.past d hin
    obtain ⟨j, p, ttl, args, data', time⟩ := d
    obtain ⟨rfl, -⟩ := eq_of_keyFor hunder hkey
    obtain rfl : data' = data := Option.some.inj ((hF _ _ _ hencode).symm.trans hdecode)
    exact ⟨j, ttl, args, time, hin, hunder, Nat.le_trans htime hclock, hdeadline ▸ hlive⟩

/-- What a visit reports is about its own call, which is the newest. -/
theorem Turned.call_lt (h : Turned s x store new s') (hold : ∀ e ∈ s.trace, e.call < s.calls.length)
    (hnew : ∀ e ∈ new, e.call = s.calls.length) : ∀ e ∈ s'.trace, e.call < s'.calls.length := by
  intro e he
  rw [h.trace] at he
  rw [h.length]
  obtain he | he := List.mem_append.1 he
  · exact Nat.lt_succ_of_lt (hold e he)
  · rw [hnew e he]
    exact Nat.lt_succ_self _

/-- A visit that writes nothing keeps the invariant as long as the store loses nothing that
lives. -/
theorem Current.thin (hs : Current store₀ s) (h : Turned s x store new s')
    (hclock : s.clock ≤ x.endsAt) (hnew : ∀ e ∈ new, e.call = s.calls.length)
    (hnone : ∀ d : Deposit F, ¬ d.In new) (hthins : s.client.state.Thins store x.endsAt) :
    Current store₀ s' := by
  have hin (d : Deposit F) : d.In s'.trace ↔ d.In s.trace := by
    rw [h.trace, Deposit.in_append_iff hs.calls hnew, or_iff_left (hnone d)]
  have hlive {d : Deposit F} (hlt : s'.clock < d.deadline) : s.clock < d.deadline := by
    rw [h.clock] at hlt
    exact Nat.lt_of_le_of_lt hclock hlt
  exact {
    backend := h.backend.trans hs.backend
    distinct := by
      rw [h.state]
      exact hs.distinct.of_sublist hthins.sublist
    calls := h.call_lt hs.calls hnew
    past := by
      intro d hd
      rw [h.clock]
      exact Nat.le_trans (hs.past d ((hin d).1 hd)) hclock
    origin := by
      intro k e he
      rw [h.state] at he
      obtain hold | ⟨d, hd, hrest⟩ :=
        hs.origin k e (hs.distinct.find?_of_sublist hthins.sublist he)
      · exact .inl hold
      · exact .inr ⟨d, (hin d).2 hd, hrest⟩
    held := by
      intro d k hd hunder hlt
      obtain ⟨bs, hencode, hfind⟩ := hs.held d k ((hin d).1 hd) hunder (hlive hlt)
      rw [h.clock] at hlt
      rw [h.state]
      exact ⟨bs, hencode, hthins.live k _ hfind hlt⟩
    alone := by
      intro d d' k hd hd' hunder hunder' hlt hlt'
      exact hs.alone d d' k ((hin d).1 hd) ((hin d').1 hd') hunder hunder' (hlive hlt)
        (hlive hlt') }

/-- A visit that writes keeps the invariant as long as nothing else under its key lives. -/
theorem Current.deposit (hs : Current store₀ s) (d₀ : Deposit F) {bs : Bytes}
    (h : Turned s x (store.put key ⟨bs, d₀.deadline⟩) new s') (hclock : s.clock ≤ x.endsAt)
    (hnew : ∀ e ∈ new, e.call = s.calls.length) (hone : ∀ d : Deposit F, d.In new ↔ d = d₀)
    (htime : d₀.time = x.endsAt) (hunder₀ : d₀.Under key)
    (hencode₀ : (F.codec d₀.keyPrefix).encode d₀.data = .ok bs)
    (hthins : s.client.state.Thins store x.endsAt)
    (hdead : ∀ d : Deposit F, d.In s.trace → d.Under key → ¬ x.endsAt < d.deadline) :
    Current store₀ s' := by
  have hin (d : Deposit F) : d.In s'.trace ↔ d.In s.trace ∨ d = d₀ := by
    rw [h.trace, Deposit.in_append_iff hs.calls hnew, hone]
  have hdistinct := hs.distinct.of_sublist hthins.sublist
  exact {
    backend := h.backend.trans hs.backend
    distinct := by
      rw [h.state]
      exact hdistinct.put key _
    calls := h.call_lt hs.calls hnew
    past := by
      intro d hd
      rw [h.clock]
      obtain hold | rfl := (hin d).1 hd
      · exact Nat.le_trans (hs.past d hold) hclock
      · exact Nat.le_of_eq htime
    origin := by
      intro k e he
      rw [h.state, Store.find?_put] at he
      by_cases hk : k = key
      · rw [if_pos hk] at he
        obtain rfl := Option.some.inj he
        exact .inr ⟨d₀, (hin d₀).2 (.inr rfl), hk ▸ hunder₀, hencode₀, rfl⟩
      · rw [if_neg hk] at he
        obtain hold | ⟨d, hd, hrest⟩ :=
          hs.origin k e (hs.distinct.find?_of_sublist hthins.sublist he)
        · exact .inl hold
        · exact .inr ⟨d, (hin d).2 (.inl hd), hrest⟩
    held := by
      intro d k hd hunder hlt
      rw [h.clock] at hlt
      rw [h.state, Store.find?_put]
      obtain hold | rfl := (hin d).1 hd
      -- What lived before is under another key, since nothing under this one does.
      · have hk : k ≠ key := by
          rintro rfl
          exact hdead d hold hunder hlt
        obtain ⟨bs', hencode, hfind⟩ :=
          hs.held d k hold hunder (Nat.lt_of_le_of_lt hclock hlt)
        rw [if_neg hk]
        exact ⟨bs', hencode, hthins.live k _ hfind hlt⟩
      · have hk : k = key := Except.ok.inj (hunder.symm.trans hunder₀)
        rw [if_pos hk]
        exact ⟨bs, hencode₀, rfl⟩
    alone := by
      intro d d' k hd hd' hunder hunder' hlt hlt'
      rw [h.clock] at hlt hlt'
      obtain hold | rfl := (hin d).1 hd
      · obtain hold' | rfl := (hin d').1 hd'
        · exact hs.alone d d' k hold hold' hunder hunder' (Nat.lt_of_le_of_lt hclock hlt)
            (Nat.lt_of_le_of_lt hclock hlt')
        · obtain rfl : k = key := Except.ok.inj (hunder'.symm.trans hunder₀)
          exact absurd hlt (hdead d hold hunder)
      · obtain hold' | rfl := (hin d').1 hd'
        · obtain rfl : k = key := Except.ok.inj (hunder.symm.trans hunder₀)
          exact absurd hlt' (hdead d' hold' hunder')
        · rfl }

/-- The room that a visit finds is for the write that it leaves. -/
theorem FindsRoom.fewerThan (h : s.FindsRoom x) (hb : s.client.backend = some Store.backend)
    (hkey : x.memo.keyFor x.args = .ok key)
    (hmissing : (s.client.state.get x.readAt key).1.bind x.memo.codec.decode? = none)
    {bs : Bytes} (hbytes : x.bytes? = some bs) :
    FewerThan (s.client.state.get x.readAt key).2.room fun k =>
      k ≠ key ∧ (s.client.state.get x.readAt key).2.contains x.endsAt k = true := by
  obtain ⟨answer, -, -, hentered⟩ := enter_of_miss hb hkey hmissing
  rw [hbytes] at hentered
  rw [← hentered.state]
  refine h ⟨s.calls.length, ⟨key, x.ttl, bs⟩, false, false⟩ ?_
  rw [hentered.writes, List.getElem?_append_right (Nat.le_refl _), Nat.sub_self]
  rfl

/-- A visit that computes keeps the invariant. -/
theorem Current.miss (hF : F.Faithful) (hs : Current store₀ s) (hreads : s.clock ≤ x.readAt)
    (hends : x.readAt ≤ x.endsAt) (hroom : s.FindsRoom x)
    (hkey : x.memo.keyFor x.args = .ok key)
    (hmissing : (s.client.state.get x.readAt key).1.bind x.memo.codec.decode? = none) :
    Current store₀ (s.turn x) := by
  have hclock : s.clock ≤ x.endsAt := Nat.le_trans hreads hends
  obtain ⟨answer, -, -, hturned⟩ := turn_of_miss hs.backend hkey hmissing
  have hnew : ∀ e ∈ x.computes s.calls.length answer ++ x.writes s.calls.length,
      e.call = s.calls.length := fun e he => Visit.call_eq_of_mem he
  have hget := (s.client.state.thins_get x.readAt key).mono hends
  have hdistinct := hs.distinct.of_sublist hget.sublist
  cases hbytes : x.bytes? with
  | none =>
    rw [Visit.leaves, hbytes] at hturned
    refine hs.thin hturned hclock hnew ?_ hget
    intro d hd
    obtain ⟨data, bs, hdata, hencode, -⟩ := Visit.in_computes_iff.1 hd
    have hsome : x.bytes? = some bs := Memo.bytes?_eq_some_iff.2 ⟨data, hdata, hencode⟩
    rw [hbytes] at hsome
    cases hsome
  | some bs =>
    rw [Visit.leaves, hbytes] at hturned
    have hfew := hroom.fewerThan hs.backend hkey hmissing hbytes
    have hthins := hget.trans (hdistinct.thins_makeRoom hfew)
    cases hafter : x.endsAt.after? x.ttl with
    | none =>
      simp only [Store.setex_of_not_shown hafter] at hturned
      refine hs.thin hturned hclock hnew ?_ hthins
      intro d hd
      obtain ⟨-, -, -, -, hshown, -⟩ := Visit.in_computes_iff.1 hd
      rw [hafter] at hshown
      cases hshown
    | some deadline =>
      obtain ⟨-, rfl⟩ := Instant.after?_eq_some_iff.1 hafter
      obtain ⟨data, hdata, hencode⟩ := Memo.bytes?_eq_some_iff.1 hbytes
      simp only [Store.setex_of_after? hafter] at hturned
      refine hs.deposit ⟨s.calls.length, x.keyPrefix, x.ttl, x.args, data, x.endsAt⟩ hturned hclock
        hnew ?_ rfl hkey hencode hthins ?_
      · intro d
        rw [Visit.in_computes_iff]
        constructor
        · rintro ⟨data', bs', hdata', -, -, rfl⟩
          obtain rfl := Memo.Computed.ok.inj (hdata.symm.trans hdata')
          rfl
        · rintro rfl
          exact ⟨data, bs, hdata, hencode, by rw [hafter]; rfl, rfl⟩
      -- A result that lives at the end of the visit would have been found at its beginning.
      · intro d hin hunder hlive
        obtain ⟨data', -, hfound⟩ :=
          hs.found hF hkey hreads hin hunder (Nat.lt_of_le_of_lt hends hlive)
        rw [hmissing] at hfound
        cases hfound

/-- **A visit keeps the invariant.** -/
theorem Current.turn (hF : F.Faithful) (hs : Current store₀ s) (hreads : s.clock ≤ x.readAt)
    (hends : x.readAt ≤ x.endsAt) (hroom : s.FindsRoom x) : Current store₀ (s.turn x) := by
  have hclock : s.clock ≤ x.endsAt := Nat.le_trans hreads hends
  cases hkey : x.memo.keyFor x.args with
  | error fault =>
    obtain ⟨answer, -, -, hturned⟩ := turn_of_error (s := s) hkey
    refine hs.thin hturned hclock ?_ ?_ ⟨List.Sublist.refl _, fun k e he _ => he⟩
    · intro e he
      exact Visit.call_eq_of_mem (List.mem_append_left _ he)
    · rintro d ⟨-, hwrote⟩
      rcases List.mem_pair.1 hwrote with heq | heq <;> cases heq
  | ok key =>
    cases hfound : (s.client.state.get x.readAt key).1.bind x.memo.codec.decode? with
    | some data =>
      have hget := (s.client.state.thins_get x.readAt key).mono hends
      refine hs.thin (turn_of_hit hs.backend hkey hfound) hclock ?_ ?_ hget
      · intro e he
        rw [List.mem_singleton.1 he]
        rfl
      · intro d hd
        cases List.mem_singleton.1 hd.1
    | none => exact hs.miss hF hreads hends hroom hkey hfound

theorem Current.turns (hF : F.Faithful) {xs : List (Visit F)} (hs : Current store₀ s)
    (h : s.Fair xs) : Current store₀ (s.turns xs) := by
  induction xs generalizing s with
  | nil => exact hs
  | cons x xs ih =>
    obtain ⟨hreads, hends, hroom, hrest⟩ := h
    exact ih (hs.turn hF hreads hends hroom) hrest

/-! ### The law -/

/-- A visit that is answered from the store is no visit that computes. -/
theorem hit_ne_computes {trace : List (MemoEvent F)} {i : Nat} {data : F.Result x.keyPrefix}
    {answer : Memo.Answer (F.Result x.keyPrefix)} :
    trace ++ [x.hit i key data] ≠ trace ++ (x.computes i answer ++ x.writes i) := by
  intro h
  have hsame := List.append_cancel_left h
  cases List.head_eq_of_cons_eq hsame

/-- **A visit is answered from the store** exactly when a result that was written lives. -/
theorem Current.hit_iff (hF : F.Faithful) (hs : Current store₀ s)
    (hkey : x.memo.keyFor x.args = .ok key) (hreads : s.clock ≤ x.readAt)
    (hjunk : ∀ e, store₀.find? key = some e → x.memo.codec.decode? e.value = none)
    (data : F.Result x.keyPrefix) :
    (s.turn x).trace = s.trace ++ [x.hit s.calls.length key data] ↔
      ∃ j ttl args time,
        Deposit.Covers ⟨j, x.keyPrefix, ttl, args, data, time⟩ s.trace key x.readAt := by
  constructor
  · intro htrace
    cases hfound : (s.client.state.get x.readAt key).1.bind x.memo.codec.decode? with
    | none =>
      obtain ⟨answer, -, -, hturned⟩ := turn_of_miss hs.backend hkey hfound
      exact absurd (htrace.symm.trans hturned.trace) hit_ne_computes
    | some data' =>
      have hturned := turn_of_hit hs.backend hkey hfound
      have hsame := List.append_cancel_left (htrace.symm.trans hturned.trace)
      obtain rfl : data = data' := by simpa [Visit.hit, Envelope.hit] using hsame
      exact hs.covers_of_found hF hkey hreads hjunk hfound
  · rintro ⟨j, ttl, args, time, hcovers⟩
    obtain ⟨data', heq, hfound⟩ :=
      hs.found hF hkey hreads hcovers.mem hcovers.under hcovers.lives
    obtain rfl : data = data' := by simpa using heq
    exact (turn_of_hit hs.backend hkey hfound).trace

/-- **Otherwise it computes**, once. -/
theorem Current.computes (hF : F.Faithful) (hs : Current store₀ s)
    (hkey : x.memo.keyFor x.args = .ok key) (hreads : s.clock ≤ x.readAt)
    (hjunk : ∀ e, store₀.find? key = some e → x.memo.codec.decode? e.value = none)
    (hnone : ¬ ∃ d : Deposit F, d.Covers s.trace key x.readAt) :
    ∃ answer, answer.isHit = false ∧ answer.outcome = x.outcome ∧
      (s.turn x).trace =
        s.trace ++ (x.computes s.calls.length answer ++ x.writes s.calls.length) := by
  cases hfound : (s.client.state.get x.readAt key).1.bind x.memo.codec.decode? with
  | none =>
    obtain ⟨answer, hmiss, houtcome, hturned⟩ := turn_of_miss hs.backend hkey hfound
    exact ⟨answer, hmiss, houtcome, hturned.trace⟩
  | some data =>
    obtain ⟨j, ttl, args, time, hcovers⟩ := hs.covers_of_found hF hkey hreads hjunk hfound
    exact absurd ⟨_, hcovers⟩ hnone

/-- What such a visit writes lives from then on until its deadline. -/
theorem covers_of_computes {trace : List (MemoEvent F)} {i : Nat}
    {answer : Memo.Answer (F.Result x.keyPrefix)} (hkey : x.memo.keyFor x.args = .ok key)
    {data : F.Result x.keyPrefix} {bs : Bytes} (hdata : x.outcome = .ok data)
    (hencode : (F.codec x.keyPrefix).encode data = .ok bs)
    (hshown : (x.endsAt.after? x.ttl).isSome) {t : Instant} (hwritten : x.endsAt ≤ t)
    (hlives : t < x.endsAt + x.ttl.nanos) :
    Deposit.Covers ⟨i, x.keyPrefix, x.ttl, x.args, data, x.endsAt⟩
      (trace ++ (x.computes i answer ++ x.writes i)) key t := by
  obtain ⟨hcomputed, hwrote⟩ := Visit.in_computes_iff.2 ⟨data, bs, hdata, hencode, hshown, rfl⟩
  exact ⟨⟨List.mem_append_right _ hcomputed, List.mem_append_right _ hwrote⟩, hkey, hwritten,
    hlives⟩

/-- **One computation for each key and window.**  Take any visits one after the other, over a store
that may hold anything before, where times do not go back and every write finds fewer other keys
visible than there is room for.  A further visit whose key is then under no bytes of the beginning
that are a result is answered with `data` exactly when a call with its key has computed them and
has written them at a time not after the read, and their life span has not passed then.  There is
at most one such call, and a visit that it answers leaves the store as it is.  If there is none, the
visit computes once, is answered with that, and writes what can be written. -/
theorem one_computation_per_window (hF : F.Faithful) {store : Store} (hstore : store.Distinct)
    {opTimeout : Duration} {clock : Instant} {before : List (Visit F)}
    (hfair : (startWith F store opTimeout clock).Fair before)
    (hreads : ((startWith F store opTimeout clock).turns before).clock ≤ x.readAt)
    (hkey : x.memo.keyFor x.args = .ok key)
    (hjunk : ∀ e, store.find? key = some e → x.memo.codec.decode? e.value = none) :
    let s := (startWith F store opTimeout clock).turns before
    (∀ data, (s.turn x).trace = s.trace ++ [x.hit s.calls.length key data] ↔
      ∃ j ttl args time,
        Deposit.Covers ⟨j, x.keyPrefix, ttl, args, data, time⟩ s.trace key x.readAt) ∧
    (∀ d d' : Deposit F, d.Covers s.trace key x.readAt → d'.Covers s.trace key x.readAt →
      d = d') ∧
    ((∃ d : Deposit F, d.Covers s.trace key x.readAt) →
      (s.turn x).client.state = s.client.state) ∧
    ((¬ ∃ d : Deposit F, d.Covers s.trace key x.readAt) →
      (∃ answer, answer.isHit = false ∧ answer.outcome = x.outcome ∧ (s.turn x).trace =
        s.trace ++ (x.computes s.calls.length answer ++ x.writes s.calls.length)) ∧
      ∀ data bs, x.outcome = .ok data → (F.codec x.keyPrefix).encode data = .ok bs →
        (x.endsAt.after? x.ttl).isSome → ∀ t, x.endsAt ≤ t → t < x.endsAt + x.ttl.nanos →
          Deposit.Covers ⟨s.calls.length, x.keyPrefix, x.ttl, x.args, data, x.endsAt⟩
            (s.turn x).trace key t) := by
  intro s
  have hs : Current store s := (current_startWith F hstore opTimeout clock).turns hF hfair
  refine ⟨hs.hit_iff hF hkey hreads hjunk, ?_, ?_, ?_⟩
  · intro d d' h h'
    exact hs.alone d d' key h.mem h'.mem h.under h'.under (Nat.lt_of_le_of_lt hreads h.lives)
      (Nat.lt_of_le_of_lt hreads h'.lives)
  · rintro ⟨d, hcovers⟩
    obtain ⟨data, -, hfound⟩ :=
      hs.found hF hkey hreads hcovers.mem hcovers.under hcovers.lives
    obtain ⟨bs, hget, -⟩ := Option.bind_eq_some_iff.1 hfound
    exact (turn_of_hit hs.backend hkey hfound).state.trans (Store.get_snd_of_found hget)
  · intro hnone
    obtain ⟨answer, hmiss, houtcome, htrace⟩ := hs.computes hF hkey hreads hjunk hnone
    refine ⟨⟨answer, hmiss, houtcome, htrace⟩, ?_⟩
    intro data bs hdata hencode hshown t hwritten hlives
    rw [htrace]
    exact covers_of_computes hkey hdata hencode hshown hwritten hlives

/-! ### Null in place of bytes that are no result -/

/-- Computations that result in a truth value or nothing, which is stored as `null`. -/
def answers : MemoFamily where
  Result _ := Option Bool
  codec _ :=
    { write := fun
        | some b => .ok (Json.chars (.bool b))
        | none => .ok (Json.chars .null)
      reader := Json.readOptional Json.readBool }

theorem faithful_answers : answers.Faithful := by
  intro p r bs h
  cases r with
  | none =>
    obtain rfl := Except.ok.inj h
    rfl
  | some b =>
    obtain rfl := Except.ok.inj h
    cases b <;> rfl

/-- Calls without arguments have a key. -/
theorem exists_keyFor_null (F : MemoFamily) (p : String) :
    ∃ key, ∀ ttl, (F.memo p ttl).keyFor .null = .ok key := by
  obtain ⟨c, hc⟩ : ∃ c, CallArgs.ofDatum .null = .ok c := ⟨_, rfl⟩
  refine ⟨deriveKey p c, ?_⟩
  intro ttl
  rw [Memo.keyFor, hc]
  rfl

/-- A visit without arguments that results in the absent value. -/
def asksForNothing (readAt endsAt : Instant) : Visit answers :=
  ⟨"ask", .ofSecs 60, .null, readAt, Binary.zero, .ok none, endsAt⟩

/-- A byte that is no result, under a key. -/
def junk (key : String) : Store := { capacity := 1, entries := [(key, ⟨[255], 100⟩)] }

theorem find?_junk {k : String} {e : Entry} (h : (junk key).find? k = some e) :
    k = key ∧ e = ⟨[255], 100⟩ := by
  have hmem := Store.mem_of_find? h
  simpa [junk] using hmem

/-- The write of a visit finds room beside its own key. -/
theorem fair_junk (hkey : ∀ ttl, (answers.memo "ask" ttl).keyFor .null = .ok key) :
    (startWith answers (junk key) (.ofSecs 5) 0).Fair [asksForNothing 0 1] := by
  have hget : ((junk key).get 0 key).1 = some [255] := by
    simp [Store.get_fst, Store.find?, junk, Entry.valueAt]
  have hmissing : ((junk key).get 0 key).1.bind (asksForNothing 0 1).memo.codec.decode? = none := by
    rw [hget]
    rfl
  refine ⟨Nat.le_refl 0, Nat.zero_le 1, ?_, trivial⟩
  intro w hw
  obtain ⟨key', bs, hkey', hbytes, rfl⟩ := getElem?_writes_enter rfl hw
  obtain rfl : key' = key := Except.ok.inj (hkey'.symm.trans (hkey _))
  have hfirst : (asksForNothing 0 1).memo.keyFor (asksForNothing 0 1).args = .ok key' := hkey _
  obtain ⟨answer, -, -, hentered⟩ :=
    enter_of_miss (s := startWith answers (junk key') (.ofSecs 5) 0) rfl hfirst hmissing
  have hstate := hentered.state.trans (Store.get_snd_of_found hget)
  rw [hstate]
  intro keys hnodup hkeys
  cases keys with
  | nil => exact Nat.one_pos
  | cons k keys =>
    obtain ⟨hne, hvisible⟩ := hkeys k List.mem_cons_self
    obtain ⟨e, he, -⟩ := (Option.any_eq_true ..).1 hvisible
    exact absurd (find?_junk he).1 hne

/-- Under the key there is a byte that is no result.  The first visit computes the absent value, which
is written as `null`, and the second one is answered with it. -/
theorem one_computation_per_window_of_null :
    ∃ key, let s := (startWith answers (junk key) (.ofSecs 5) 0).turns [asksForNothing 0 1]
      (s.turn (asksForNothing 2 2)).trace =
        s.trace ++ [(asksForNothing 2 2).hit s.calls.length key none] := by
  obtain ⟨key, hkey⟩ := exists_keyFor_null answers "ask"
  have hstore : (junk key).Distinct := List.nodup_singleton key
  have hjunk : ∀ e, (junk key).find? key = some e →
      (asksForNothing 0 1).memo.codec.decode? e.value = none := by
    intro e he
    obtain ⟨-, rfl⟩ := find?_junk he
    rfl
  have hfair := fair_junk hkey
  -- The first visit finds no result, so it computes, and its null covers the second one.
  have hnone : ¬ ∃ d : Deposit answers, d.Covers [] key 0 := by
    rintro ⟨d, hcovers⟩
    cases hcovers.mem.1
  have hnothing : (startWith answers (junk key) (.ofSecs 5) 0).Fair [] := trivial
  have hclock₀ : ((startWith answers (junk key) (.ofSecs 5) 0).turns []).clock ≤
      (asksForNothing 0 1).readAt := Nat.le_refl 0
  obtain ⟨-, -, -, hcomputes⟩ :=
    one_computation_per_window faithful_answers hstore hnothing hclock₀ (hkey _) hjunk
  refine ⟨key, ?_⟩
  intro s
  obtain ⟨-, hwrites⟩ := hcomputes hnone
  have hcovers := hwrites none (Utf8.encode (Json.chars .null)) rfl rfl (by decide) 2 (by decide)
    (by decide)
  have hclock : s.clock ≤ (asksForNothing 2 2).readAt := by
    obtain ⟨store, new, hturned⟩ :=
      turned_turn (s := startWith answers (junk key) (.ofSecs 5) 0) rfl (asksForNothing 0 1)
    have hnow : s.clock = 1 := hturned.clock
    rw [hnow]
    exact Nat.le_succ 1
  exact ((one_computation_per_window faithful_answers hstore hfair hclock (hkey _) hjunk).1
    none).2 ⟨_, _, _, _, hcovers⟩

/-! ### Why every write has to find room -/

/-- A visit without arguments that results in the true value, at one moment. -/
def asksForTruth (p : String) (ttl : Duration) (t : Instant) : Visit truths :=
  ⟨p, ttl, .null, t, Binary.zero, .ok true, t⟩

/-- What a visit to a key that is not stored adds to the trace of the `i`-th call. -/
def recomputes (p : String) (ttl : Duration) (t : Instant) (i : Nat)
    (answer : Memo.Answer Bool) : List (MemoEvent truths) :=
  (asksForTruth p ttl t).computes i answer ++ (asksForTruth p ttl t).writes i

/-- A store with room for one key makes room for another one. -/
theorem makeRoom_put_empty {other : String} {e : Entry} {now : Instant} (h : other ≠ key)
    (hlive : now < e.expiresAt) :
    ((Store.empty 1).put key e).makeRoom now other = Store.empty 1 := by
  have hlives : e.isExpired now = false := Entry.isExpired_eq_false_iff.2 hlive
  simp [Store.makeRoom, Store.lacksRoom, Store.retainLive, Store.evict, Store.stores, Store.room,
    Store.size, Store.put, Store.find?, Store.empty, Store.delete, hlives, Store.soonest, h]

/-- A visit whose key is not stored computes and writes. -/
theorem turned_asksForTruth {s : Memos truths} (hb : s.client.backend = some Store.backend)
    {p : String} {ttl : Duration} {t deadline : Instant}
    (hkey : (truths.memo p ttl).keyFor .null = .ok key)
    (hnone : s.client.state.find? key = none) (hafter : t.after? ttl = some deadline) :
    ∃ answer bs, Turned s (asksForTruth p ttl t)
      ((s.client.state.makeRoom t key).put key ⟨bs, deadline⟩)
      (recomputes p ttl t s.calls.length answer) (s.turn (asksForTruth p ttl t)) := by
  have hget : s.client.state.get t key = (none, s.client.state) := by
    unfold Store.get Store.probe
    rw [hnone]
  have hkey' : (asksForTruth p ttl t).memo.keyFor (asksForTruth p ttl t).args = .ok key := hkey
  have hmissing : (s.client.state.get t key).1.bind (asksForTruth p ttl t).memo.codec.decode? =
      none := by rw [hget]; rfl
  have hbytes : (asksForTruth p ttl t).bytes? = some (Utf8.encode (Json.chars (.bool true))) := rfl
  obtain ⟨answer, -, -, hturned⟩ := turn_of_miss hb hkey' hmissing
  have hget' : s.client.state.get (asksForTruth p ttl t).readAt key = (none, s.client.state) := hget
  have hafter' : (asksForTruth p ttl t).endsAt.after? (asksForTruth p ttl t).ttl = some deadline :=
    hafter
  rw [hget', Visit.leaves, hbytes] at hturned
  simp only [Store.setex_of_after? hafter'] at hturned
  exact ⟨answer, _, hturned⟩

/-- Where there is room for one key, a visit under another one costs the first its entry. -/
theorem exists_recomputes {s : Memos truths} (hb : s.client.backend = some Store.backend)
    (hempty : s.client.state = .empty 1) {p q : String} {ttl ttl' : Duration}
    {t u v deadline : Instant} {other : String}
    (hkey : (truths.memo p ttl).keyFor .null = .ok key)
    (hother : (truths.memo q ttl').keyFor .null = .ok other) (hne : other ≠ key)
    (ht : t.after? ttl = some deadline) (hu : (u.after? ttl').isSome)
    (hv : (v.after? ttl).isSome) (hlives : u < deadline) :
    let s₂ := (s.turn (asksForTruth p ttl t)).turn (asksForTruth q ttl' u)
    ∃ answer₁ answer₂ answer₃,
      s₂.trace = s.trace ++ recomputes p ttl t s.calls.length answer₁ ++
        recomputes q ttl' u (s.calls.length + 1) answer₂ ∧
      (s₂.turn (asksForTruth p ttl v)).trace =
        s₂.trace ++ recomputes p ttl v (s.calls.length + 2) answer₃ := by
  intro s₂
  obtain ⟨deadline', hu⟩ := Option.isSome_iff_exists.1 hu
  obtain ⟨deadline'', hv⟩ := Option.isSome_iff_exists.1 hv
  obtain ⟨answer₁, bs₁, h₁⟩ := turned_asksForTruth hb hkey (by rw [hempty]; rfl) ht
  have hroom : s.client.state.makeRoom t key = .empty 1 := by rw [hempty]; rfl
  rw [hroom] at h₁
  have hb₁ := h₁.backend.trans hb
  obtain ⟨answer₂, bs₂, h₂⟩ :=
    turned_asksForTruth hb₁ hother (by rw [h₁.state]; simp [hne]) hu
  rw [h₁.state, makeRoom_put_empty hne hlives] at h₂
  have hb₂ := h₂.backend.trans hb₁
  have hlength : s₂.calls.length = s.calls.length + 2 := by rw [h₂.length, h₁.length]
  obtain ⟨answer₃, bs₃, h₃⟩ :=
    turned_asksForTruth hb₂ hkey (by rw [h₂.state]; simp [hne.symm]) hv
  refine ⟨answer₁, answer₂, answer₃, ?_, hlength ▸ h₃.trace⟩
  rw [h₂.trace, h₁.trace, h₁.length]

/-- What three such visits deposit. -/
theorem deposit_of_recomputes {p q : String} {ttl ttl' : Duration} {t u v : Instant}
    {answer₁ answer₂ answer₃ : Memo.Answer Bool} {d : Deposit truths}
    (h : d.In (recomputes p ttl t 0 answer₁ ++ recomputes q ttl' u 1 answer₂ ++
      recomputes p ttl v 2 answer₃)) :
    d = ⟨0, p, ttl, .null, true, t⟩ ∨ d = ⟨1, q, ttl', .null, true, u⟩ ∨
      d = ⟨2, p, ttl, .null, true, v⟩ := by
  have hone {p : String} {ttl : Duration} {t : Instant} {i : Nat} {answer : Memo.Answer Bool}
      (h : d.In (recomputes p ttl t i answer)) : d = ⟨i, p, ttl, .null, true, t⟩ := by
    obtain ⟨data, -, hdata, -, -, rfl⟩ := Visit.in_computes_iff.1 h
    obtain rfl := Memo.Computed.ok.inj hdata
    rfl
  have hfirst : ∀ e ∈ recomputes p ttl t 0 answer₁, e.call < 1 := by
    intro e he
    rw [Visit.call_eq_of_mem he]
    exact Nat.one_pos
  have hsecond : ∀ e ∈ recomputes p ttl t 0 answer₁ ++ recomputes q ttl' u 1 answer₂,
      e.call < 2 := by
    intro e he
    obtain he | he := List.mem_append.1 he
    · exact Nat.lt_succ_of_lt (hfirst e he)
    · rw [Visit.call_eq_of_mem he]
      exact Nat.one_lt_two
  obtain h | h := (Deposit.in_append_iff hsecond fun e he => Visit.call_eq_of_mem he).1 h
  · obtain h | h := (Deposit.in_append_iff hfirst fun e he => Visit.call_eq_of_mem he).1 h
    · exact .inl (hone h)
    · exact .inr (.inl (hone h))
  · exact .inr (.inr (hone h))

/-- At most one key has a property that only one key can have. -/
theorem fewerThan_two {p : String → Prop} (key : String) (h : ∀ k, p k → k = key) :
    FewerThan 2 p := by
  intro keys hnodup hkeys
  have hsubset : keys ⊆ [key] := by
    intro k hk
    rw [h k (hkeys k hk)]
    exact List.mem_singleton_self key
  exact Nat.lt_succ_of_le (hnodup.subperm hsubset).length_le

/-- **A result that lives is lost to one that never lives.**  There is room for one key, and at no
time more than one key has a result that lives: the second visit writes one that lives for no time.
Yet the third visit, under the key of the first one, computes again while the result of the first
one lives. -/
theorem computes_again_beside_zero_ttl :
    ∃ key,
      let s := (startWith truths (.empty 1) (.ofSecs 5) 0).turns
        [asksForTruth "a" (.ofSecs 60) 0, asksForTruth "b" (.ofSecs 0) 1]
      let x := asksForTruth "a" (.ofSecs 60) 2
      x.memo.keyFor x.args = .ok key ∧
      (∀ t, FewerThan 2 fun k => ∃ d : Deposit truths, d.Covers (s.turn x).trace k t) ∧
      (∃ d : Deposit truths, d.Covers s.trace key x.readAt) ∧
      ¬ ∃ data, (s.turn x).trace = s.trace ++ [x.hit s.calls.length key data] := by
  obtain ⟨key, hkey⟩ := exists_keyFor_null truths "a"
  obtain ⟨other, hother⟩ := exists_keyFor_null truths "b"
  have hne : other ≠ key := by
    rintro rfl
    obtain ⟨hsame, -⟩ := eq_of_keyFor (hkey (.ofSecs 60)) (hother (.ofSecs 60))
    simp at hsame
  obtain ⟨deadline, hdeadline⟩ : ∃ deadline, Instant.after? 0 (.ofSecs 60) = some deadline :=
    Option.isSome_iff_exists.1 (by decide)
  have hlives : 1 < deadline := by
    obtain ⟨-, rfl⟩ := Instant.after?_eq_some_iff.1 hdeadline
    decide
  obtain ⟨answer₁, answer₂, answer₃, htrace, hlast⟩ :=
    exists_recomputes (s := startWith truths (.empty 1) (.ofSecs 5) 0) rfl rfl (hkey (.ofSecs 60))
      (hother (.ofSecs 0)) hne hdeadline (show (Instant.after? 1 (.ofSecs 0)).isSome by decide)
      (show (Instant.after? 2 (.ofSecs 60)).isSome by decide) hlives
  have hwhole := hlast.trans (congrArg (· ++ _) htrace)
  refine ⟨key, ?_⟩
  intro s x
  refine ⟨hkey _, ?_, ?_, ?_⟩
  · intro t
    refine fewerThan_two key ?_
    rintro k ⟨d, hcovers⟩
    have hin := hcovers.mem
    rw [show (s.turn x).trace = _ from hwhole] at hin
    obtain rfl | rfl | rfl := deposit_of_recomputes hin
    · exact Except.ok.inj (hcovers.under.symm.trans (hkey _))
    -- The result of the second visit never lives.
    · exact absurd hcovers.lives (Nat.not_lt_of_le hcovers.written)
    · exact Except.ok.inj (hcovers.under.symm.trans (hkey _))
  · obtain ⟨hcomputed, hwrote⟩ : Deposit.In ⟨0, "a", .ofSecs 60, .null, true, 0⟩
        (recomputes "a" (.ofSecs 60) 0 0 answer₁) :=
      Visit.in_computes_iff.2 ⟨true, _, rfl, rfl, by decide, rfl⟩
    refine ⟨⟨0, "a", .ofSecs 60, .null, true, 0⟩, ⟨?_, ?_⟩, hkey _, by decide, by decide⟩
    · rw [show s.trace = _ from htrace]
      exact List.mem_append_left _ hcomputed
    · rw [show s.trace = _ from htrace]
      exact List.mem_append_left _ hwrote
  · rintro ⟨data, hhit⟩
    have hsame := List.append_cancel_left (hhit.symm.trans hlast)
    cases List.head_eq_of_cons_eq hsame

end Memos

end DataTier
