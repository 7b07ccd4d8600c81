/-
**What the second halves of requests leave alone.**

When a reply has come, the client counts and logs; the backend and its state are as they were.

Main definitions:

* `DataTier.Client.Same` — clients with one backend in one state;
* `DataTier.Memo.Answer.outcome` — an answer without its provenance;
* `DataTier.Memo.bytes?` — what a computation leaves to be stored.

Main results:

* `DataTier.Client.run_of_none`, `run_of_done`, `run_of_panicked` — the three ways of an operation;
* `DataTier.Memo.plan_eq_look_iff` — when a call asks the cache, and for which key;
* `DataTier.Memo.afterLookup_eq_hit`, `DataTier.Memo.afterLookup_ok` — a hit is what the backend's
  answer decodes to;
* `DataTier.Memo.outcome_conclude`, `DataTier.Memo.write_of_conclude`,
  `DataTier.Memo.write_conclude` — a call that computes answers what it has computed, and leaves a
  write of just that.
-/

import DataTier.Cache.Memo

set_option relaxedAutoImplicit false
set_option autoImplicit false

namespace DataTier

namespace Client

variable {σ : Type}

/-- The backend is the same and in the same state. -/
structure Same (c c' : Client σ) : Prop where
  backend : c'.backend = c.backend
  state : c'.state = c.state

theorem Same.rfl (c : Client σ) : c.Same c := ⟨Eq.refl _, Eq.refl _⟩

theorem Same.trans {a b c : Client σ} (h : a.Same b) (h' : b.Same c) : a.Same c :=
  ⟨h'.backend.trans h.backend, h'.state.trans h.state⟩

theorem same_report (c : Client σ) (e : Event) : c.Same (c.report e) := ⟨rfl, rfl⟩

theorem same_absorb (c : Client σ) (key : String) (result : Except CacheError (Option Bytes)) :
    c.Same (c.absorb key result).2 := by
  cases result with
  | ok value => exact .rfl c
  | error e => exact ⟨rfl, rfl⟩

theorem same_finishGet (c : Client σ) (key : String) (result : Except CacheError (Option Bytes)) :
    c.Same (c.finishGet key result).2 := by
  have habsorb := c.same_absorb key result
  exact ⟨habsorb.backend, habsorb.state⟩

theorem same_finishWriteBack (c : Client σ) (key : String) (ttl : Duration) (length : Nat)
    (result : Except CacheError Unit) : c.Same (c.finishWriteBack key ttl length result) := by
  cases result with
  | ok value => exact ⟨rfl, rfl⟩
  | error e => exact ⟨rfl, rfl⟩

theorem same_finishDelete (c : Client σ) (key : String) (result : Except CacheError Unit) :
    c.Same (c.finishDelete key result).2 := by
  cases result with
  | ok value => exact .rfl c
  | error e => exact ⟨rfl, rfl⟩

variable {R : Type}

theorem same_decodeFound (c : Client σ) (codec : Codec R) (key : String) (found : Option Bytes) :
    c.Same (c.decodeFound codec key found).2 := by
  cases found with
  | none => exact .rfl c
  | some bs =>
    simp only [decodeFound]
    cases codec.decode? bs with
    | none => exact ⟨rfl, rfl⟩
    | some r => exact .rfl c

theorem same_finishGetJson (c : Client σ) (codec : Codec R) (key : String)
    (result : Except CacheError (Option Bytes)) : c.Same (c.finishGetJson codec key result).2 := by
  have habsorb := c.same_absorb key result
  have hdecode := (c.absorb key result).2.same_decodeFound codec key (c.absorb key result).1
  have hsame := habsorb.trans hdecode
  exact ⟨hsame.backend, hsame.state⟩

/-- A lookup for a value has one when the backend has answered with bytes that are one. -/
theorem finishGetJson_eq_some {c : Client σ} {codec : Codec R} {key : String}
    {result : Except CacheError (Option Bytes)} {r : R}
    (h : (c.finishGetJson codec key result).1 = some r) :
    ∃ bs, result = .ok (some bs) ∧ codec.decode? bs = some r := by
  cases result with
  | error e => exact absurd h nofun
  | ok found =>
    cases found with
    | none => exact absurd h nofun
    | some bs =>
      refine ⟨bs, rfl, ?_⟩
      simp only [finishGetJson, absorb, decodeFound] at h
      cases hdecode : codec.decode? bs with
      | none =>
        rw [hdecode] at h
        exact absurd h nofun
      | some r' =>
        rw [hdecode] at h
        exact h

/-! ### Whole operations -/

section Run

variable {α β : Type} {c : Client σ} {b : Backend σ} {ask : Backend σ → σ → Reply α × σ}
  {skipped : Client σ → β × Client σ} {finish : Client σ → Except CacheError α → β × Client σ}

theorem run_of_none (h : c.backend = none) :
    c.run ask skipped finish = (.done (skipped c).1, (skipped c).2) := by
  simp only [run, request, h]

/-- An operation whose request comes to a result ends with it. -/
theorem run_of_done (h : c.backend = some b) {result : Except CacheError α}
    (hresult : c.settle (ask b c.state).1 = .done result) :
    c.run ask skipped finish =
      (.done (finish { c with state := (ask b c.state).2 } result).1,
        (finish { c with state := (ask b c.state).2 } result).2) := by
  obtain ⟨backend, state, opTimeout, stats, log⟩ := c
  obtain rfl : backend = some b := h
  cases hreply : (ask b state).1 <;> simp_all [run, request, settle]

/-- An operation over which the backend breaks down leaves the state of the backend only. -/
theorem run_of_panicked (h : c.backend = some b) {message : String}
    (hresult : c.settle (ask b c.state).1 = .panicked message) :
    c.run ask skipped finish = (.panicked message, { c with state := (ask b c.state).2 }) := by
  obtain ⟨backend, state, opTimeout, stats, log⟩ := c
  obtain rfl : backend = some b := h
  cases hreply : (ask b state).1 <;> simp_all [run, request, settle]

end Run

end Client

namespace Memo

variable {σ R : Type}

/-- An answer without its provenance. -/
def Answer.outcome : Answer R → Computed R
  | .ok _ envelope => .ok envelope.data
  | .failed error => .failed error
  | .panicked message => .panicked message

/-- Whether an answer is said to come from the cache. -/
def Answer.isHit : Answer R → Bool
  | .ok _ envelope => envelope.cacheHit
  | _ => false

theorem same_plan (m : Memo R) (c : Client σ) (args : Datum) : c.Same (m.plan c args).2 := by
  unfold plan
  split
  · split
    · exact .rfl c
    · exact c.same_report _
  · exact .rfl c

/-- A call asks the cache for the key of its arguments. -/
theorem plan_eq_look_iff {m : Memo R} {c : Client σ} {args : Datum} {key : String} :
    (m.plan c args).1 = .look key ↔ c.isEnabled = true ∧ m.keyFor args = .ok key := by
  unfold plan
  split
  · next henabled => cases m.keyFor args <;> simp [henabled]
  · next hdisabled => simp [hdisabled]

theorem same_afterLookup (m : Memo R) (c : Client σ) (key : String)
    (result : Except CacheError (Option Bytes)) : c.Same (m.afterLookup c key result).2 := by
  have hsame := c.same_finishGetJson m.codec key result
  unfold afterLookup
  split
  · next hfinish =>
    rw [hfinish] at hsame
    exact hsame.trans (Client.same_report _ _)
  · next hfinish =>
    rw [hfinish] at hsame
    exact hsame.trans (Client.same_report _ _)

/-- **A lookup ends as a hit** when the backend has answered with bytes that are a result. -/
theorem afterLookup_eq_hit {m : Memo R} {c : Client σ} {key k : String} {data : R}
    {result : Except CacheError (Option Bytes)}
    (h : (m.afterLookup c key result).1 = .hit k data) :
    k = key ∧ ∃ bs, result = .ok (some bs) ∧ m.codec.decode? bs = some data := by
  unfold afterLookup at h
  split at h
  · next r c' hfinish =>
    obtain ⟨rfl, rfl⟩ := Lookup.hit.inj h
    exact ⟨rfl, Client.finishGetJson_eq_some (congrArg Prod.fst hfinish)⟩
  · exact absurd h nofun

/-- A lookup that ends as a miss is one for its key. -/
theorem afterLookup_eq_miss {m : Memo R} {c : Client σ} {key k : String}
    {result : Except CacheError (Option Bytes)} (h : (m.afterLookup c key result).1 = .miss k) :
    k = key := by
  unfold afterLookup at h
  split at h
  · exact absurd h nofun
  · exact (Lookup.miss.inj h).symm

/-- **How a lookup that the backend has answered ends**: as a hit of what the bytes decode to, and
as a miss when there are none or they are no result. -/
theorem afterLookup_ok (m : Memo R) (c : Client σ) (key : String) (found : Option Bytes) :
    (m.afterLookup c key (.ok found)).1 =
      match found.bind m.codec.decode? with
      | some data => .hit key data
      | none => .miss key := by
  cases found with
  | none => rfl
  | some bs =>
    simp only [afterLookup, Client.finishGetJson, Client.absorb, Client.decodeFound,
      Option.bind_some]
    cases m.codec.decode? bs <;> rfl

theorem same_conclude (m : Memo R) (c : Client σ) (key : Option String) (elapsed : Double)
    (outcome : Computed R) : c.Same (m.conclude c key elapsed outcome).2.2 := by
  cases outcome with
  | ok data =>
    cases key with
    | none => exact .rfl c
    | some key =>
      simp only [conclude, afterCompute]
      cases m.codec.encode data with
      | ok value => exact .rfl c
      | error fault => exact c.same_report _
  | failed error => exact .rfl c
  | panicked message => exact .rfl c

/-- **A call that computes answers what it has computed.** -/
theorem outcome_conclude (m : Memo R) (c : Client σ) (key : Option String) (elapsed : Double)
    (outcome : Computed R) :
    (m.conclude c key elapsed outcome).1.outcome = outcome ∧
      (m.conclude c key elapsed outcome).1.isHit = false := by
  cases outcome with
  | ok data => cases key <;> exact ⟨rfl, rfl⟩
  | failed error => exact ⟨rfl, rfl⟩
  | panicked message => exact ⟨rfl, rfl⟩

/-- **It leaves a write of just that**, under the key that it has asked for. -/
theorem write_of_conclude {m : Memo R} {c : Client σ} {key : Option String} {elapsed : Double}
    {outcome : Computed R} {w : Write} (h : (m.conclude c key elapsed outcome).2.1 = some w) :
    ∃ data, outcome = .ok data ∧ key = some w.key ∧ w.ttl = m.ttl ∧
      m.codec.encode data = .ok w.value := by
  cases outcome with
  | ok data =>
    cases key with
    | none => exact absurd h nofun
    | some key =>
      simp only [conclude, afterCompute] at h
      cases hencode : m.codec.encode data with
      | ok value =>
        rw [hencode] at h
        obtain rfl := Option.some.inj h
        exact ⟨data, rfl, rfl, rfl, hencode⟩
      | error fault =>
        rw [hencode] at h
        exact absurd h nofun
  | failed error => exact absurd h nofun
  | panicked message => exact absurd h nofun

/-- The bytes that a computation leaves to be stored. -/
def bytes? (m : Memo R) : Computed R → Option Bytes
  | .ok data => (m.codec.encode data).toOption
  | _ => none

theorem bytes?_eq_some_iff {m : Memo R} {outcome : Computed R} {bs : Bytes} :
    m.bytes? outcome = some bs ↔ ∃ data, outcome = .ok data ∧ m.codec.encode data = .ok bs := by
  cases outcome with
  | ok data =>
    simp only [bytes?, Computed.ok.injEq, exists_eq_left']
    cases m.codec.encode data <;> simp [Except.toOption]
  | failed error => simp [bytes?]
  | panicked message => simp [bytes?]

/-- **What a call that computes leaves to be written.** -/
theorem write_conclude (m : Memo R) (c : Client σ) (key : Option String) (elapsed : Double)
    (outcome : Computed R) :
    (m.conclude c key elapsed outcome).2.1 =
      key.bind fun key => (m.bytes? outcome).map fun bs => ⟨key, m.ttl, bs⟩ := by
  cases outcome with
  | ok data =>
    cases key with
    | none => rfl
    | some key =>
      simp only [conclude, afterCompute, bytes?, Option.bind_some]
      cases m.codec.encode data <;> rfl
  | failed error => cases key <;> rfl
  | panicked message => cases key <;> rfl

end Memo

end DataTier
