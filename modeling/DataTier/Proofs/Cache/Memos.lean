/-
**Memoized calls that share one store.**

A call asks for its key, reads the store, waits for the answer, and computes when there is none;
what it has computed is written in the background.  All of these are steps of their own, and
between any two of them other calls, writes, deletes and purges may run.  A lookup may fail at any
time, a write may land at any time or never, and what is reported of it need not be true.

Every prefix of keys stands for one computation, whose results are stored in one way.  Everything
that matters afterwards is kept in a trace.

Main definitions:

* `DataTier.MemoFamily` — how the results of each prefix are stored, and `MemoFamily.Faithful`,
  that they read back;
* `DataTier.MemoCall`, `DataTier.MemoWriting` — a call and a write on their way;
* `DataTier.MemoEvent` — what has been computed, written and answered;
* `DataTier.Memos`, `Memos.Step`, `Memos.Run` — calls that share a client, and what they do.
-/

import DataTier.Proofs.Cache.Client
import DataTier.Proofs.Store.Run
import Mathlib.Logic.Relation

set_option relaxedAutoImplicit false
set_option autoImplicit false

namespace DataTier

/-- The computations behind the prefixes of keys. -/
structure MemoFamily where
  /-- What the computation of a prefix results in. -/
  Result : String → Type
  /-- How its results are stored. -/
  codec (p : String) : Codec (Result p)

namespace MemoFamily

/-- Stored results read back. -/
def Faithful (F : MemoFamily) : Prop :=
  ∀ p (r : F.Result p) bs, (F.codec p).encode r = .ok bs → (F.codec p).decode? bs = some r

/-- The memoized computation of a prefix. -/
def memo (F : MemoFamily) (p : String) (ttl : Duration) : Memo (F.Result p) where
  keyPrefix := p
  ttl := ttl
  codec := F.codec p

end MemoFamily

/-- How far a call has come. -/
inductive MemoPhase where
  /-- It is to read the store under a key. -/
  | asking (key : String)
  /-- It has read an expired entry, and is to drop it. -/
  | dropping (key : String) (readAt : Instant)
  /-- It has read the store, and waits for the answer. -/
  | waiting (key : String) (readAt : Instant) (found : Option Bytes)
  /-- It computes.  The key is the one that it has asked for. -/
  | computing (key : Option String)
  /-- It has been answered. -/
  | ended
  deriving DecidableEq

namespace MemoPhase

/-- The key of a lookup that has not been answered. -/
def lookup? : MemoPhase → Option String
  | .asking key => some key
  | .dropping key _ => some key
  | .waiting key _ _ => some key
  | _ => none

/-- The key that a call has asked for. -/
def key? : MemoPhase → Option String
  | .computing key => key
  | phase => phase.lookup?

theorem key?_of_lookup? {phase : MemoPhase} {key : String} (h : phase.lookup? = some key) :
    phase.key? = some key := by
  cases phase with
  | computing k => exact absurd h nofun
  | _ => exact h

/-- What a read leads to. -/
def afterProbe (key : String) (now : Instant) : Store.Probe → MemoPhase
  | .absent => .waiting key now none
  | .live value => .waiting key now (some value)
  | .expired => .dropping key now

/-- What a call does first. -/
def ofPlan : Memo.Plan → MemoPhase
  | .look key => .asking key
  | .bypass => .computing none

end MemoPhase

/-- A memoized call. -/
structure MemoCall where
  /-- The prefix of its keys. -/
  keyPrefix : String
  /-- How long its result is to live. -/
  ttl : Duration
  /-- Its arguments. -/
  args : Datum
  /-- How far it has come. -/
  phase : MemoPhase

/-- A write that a call has left to the background. -/
structure MemoWriting where
  /-- The position of the call. -/
  call : Nat
  /-- What is to be written. -/
  write : Memo.Write
  /-- Whether the backend has executed it. -/
  landed : Bool := false
  /-- Whether the client has been told about it, truly or not. -/
  reported : Bool := false

/-- What happens to calls. -/
inductive MemoEvent (F : MemoFamily) where
  /-- A call has computed. -/
  | computed (call : Nat) (p : String) (ttl : Duration) (args : Datum)
      (outcome : Memo.Computed (F.Result p))
  /-- The write of a call has been executed. -/
  | wrote (call : Nat) (time : Instant)
  /-- A call is answered, from what it read in the store if it did. -/
  | returned (call : Nat) (p : String) (args : Datum) (readAt : Option Instant)
      (answer : Memo.Answer (F.Result p))

/-- The arguments of the call to which something happens. -/
def MemoEvent.args? {F : MemoFamily} : MemoEvent F → Option Datum
  | .computed _ _ _ args _ => some args
  | .wrote _ _ => none
  | .returned _ _ args _ _ => some args

/-- Memoized calls that share a client of one store. -/
structure Memos (F : MemoFamily) where
  /-- The client. -/
  client : Client Store
  /-- The time. -/
  clock : Instant
  /-- The calls, the oldest first.  A call keeps its position when it has ended. -/
  calls : List MemoCall := []
  /-- The writes, the oldest first. -/
  writes : List MemoWriting := []
  /-- What has happened, the newest last. -/
  trace : List (MemoEvent F) := []

namespace Memos

variable {F : MemoFamily}

/-- A client of an empty store, before any call. -/
def start (F : MemoFamily) (capacity : Nat) (opTimeout : Duration) (clock : Instant) : Memos F where
  client := .ofBackend Store.backend (.empty capacity) opTimeout
  clock := clock

/-- The memoized computation of a call. -/
abbrev memo (_ : Memos F) (c : MemoCall) : Memo (F.Result c.keyPrefix) := F.memo c.keyPrefix c.ttl

/-- One more call. -/
def begin (s : Memos F) (p : String) (ttl : Duration) (args : Datum) : Memos F :=
  let (plan, client) := (F.memo p ttl).plan s.client args
  { s with client, calls := s.calls ++ [⟨p, ttl, args, .ofPlan plan⟩] }

/-- Call `i` goes on to another phase. -/
def advance (s : Memos F) (i : Nat) (c : MemoCall) (phase : MemoPhase) : Memos F :=
  { s with calls := s.calls.set i { c with phase } }

/-- The store is another one. -/
def withStore (s : Memos F) (store : Store) : Memos F :=
  { s with client := { s.client with state := store } }

/-- The lookup of call `i` ends. -/
def answer (s : Memos F) (i : Nat) (c : MemoCall) (key : String) (readAt : Option Instant)
    (elapsed : Double) (result : Except CacheError (Option Bytes)) : Memos F :=
  match (s.memo c).afterLookup s.client key result with
  | (.hit key data, client) =>
    { s.advance i c .ended with
      client
      trace := s.trace ++
        [.returned i c.keyPrefix c.args readAt (.ok (some key) (.hit data elapsed))] }
  | (.miss key, client) => { s.advance i c (.computing (some key)) with client }
  | (.bypass, client) => { s.advance i c (.computing none) with client }

/-- Call `i` has computed, is answered, and may leave a write. -/
def conclude (s : Memos F) (i : Nat) (c : MemoCall) (key : Option String) (elapsed : Double)
    (outcome : Memo.Computed (F.Result c.keyPrefix)) : Memos F :=
  let (answer, write, client) := (s.memo c).conclude s.client key elapsed outcome
  { s.advance i c .ended with
    client
    writes := s.writes ++ write.toList.map (⟨i, ·, false, false⟩)
    trace := s.trace ++
      [.computed i c.keyPrefix c.ttl c.args outcome,
        .returned i c.keyPrefix c.args none answer] }

/-- Write `k` is executed by the backend. -/
def land (s : Memos F) (k : Nat) (w : MemoWriting) : Memos F :=
  match s.client.request fun b => b.setex s.clock w.write.key w.write.ttl w.write.value with
  | (some (.answered (.ok ())), client) =>
    { s with
      client
      writes := s.writes.set k { w with landed := true }
      trace := s.trace ++ [.wrote w.call s.clock] }
  | (_, client) => { s with client, writes := s.writes.set k { w with landed := true } }

/-- **One step** of memoized calls. -/
inductive Step : Memos F → Memos F → Prop
  /-- Time passes. -/
  | tick {s} (d : Nat) : Step s { s with clock := s.clock + d }
  /-- A call begins. -/
  | begin {s} (p : String) (ttl : Duration) (args : Datum) : Step s (s.begin p ttl args)
  /-- A call reads the store. -/
  | read {s i c key} (hi : s.calls[i]? = some c) (hp : c.phase = .asking key) :
      Step s (s.advance i c (.afterProbe key s.clock (s.client.state.probe s.clock key)))
  /-- A call drops an expired entry, if it is still there. -/
  | drop {s i c key t} (hi : s.calls[i]? = some c) (hp : c.phase = .dropping key t) :
      Step s ((s.advance i c (.waiting key t none)).withStore
        (s.client.state.dropExpired s.clock key))
  /-- The lookup of a call is answered with what has been read. -/
  | answer {s i c key t found} (hi : s.calls[i]? = some c) (hp : c.phase = .waiting key t found)
      (elapsed : Double) : Step s (s.answer i c key (some t) elapsed (.ok found))
  /-- The lookup of a call fails or times out, whatever it has read. -/
  | fail {s i c key} (hi : s.calls[i]? = some c) (hp : c.phase.lookup? = some key)
      (elapsed : Double) (e : CacheError) : Step s (s.answer i c key none elapsed (.error e))
  /-- The computation of a call comes to something. -/
  | conclude {s i c key} (hi : s.calls[i]? = some c) (hp : c.phase = .computing key)
      (elapsed : Double) (outcome : Memo.Computed (F.Result c.keyPrefix)) :
      Step s (s.conclude i c key elapsed outcome)
  /-- A write is executed. -/
  | land {s k w} (hk : s.writes[k]? = some w) (hl : w.landed = false) : Step s (s.land k w)
  /-- A write is reported as done, as failed or as timed out, whether it has landed or not. -/
  | report {s k w} (hk : s.writes[k]? = some w) (hr : w.reported = false)
      (result : Except CacheError Unit) :
      Step s { s with
        client := s.client.finishWriteBack w.write.key w.write.ttl w.write.value.length result
        writes := s.writes.set k { w with reported := true } }
  /-- Somebody else reads, deletes or purges. -/
  | serve {s} (r : StoreRequest) (hr : ∀ key ttl value, r ≠ .setex key ttl value) :
      Step s (s.withStore (s.client.state.serve s.clock r))
  /-- Somebody else's read is answered. -/
  | finishGet {s} (key : String) (result : Except CacheError (Option Bytes)) :
      Step s { s with client := (s.client.finishGet key result).2 }
  /-- Somebody else's delete is answered. -/
  | finishDelete {s} (key : String) (result : Except CacheError Unit) :
      Step s { s with client := (s.client.finishDelete key result).2 }

/-- **Any number of steps.** -/
abbrev Run : Memos F → Memos F → Prop := Relation.ReflTransGen Step

/-! ### Whole calls -/

variable {s : Memos F}

/-- What a call has gone through does not matter to the end of its lookup. -/
theorem answer_advance (s : Memos F) (i : Nat) (c : MemoCall) (phase : MemoPhase) (key : String)
    (readAt : Option Instant) (elapsed : Double) (result : Except CacheError (Option Bytes)) :
    (s.advance i c phase).answer i { c with phase } key readAt elapsed result =
      s.answer i c key readAt elapsed result := by
  simp only [answer, advance]
  cases h : (F.memo c.keyPrefix c.ttl).afterLookup s.client key result with
  | mk lookup client => cases lookup <;> simp

theorem getElem?_advance {i : Nat} {c : MemoCall} (hi : s.calls[i]? = some c)
    (phase : MemoPhase) : (s.advance i c phase).calls[i]? = some { c with phase } := by
  simp [advance, (List.getElem?_eq_some_iff.1 hi).1]

theorem advance_advance (s : Memos F) (i : Nat) (c : MemoCall) (phase phase' : MemoPhase) :
    (s.advance i c phase).advance i { c with phase } phase' = s.advance i c phase' := by
  simp [advance]

/-- Reading, dropping what has expired, and being answered at one moment is a lookup. -/
theorem run_lookup {i : Nat} {c : MemoCall} {key : String} (hi : s.calls[i]? = some c)
    (hp : c.phase = .asking key) (elapsed : Double) :
    Run s ((s.withStore (s.client.state.get s.clock key).2).answer i c key (some s.clock) elapsed
      (.ok (s.client.state.get s.clock key).1)) := by
  have hread := Relation.ReflTransGen.single (Step.read hi hp)
  have hanswer (store : Store) (found : Option Bytes) :
      Step ((s.withStore store).advance i c (.waiting key s.clock found))
        ((s.withStore store).answer i c key (some s.clock) elapsed (.ok found)) := by
    have hi' : (s.withStore store).calls[i]? = some c := hi
    have hstep := Step.answer (getElem?_advance hi' (.waiting key s.clock found)) rfl elapsed
    rwa [answer_advance] at hstep
  -- Only an expired entry takes a step between the read and the answer.
  unfold Store.get
  cases hprobe : s.client.state.probe s.clock key with
  | absent =>
    rw [hprobe, MemoPhase.afterProbe] at hread
    exact hread.tail (hanswer s.client.state none)
  | live value =>
    rw [hprobe, MemoPhase.afterProbe] at hread
    exact hread.tail (hanswer s.client.state (some value))
  | expired =>
    rw [hprobe, MemoPhase.afterProbe] at hread
    have hdrop := Step.drop (getElem?_advance hi (.dropping key s.clock)) rfl
    rw [advance_advance] at hdrop
    exact (hread.tail hdrop).tail (hanswer _ none)

section WholeCalls

variable {R : Type} {m : Memo R} {client : Client Store} {now : Instant} {args : Datum}
  {key : String} {elapsed : Double} {compute : Unit → Memo.Computed R}

/-- A lookup over the store in this process. -/
theorem lookup_eq (hb : client.backend = some Store.backend) :
    m.lookup client now args =
      match m.plan client args with
      | (.bypass, client) => (.done .bypass, client)
      | (.look key, client) =>
        let (found, state) := client.state.get now key
        let (lookup, client) := m.afterLookup { client with state } key (.ok found)
        (.done lookup, client) := by
  have hsame := m.same_plan client args
  unfold Memo.lookup
  rcases hplan : m.plan client args with ⟨plan, client'⟩
  rw [hplan] at hsame
  cases plan with
  | bypass => rfl
  | look key =>
    have hb' : client'.backend = some Store.backend := hsame.backend.trans hb
    simp only [Client.run, Client.request, hb', Store.backend, Client.settle]

theorem plan_eq_look (hb : client.backend = some Store.backend) (hkey : m.keyFor args = .ok key) :
    m.plan client args = (.look key, client) := by
  simp [Memo.plan, Client.isEnabled, hb, hkey]

/-- A call whose key is stored and live, with bytes that are a result, is answered with it. -/
theorem call_of_found {data : R} {bs : Bytes} {store : Store}
    (hb : client.backend = some Store.backend) (hkey : m.keyFor args = .ok key)
    (hget : client.state.get now key = (some bs, store))
    (hdecode : m.codec.decode? bs = some data) :
    ∃ client', m.call client now args elapsed compute =
        (.ok (some key) (.hit data elapsed), none, client') ∧
      client'.backend = some Store.backend ∧ client'.state = store := by
  unfold Memo.call
  rw [lookup_eq hb, plan_eq_look hb hkey]
  simp only [hget, Memo.afterLookup, Client.finishGetJson, Client.absorb, Client.decodeFound,
    hdecode]
  exact ⟨_, rfl, hb, rfl⟩

/-- A call whose key is not stored computes, and leaves a write of the result. -/
theorem call_of_absent {data : R} {bs : Bytes} {store : Store}
    (hb : client.backend = some Store.backend) (hkey : m.keyFor args = .ok key)
    (hget : client.state.get now key = (none, store)) (hcompute : compute () = .ok data)
    (hencode : m.codec.encode data = .ok bs) :
    ∃ client', m.call client now args elapsed compute =
        (.ok (some key) (.computed data elapsed), some ⟨key, m.ttl, bs⟩, client') ∧
      client'.backend = some Store.backend ∧ client'.state = store := by
  unfold Memo.call
  rw [lookup_eq hb, plan_eq_look hb hkey]
  simp only [hget, Memo.afterLookup, Client.finishGetJson, Client.absorb, Client.decodeFound,
    hcompute, Memo.conclude, Memo.afterCompute, hencode]
  exact ⟨_, rfl, hb, rfl⟩

end WholeCalls

theorem begin_eq {p : String} {ttl : Duration} {args : Datum} {plan : Memo.Plan}
    {client : Client Store} (hplan : (F.memo p ttl).plan s.client args = (plan, client)) :
    s.begin p ttl args =
      { s with client, calls := s.calls ++ [⟨p, ttl, args, .ofPlan plan⟩] } := by
  rw [begin, hplan]

/-- **A whole call at one moment is a run**: the client, the write that is left and the answer are
those of `Memo.call`. -/
theorem run_call (hb : s.client.backend = some Store.backend) (p : String) (ttl : Duration)
    (args : Datum) (elapsed : Double) (compute : Unit → Memo.Computed (F.Result p)) :
    ∃ s' computed readAt, Run s s' ∧ s'.clock = s.clock ∧
      s'.client = ((F.memo p ttl).call s.client s.clock args elapsed compute).2.2 ∧
      s'.writes = s.writes ++
        ((F.memo p ttl).call s.client s.clock args elapsed compute).2.1.toList.map
          (⟨s.calls.length, ·, false, false⟩) ∧
      (computed = [] ∨ computed = [.computed s.calls.length p ttl args (compute ())]) ∧
      s'.trace = s.trace ++ computed ++ [.returned s.calls.length p args readAt
        ((F.memo p ttl).call s.client s.clock args elapsed compute).1] := by
  have hbegin := Relation.ReflTransGen.single (Step.begin (s := s) p ttl args)
  unfold Memo.call
  rw [lookup_eq hb]
  rcases hplan : (F.memo p ttl).plan s.client args with ⟨plan, client⟩
  rw [begin_eq hplan] at hbegin
  have hnew (phase : MemoPhase) : (s.calls ++ [⟨p, ttl, args, phase⟩])[s.calls.length]? =
      some ⟨p, ttl, args, phase⟩ := by simp
  cases plan with
  | bypass =>
    have hconclude := hbegin.tail (Step.conclude (hnew _) rfl elapsed (compute ()))
    exact ⟨_, [_], none, hconclude, rfl, rfl, rfl, .inr rfl, by simp [conclude]⟩
  | look key =>
    have hlookup := hbegin.trans (run_lookup (hnew _) rfl elapsed)
    rcases hget : client.state.get s.clock key with ⟨found, store⟩
    rcases hafter : (F.memo p ttl).afterLookup { client with state := store } key (.ok found) with
      ⟨lookup, client'⟩
    simp only [hget, withStore, answer, hafter, advance] at hlookup ⊢
    -- A hit is answered at once; otherwise the call goes on to compute.
    cases lookup with
    | hit k data => exact ⟨_, [], some s.clock, hlookup, rfl, rfl, by simp, .inl rfl, by simp⟩
    | miss k =>
      have hconclude := hlookup.tail (Step.conclude (i := s.calls.length)
        (c := ⟨p, ttl, args, .computing (some k)⟩) (by simp) rfl elapsed (compute ()))
      exact ⟨_, [_], none, hconclude, rfl, rfl, rfl, .inr rfl, by simp [conclude]⟩
    | bypass =>
      have hconclude := hlookup.tail (Step.conclude (i := s.calls.length)
        (c := ⟨p, ttl, args, .computing none⟩) (by simp) rfl elapsed (compute ()))
      exact ⟨_, [_], none, hconclude, rfl, rfl, rfl, .inr rfl, by simp [conclude]⟩

end Memos

end DataTier
