/-
**What one memoized call does.**

A call leaves the cache alone, is answered from it, or asks it in vain and computes.  Which of the
three it is depends on the client, the arguments and the reply of the backend; how long the reply
and the computation take does not matter, and neither does why a lookup has found nothing.

A call is a job that is polled, and that waits at most twice: for its lookup and for its
computation.  While it waits, earlier writes may begin or end in the background, and these ask and
count for themselves.  What the call does itself is therefore said of the moments between the
waits; in a session with nothing in the background the waits change nothing but the time.

Main definitions:

* `DataTier.Memo.found?`, `Memo.counted` — what a lookup has found, and what it has counted;
* `DataTier.Memo.leaves` — what a computation leaves to be written;
* `DataTier.Session.Meanwhile`, `Session.Does` — what goes on while a call waits, and what it does
  itself;
* `DataTier.Session.Bypassed`, `Session.FromCache`, `Session.AfterMiss` — the three ways of a call;
* `DataTier.Session.Honest` — an answer that says where its data come from.

Main results:

* `DataTier.Session.Idle.meanwhile` — nothing but the time changes when nothing is left to be done;
* `DataTier.Session.runJobs_compute`, `Session.exists_lookedUp` — the two waits of a call;
* `DataTier.Session.memoized_call_cases` — **what one memoized call does**.
-/

import DataTier.Cache.ResultType
import DataTier.Cache.Scripted
import DataTier.Cache.Session
import DataTier.Proofs.Cache.Client

set_option relaxedAutoImplicit false
set_option autoImplicit false

namespace DataTier

/-! ### The moments of a call -/

theorem Client.opTimeout_finishWriteBack {σ : Type} (c : Client σ) (key : String) (ttl : Duration)
    (length : Nat) (result : Except CacheError Unit) :
    (c.finishWriteBack key ttl length result).opTimeout = c.opTimeout := by
  cases result with
  | ok _ => rfl
  | error e => rfl

namespace Memo

variable {σ R : Type}

/-- The data that a lookup has found. -/
def found? (m : Memo R) : Except CacheError (Option Bytes) → Option R
  | .ok (some bs) => m.codec.decode? bs
  | _ => none

/-- The counters once a lookup has ended. -/
def counted (m : Memo R) (stats : CacheStats) (result : Except CacheError (Option Bytes)) :
    CacheStats :=
  if (m.found? result).isSome then stats.hit
  else
    match result with
    | .ok none => stats.miss
    | _ => stats.error.miss

/-- The writes that a computation leaves under a key: one, if it has come to data with bytes. -/
def leaves (m : Memo R) (key : String) : Computed R → List Write
  | .ok data =>
    match m.codec.encode data with
    | .ok bytes => [⟨key, m.ttl, bytes⟩]
    | .error _ => []
  | _ => []

variable {m : Memo R} {c : Client σ} {args : Datum} {key : String}

/-- A call leaves the cache alone when there is none, or no key. -/
theorem plan_of_bypass (h : c.backend = none ∨ ∃ fault, m.keyFor args = .error fault) :
    (m.plan c args).1 = .bypass := by
  obtain hbackend | ⟨fault, hkey⟩ := h
  · simp [plan, Client.isEnabled, hbackend]
  · rw [plan, hkey]
    split
    · rfl
    · rfl

/-- Otherwise it asks. -/
theorem plan_of_key {b : Backend σ} (hbackend : c.backend = some b)
    (hkey : m.keyFor args = .ok key) : m.plan c args = (.look key, c) := by
  simp [plan, Client.isEnabled, hbackend, hkey]

theorem stats_plan (m : Memo R) (c : Client σ) (args : Datum) :
    (m.plan c args).2.stats = c.stats := by
  unfold plan
  split
  · cases m.keyFor args <;> rfl
  · rfl

theorem afterLookup_fst (m : Memo R) (c : Client σ) (key : String)
    (result : Except CacheError (Option Bytes)) :
    (m.afterLookup c key result).1 =
      match m.found? result with
      | some data => .hit key data
      | none => .miss key := by
  cases result with
  | error e => rfl
  | ok found =>
      rw [afterLookup_ok]
      cases found <;> rfl

theorem counted_of_found {result : Except CacheError (Option Bytes)} {data : R}
    (hfound : m.found? result = some data) (stats : CacheStats) :
    m.counted stats result = stats.hit := by
  simp [counted, hfound]

theorem stats_afterLookup (m : Memo R) (c : Client σ) (key : String)
    (result : Except CacheError (Option Bytes)) :
    (m.afterLookup c key result).2.stats = m.counted c.stats result := by
  rcases result with e | _ | bs
  · rfl
  · rfl
  · cases hdecode : m.codec.decode? bs <;>
      simp only [afterLookup, Client.finishGetJson, Client.absorb, Client.decodeFound, counted,
        found?, hdecode] <;> rfl

theorem stats_conclude (m : Memo R) (c : Client σ) (key : Option String) (elapsed : Double)
    (outcome : Computed R) : (m.conclude c key elapsed outcome).2.2.stats = c.stats := by
  rcases outcome with data | _ | _
  · cases key with
    | none => rfl
    | some key =>
        simp only [conclude, afterCompute]
        cases m.codec.encode data <;> rfl
  · rfl
  · rfl

theorem toList_write_conclude (m : Memo R) (c : Client σ) (key : Option String)
    (elapsed : Double) (outcome : Computed R) :
    (m.conclude c key elapsed outcome).2.1.toList =
      key.elim [] fun key => m.leaves key outcome := by
  rw [write_conclude]
  cases key with
  | none => rfl
  | some key =>
      rcases outcome with data | _ | _
      · simp only [Option.bind_some, Option.elim_some, bytes?, leaves]
        cases m.codec.encode data <;> rfl
      · rfl
      · rfl

/-- A call that computes breaks down with the computation only. -/
theorem conclude_ne_panicked {outcome : Computed R}
    (h : ∀ message, outcome ≠ .panicked message) (m : Memo R) (c : Client σ)
    (key : Option String) (elapsed : Double) (message : String) :
    (m.conclude c key elapsed outcome).1 ≠ .panicked message := by
  intro hpanicked
  have houtcome := (m.outcome_conclude c key elapsed outcome).1
  rw [hpanicked] at houtcome
  exact h message houtcome.symm

end Memo

namespace Session

variable {σ : Type} {s s' s₀ : Session σ} {j : Job} {t : Task} {due fuel : Nat}

/-! ### Meanwhile -/

/-- What goes on while a call waits, if it has to: the background does all that it can do, and
writes whose time is up by `due` are given up. -/
def Meanwhile (s s' : Session σ) : Prop := s' = s ∨ ∃ due, s' = s.background.waitUntil due

/-- What the background leaves as it is: the backend in its place, the patience of the client and
the computations. -/
structure Keeps (s s' : Session σ) : Prop where
  backend : s'.client.backend = s.client.backend
  opTimeout : s'.client.opTimeout = s.client.opTimeout
  tasks : s'.tasks = s.tasks

theorem Keeps.rfl (s : Session σ) : s.Keeps s := ⟨Eq.refl _, Eq.refl _, Eq.refl _⟩

theorem Keeps.trans {a b c : Session σ} (h : a.Keeps b) (h' : b.Keeps c) : a.Keeps c :=
  ⟨h'.backend.trans h.backend, h'.opTimeout.trans h.opTimeout, h'.tasks.trans h.tasks⟩

theorem keeps_foldl {α : Type} {f : Session σ → α → Session σ}
    (hf : ∀ (s : Session σ) (x : α), s.Keeps (f s x)) (xs : List α) (s : Session σ) :
    s.Keeps (xs.foldl f s) := by
  induction xs generalizing s with
  | nil => exact .rfl s
  | cons x xs ih => exact (hf s x).trans (ih (f s x))

theorem keeps_finishWriteBack (s : Session σ) (key : String) (ttl : Duration) (length : Nat)
    (result : Except CacheError Unit) :
    s.Keeps (s.withClient (s.client.finishWriteBack key ttl length result)) where
  backend := (s.client.same_finishWriteBack key ttl length result).backend
  opTimeout := s.client.opTimeout_finishWriteBack key ttl length result
  tasks := rfl

theorem keeps_giveUp (s : Session σ) (w : Waiting) : s.Keeps (s.giveUp w) :=
  s.keeps_finishWriteBack _ _ _ _

theorem keeps_giveUpBefore (s : Session σ) (bound : Nat) : s.Keeps (s.giveUpBefore bound) := by
  have hleft : s.Keeps { s with waiting := s.waiting.filter fun w => !(w.due < bound) } :=
    ⟨rfl, rfl, rfl⟩
  exact hleft.trans (keeps_foldl keeps_giveUp _ _)

theorem keeps_request {α : Type} (s : Session σ) (ask : Instant → Backend σ → σ → Reply α × σ) :
    s.Keeps (s.request ask).2 := by
  obtain ⟨⟨backend, state, opTimeout, stats, log⟩, clock, network, spawned, waiting, tasks⟩ := s
  cases backend with
  | none => exact ⟨rfl, rfl, rfl⟩
  | some b => exact ⟨rfl, rfl, rfl⟩

theorem keeps_start (s : Session σ) (w : Memo.Write) : s.Keeps (s.start w).2 := by
  have hasked := s.keeps_request fun now b => b.setex now w.key w.ttl w.value
  rcases hrequest : s.request fun now b => b.setex now w.key w.ttl w.value with ⟨reply, s₁⟩
  rw [hrequest] at hasked
  unfold start
  rw [hrequest]
  rcases reply with _ | result | _ | message
  · exact hasked
  · exact hasked.trans (keeps_finishWriteBack _ _ _ _ _)
  · -- A write that is not answered waits, unless it is given up at once.
    by_cases hcome : s₁.hasCome (s₁.dueIn s₁.client.opTimeout) = true
    · simp only [if_pos hcome]
      exact hasked.trans (keeps_giveUp _ _)
    · simp only [if_neg hcome]
      exact ⟨hasked.backend, hasked.opTimeout, hasked.tasks⟩
  · exact hasked

theorem keeps_background (s : Session σ) : s.Keeps s.background := by
  have hdue : s.Keeps s.giveUpDue := s.keeps_giveUpBefore _
  have hbegun : s.Keeps { s.giveUpDue with spawned := [] } :=
    ⟨hdue.backend, hdue.opTimeout, hdue.tasks⟩
  exact hbegun.trans (keeps_foldl keeps_start _ _)

theorem keeps_waitUntil (s : Session σ) (due : Nat) : s.Keeps (s.waitUntil due) := by
  have hbefore := s.keeps_giveUpBefore due
  exact ⟨hbefore.backend, hbefore.opTimeout, hbefore.tasks⟩

theorem Meanwhile.keeps (h : s.Meanwhile s') : s.Keeps s' := by
  obtain rfl | ⟨due, rfl⟩ := h
  · exact .rfl s'
  · exact s.keeps_background.trans (keeps_waitUntil _ due)

/-- There is no work in the background. -/
structure Idle (s : Session σ) : Prop where
  /-- No write is about to begin. -/
  spawned : s.spawned = []
  /-- No write waits for an answer. -/
  waiting : s.waiting = []

theorem Idle.giveUpBefore (h : s.Idle) (bound : Nat) : s.giveUpBefore bound = s := by
  obtain ⟨client, clock, network, spawned, waiting, tasks⟩ := s
  obtain rfl : waiting = [] := h.waiting
  rfl

theorem Idle.background (h : s.Idle) : s.background = s := by
  have hdue : s.giveUpDue = s := h.giveUpBefore _
  obtain ⟨client, clock, network, spawned, waiting, tasks⟩ := s
  obtain rfl : spawned = [] := h.spawned
  rw [Session.background, hdue]
  rfl

/-- **With nothing left to be done, only the time changes meanwhile.** -/
theorem Idle.meanwhile (hidle : s.Idle) (h : s.Meanwhile s') :
    ∃ network, s' = { s with network } := by
  obtain rfl | ⟨due, rfl⟩ := h
  · exact ⟨s'.network, rfl⟩
  · rw [hidle.background, waitUntil, hidle.giveUpBefore]
    exact ⟨_, rfl⟩

/-! ### What a call does itself -/

/-- The session when a backend has been asked for a key. -/
def asked (s : Session σ) (b : Backend σ) (key : String) : Session σ :=
  s.tick.withClient { s.client with state := (b.get s.tick.clock key s.client.state).2 }

/-- What a call does at one moment, beside its request: the counters become `stats`, and `writes`
are left to the background. -/
structure Does (s : Session σ) (stats : CacheStats) (writes : List Memo.Write)
    (s' : Session σ) : Prop where
  client : s.client.Same s'.client
  stats : s'.client.stats = stats
  spawned : s'.spawned = s.spawned ++ writes
  waiting : s'.waiting = s.waiting

/-- The session when a run of a computation has begun. -/
def running (s : Session σ) (number : Nat) (t : Task) : Session σ :=
  { s with tasks := s.tasks.set number { t with runs := t.runs + 1 } }

/-- A run that begins is not counted by the client. -/
theorem Does.running {stats : CacheStats} {writes : List Memo.Write}
    (h : s.Does stats writes s') (number : Nat) (t : Task) :
    s.Does stats writes (s'.running number t) :=
  ⟨h.client, h.stats, h.spawned, h.waiting⟩

theorem request_eq_asked {b : Backend σ} (hbackend : s.client.backend = some b) (key : String) :
    (s.request fun now b => b.get now key) =
      (some (b.get s.tick.clock key s.client.state).1, s.asked b key) := by
  have hclient : s.tick.client = s.client := rfl
  simp only [request, Client.request, hclient, hbackend, asked]

/-- Without a cache or without a key a call begins to compute. -/
theorem begin_of_bypass {args : Datum}
    (h : s.client.backend = none ∨ ∃ fault, t.memo.keyFor args = .error fault) (number : Nat) :
    s.begin number t args =
      (s.withClient (t.memo.plan s.client args).2).compute number t none Binary.zero := by
  have hfst := Memo.plan_of_bypass h
  rcases hplan : t.memo.plan s.client args with ⟨plan, c⟩
  rw [hplan] at hfst
  subst hfst
  simp only [begin, hplan]

/-- A lookup that has found data leaves nothing to be done. -/
theorem lookedUp_of_found {key : String} {result : Except CacheError (Option Bytes)} {data : Datum}
    (hfound : t.memo.found? result = some data) (number since : Nat) :
    s.lookedUp number t key since result =
      (.ended (.ok (some key) (.hit data (s.elapsed since))),
        s.withClient (t.memo.afterLookup s.client key result).2) := by
  have hfst := t.memo.afterLookup_fst s.client key result
  rcases hlookup : t.memo.afterLookup s.client key result with ⟨l, c⟩
  simp only [hlookup, hfound] at hfst
  subst hfst
  simp only [lookedUp, hlookup]

/-- A lookup that has found none leaves the computation. -/
theorem lookedUp_of_not_found {key : String} {result : Except CacheError (Option Bytes)}
    (hfound : t.memo.found? result = none) (number since : Nat) :
    s.lookedUp number t key since result =
      (s.withClient (t.memo.afterLookup s.client key result).2).compute number t (some key)
        (s.elapsed since) := by
  have hfst := t.memo.afterLookup_fst s.client key result
  rcases hlookup : t.memo.afterLookup s.client key result with ⟨l, c⟩
  simp only [hlookup, hfound] at hfst
  subst hfst
  simp only [lookedUp, hlookup]

/-- A plan counts nothing. -/
theorem does_plan (s : Session σ) (m : Memo Datum) (args : Datum) :
    s.Does s.client.stats [] (s.withClient (m.plan s.client args).2) where
  client := m.same_plan s.client args
  stats := m.stats_plan s.client args
  spawned := (List.append_nil _).symm
  waiting := rfl

/-- The end of a lookup counts it. -/
theorem does_afterLookup (s : Session σ) (m : Memo Datum) (key : String)
    (result : Except CacheError (Option Bytes)) :
    s.Does (m.counted s.client.stats result) []
      (s.withClient (m.afterLookup s.client key result).2) where
  client := m.same_afterLookup s.client key result
  stats := m.stats_afterLookup s.client key result
  spawned := (List.append_nil _).symm
  waiting := rfl

/-- The end of a computation leaves what is to be written, and counts nothing. -/
theorem does_conclude (s : Session σ) (t : Task) (key : Option String) (elapsed : Double)
    (result : Memo.Computed Datum) :
    s.Does s.client.stats (key.elim [] fun key => t.memo.leaves key result)
      (s.conclude t key elapsed result).2 := by
  have hsame := t.memo.same_conclude s.client key elapsed result
  have hstats := t.memo.stats_conclude s.client key elapsed result
  have hwrites := t.memo.toList_write_conclude s.client key elapsed result
  rcases hconclude : t.memo.conclude s.client key elapsed result with ⟨answer, write, c⟩
  rw [hconclude] at hsame hstats hwrites
  simp only [conclude, hconclude, ← hwrites]
  cases write with
  | none => exact ⟨hsame, hstats, (List.append_nil _).symm, rfl⟩
  | some w => exact ⟨hsame, hstats, rfl, rfl⟩

theorem tasks_conclude (s : Session σ) (t : Task) (key : Option String) (elapsed : Double)
    (result : Memo.Computed Datum) : (s.conclude t key elapsed result).2.tasks = s.tasks := by
  rcases hconclude : t.memo.conclude s.client key elapsed result with ⟨answer, write, c⟩
  rw [conclude, hconclude]
  cases write <;> rfl

/-! ### One job -/

/-- The job of a call that has ended. -/
def Job.over (j : Job) (answer : Memo.Answer Datum) (runs : Nat) : Job :=
  { j with phase := .ended answer, runs }

@[simp] theorem pollAll_singleton (s : Session σ) (j : Job) :
    s.pollAll [j] = ([(s.poll j).1], (s.poll j).2) := by
  rcases hpoll : s.poll j with ⟨j', s'⟩
  simp [pollAll, hpoll]

theorem Job.after_eq (ht : s.tasks[j.task]? = some t) (phase : Phase) :
    j.after (phase, s) = ({ j with phase, runs := t.runs }, s) := by
  simp [Job.after, ht]

theorem hasCome_moveTo (s : Session σ) (due : Nat) : (s.moveTo due).hasCome due = true := by
  have hle : due * nanosPerMilli ≤ max s.network (due * nanosPerMilli) := Nat.le_max_right ..
  rw [hasCome, decide_eq_true_iff]
  exact (Nat.le_div_iff_mul_le (by decide)).2 hle

theorem hasCome_waitUntil (s : Session σ) (due : Nat) : (s.waitUntil due).hasCome due = true :=
  (s.giveUpBefore due).hasCome_moveTo due

theorem poll_fresh (ht : s.tasks[j.task]? = some t) (hphase : j.phase = .fresh) :
    s.poll j = j.after (s.begin j.task t j.args) := by
  simp [poll, ht, hphase]

theorem poll_looking {key : String} {since : Nat} (ht : s.tasks[j.task]? = some t)
    (hphase : j.phase = .looking key since due) (hcome : s.hasCome due = true) :
    s.poll j = j.after
      (s.lookedUp j.task t key since (.error (.timeout s.client.opTimeout))) := by
  simp [poll, ht, hphase, hcome]

theorem poll_computing {key : Option String} {elapsed : Double}
    {result : Memo.Computed Datum} (ht : s.tasks[j.task]? = some t)
    (hphase : j.phase = .computing key elapsed result due) (hcome : s.hasCome due = true) :
    s.poll j = j.after (s.conclude t key elapsed result) := by
  simp [poll, ht, hphase, hcome]

/-- A job that need not wait is over. -/
theorem runJobs_of_ended {j' : Job} (hpoll : s.poll j = (j', s')) (hdue : j'.due? = none) :
    runJobs (fuel + 1) s [j] = ([j'], s') := by
  simp [runJobs, hpoll, hdue, earliest?]

/-- A job that waits goes on when its time has come. -/
theorem runJobs_of_waiting {j' : Job} (hpoll : s.poll j = (j', s'))
    (hdue : j'.due? = some due) :
    runJobs (fuel + 1) s [j] = runJobs fuel (s'.background.waitUntil due) [j'] := by
  have hpanic : j'.panic? = none := by
    unfold Job.due? at hdue
    unfold Job.panic?
    split at hdue <;> simp_all
  simp [runJobs, hpoll, hpanic, hdue, earliest?]

/-! ### The waits of a call -/

/-- A computation that ends leaves its write to the background. -/
theorem after_conclude (ht : s.tasks[j.task]? = some t) (t' : Task) (key : Option String)
    (elapsed : Double) (result : Memo.Computed Datum) :
    j.after (s.conclude t' key elapsed result) =
      (j.over (t'.memo.conclude s.client key elapsed result).1 t.runs,
        (s.conclude t' key elapsed result).2) := by
  have hphase : (s.conclude t' key elapsed result).1 =
      .ended (t'.memo.conclude s.client key elapsed result).1 := rfl
  simp only [Job.after, tasks_conclude, ht, hphase]
  rfl

/-- **A call that computes** waits for its run, and then ends with what the run has come to. -/
theorem runJobs_compute (fuel : Nat) (ht : s.tasks[j.task]? = some t) {key : Option String}
    {elapsed : Double} (hpoll : s₀.poll j = j.after (s.compute j.task t key elapsed)) :
    ∃ s₁, (s.running j.task t).Meanwhile s₁ ∧
      runJobs (fuel + 2) s₀ [j] =
        ([j.over (t.memo.conclude s₁.client key elapsed t.next).1 (t.runs + 1)],
          (s₁.conclude t key elapsed t.next).2) := by
  obtain ⟨hlt, -⟩ := List.getElem?_eq_some_iff.1 ht
  -- The run is counted when it begins.
  let t' : Task := { t with runs := t.runs + 1 }
  have ht' : (s.running j.task t).tasks[j.task]? = some t' := List.getElem?_set_self hlt
  let due := (s.running j.task t).dueIn t.delay
  by_cases hcome : (s.running j.task t).hasCome due = true
  · have hcompute : s.compute j.task t key elapsed =
        (s.running j.task t).conclude t key elapsed t.next := if_pos hcome
    rw [hcompute, after_conclude ht'] at hpoll
    exact ⟨_, .inl rfl, runJobs_of_ended hpoll rfl⟩
  · have hcompute : s.compute j.task t key elapsed =
        (.computing key elapsed t.next due, s.running j.task t) := if_neg hcome
    rw [hcompute, Job.after_eq ht'] at hpoll
    let j' : Job := { j with phase := .computing key elapsed t.next due, runs := t'.runs }
    let s₁ := (s.running j.task t).background.waitUntil due
    have hwait : (s.running j.task t).Meanwhile s₁ := .inr ⟨due, rfl⟩
    have ht₁ : s₁.tasks[j'.task]? = some t' := by rw [hwait.keeps.tasks, ht']
    have hlater : s₁.poll j' = j'.after (s₁.conclude t' key elapsed t.next) :=
      poll_computing ht₁ rfl (hasCome_waitUntil _ due)
    rw [after_conclude ht₁] at hlater
    refine ⟨s₁, hwait, ?_⟩
    rw [runJobs_of_waiting hpoll rfl]
    exact runJobs_of_ended hlater rfl

/-- **A call that asks the backend** waits for the reply, and goes on with what it comes to. -/
theorem exists_lookedUp (fuel : Nat) {b : Backend σ} {key : String}
    {result : Except CacheError (Option Bytes)} (ht : s.tasks[j.task]? = some t)
    (hphase : j.phase = .fresh) (hbackend : s.client.backend = some b)
    (hkey : t.memo.keyFor j.args = .ok key)
    (hresult : s.client.settle (b.get s.tick.clock key s.client.state).1 = .done result) :
    ∃ s₀ s₁ phase runs since fuel', (s.asked b key).Meanwhile s₁ ∧
      runJobs (fuel + 3) s [j] = runJobs (fuel' + 2) s₀ [{ j with phase, runs }] ∧
      s₀.poll { j with phase, runs } = j.after (s₁.lookedUp j.task t key since result) := by
  have hpoll := poll_fresh ht hphase
  simp only [begin, Memo.plan_of_key hbackend hkey] at hpoll
  have hrequest : ((s.withClient s.client).request fun now b => b.get now key) =
      (some (b.get s.tick.clock key s.client.state).1, s.asked b key) :=
    request_eq_asked hbackend key
  rw [hrequest] at hpoll
  cases hreply : (b.get s.tick.clock key s.client.state).1 with
  | panicked message =>
      rw [hreply] at hresult
      cases hresult
  | answered answer =>
      rw [hreply] at hresult hpoll
      obtain rfl := Outcome.done.inj hresult
      exact ⟨s, _, j.phase, j.runs, _, fuel + 1, .inl rfl, rfl, hpoll⟩
  | stalled =>
      rw [hreply] at hresult hpoll
      obtain rfl := Outcome.done.inj hresult
      have ht' : (s.asked b key).tasks[j.task]? = some t := ht
      by_cases hcome :
          (s.asked b key).hasCome ((s.asked b key).dueIn (s.asked b key).client.opTimeout) = true
      · simp only [if_pos hcome] at hpoll
        exact ⟨s, _, j.phase, j.runs, _, fuel + 1, .inl rfl, rfl, hpoll⟩
      · -- The reply has not come: the call goes on when its time is up.
        simp only [if_neg hcome, Job.after_eq ht'] at hpoll
        let due := (s.asked b key).dueIn (s.asked b key).client.opTimeout
        let s₁ := (s.asked b key).background.waitUntil due
        have hwait : (s.asked b key).Meanwhile s₁ := .inr ⟨due, rfl⟩
        let j' : Job := { j with phase := .looking key (s.asked b key).network due, runs := t.runs }
        have ht₁ : s₁.tasks[j'.task]? = some t := by rw [hwait.keeps.tasks, ht']
        have hlater := poll_looking (j := j') ht₁ rfl (hasCome_waitUntil _ due)
        rw [hwait.keeps.opTimeout] at hlater
        exact ⟨s₁, s₁, j'.phase, j'.runs, _, fuel, hwait, runJobs_of_waiting hpoll rfl, hlater⟩

/-- A call alone ends as its job does. -/
theorem act_call_of_over {number runs : Nat} {args : Datum} {answer : Memo.Answer Datum}
    (hrun : runJobs 3 s [{ task := number, args }] =
      ([({ task := number, args } : Job).over answer runs], s'))
    (hanswer : ∀ message, answer ≠ .panicked message) :
    s.act (.call number args) = (.called ⟨answer, runs⟩, s') := by
  have hpanic : (({ task := number, args } : Job).over answer runs).panic? = none := by
    cases answer with
    | panicked message => exact absurd rfl (hanswer message)
    | _ => rfl
  have hcalled : (({ task := number, args } : Job).over answer runs).called? =
      some ⟨answer, runs⟩ := rfl
  have hcalls : s.runCalls [(number, args)] = (.done [⟨answer, runs⟩], s') := by
    simp [runCalls, hrun, hpanic, hcalled]
  rw [act, hcalls]

/-! ### What one call does -/

section Cases

variable {number : Nat} {args : Datum} {key : String} {b : Backend σ} {r : Called}

/-- A call that has left the cache alone: before and after its wait it has asked for nothing,
counted nothing and left nothing to be written, and the next run has been computed. -/
structure Bypassed (s : Session σ) (t : Task) (r : Called) (s' : Session σ) : Prop where
  moments : ∃ s₁ s₂, s.Does s.client.stats [] s₁ ∧ s₁.Meanwhile s₂ ∧
    s₂.Does s₂.client.stats [] s'
  runs : r.runs = t.runs + 1
  of_ok : ∀ data, t.next = .ok data → r.answer = .ok none (.computed data Binary.zero)
  of_failed : ∀ error, t.next = .failed error → r.answer = .failed error

/-- A call that has been answered from the cache: it has asked the backend once and counted a hit;
nothing has been computed, and nothing is to be written. -/
structure FromCache (s : Session σ) (t : Task) (b : Backend σ) (key : String) (data : Datum)
    (r : Called) (s' : Session σ) : Prop where
  moments : ∃ s₁, (s.asked b key).Meanwhile s₁ ∧ s₁.Does s₁.client.stats.hit [] s'
  runs : r.runs = t.runs
  answer : ∃ elapsed, r.answer = .ok (some key) (.hit data elapsed)

/-- A call that has missed: it has asked the backend once and counted what that has come to; then
the next run has been computed, and what it has come to is left to be written. -/
structure AfterMiss (s : Session σ) (t : Task) (b : Backend σ) (key : String)
    (result : Except CacheError (Option Bytes)) (r : Called) (s' : Session σ) : Prop where
  moments : ∃ s₁ s₂ s₃, (s.asked b key).Meanwhile s₁ ∧
    s₁.Does (t.memo.counted s₁.client.stats result) [] s₂ ∧ s₂.Meanwhile s₃ ∧
    s₃.Does s₃.client.stats (t.memo.leaves key t.next) s'
  runs : r.runs = t.runs + 1
  of_ok : ∀ data, t.next = .ok data →
    ∃ elapsed, r.answer = .ok (some key) (.computed data elapsed)
  of_failed : ∀ error, t.next = .failed error → r.answer = .failed error

/-- An answer that says where its data come from: from the cache exactly when nothing has been
computed. -/
structure Honest (t : Task) (r : Called) : Prop where
  /-- Both marks of an envelope agree. -/
  marks : ∀ key envelope, r.answer = .ok key envelope →
    (envelope.cacheHit = true ↔ envelope.source = .cache)
  /-- They are set exactly when no run has begun. -/
  hit : ∀ key envelope, r.answer = .ok key envelope →
    (envelope.cacheHit = true ↔ r.runs = t.runs)
  /-- Computed data are answered as they are. -/
  computed : ∀ key envelope, r.answer = .ok key envelope → envelope.cacheHit = false →
    t.next = .ok envelope.data
  /-- Data that are, or would be, computed never become an error. -/
  kept : ∀ data, t.next = .ok data → ∃ key envelope, r.answer = .ok key envelope

theorem FromCache.honest {data : Datum} (h : FromCache s t b key data r s') : Honest t r := by
  obtain ⟨elapsed, hanswer⟩ := h.answer
  have henvelope {k : Option String} {envelope : Envelope Datum}
      (hok : r.answer = .ok k envelope) : envelope = .hit data elapsed := by
    rw [hanswer] at hok
    exact (Memo.Answer.ok.inj hok).2.symm
  exact {
    marks := fun k envelope hok => by simp [henvelope hok, Envelope.hit]
    hit := fun k envelope hok => by simp [henvelope hok, Envelope.hit, h.runs]
    computed := fun k envelope hok hmiss => by simp [henvelope hok, Envelope.hit] at hmiss
    kept := fun _ _ => ⟨_, _, hanswer⟩ }

/-- A call that computes is honest. -/
theorem honest_of_computed (hnext : ∀ message, t.next ≠ .panicked message)
    (hruns : r.runs = t.runs + 1)
    (hok : ∀ data, t.next = .ok data → ∃ k elapsed, r.answer = .ok k (.computed data elapsed))
    (hfailed : ∀ error, t.next = .failed error → r.answer = .failed error) : Honest t r := by
  have henvelope {k : Option String} {envelope : Envelope Datum}
      (h : r.answer = .ok k envelope) :
      ∃ data elapsed, t.next = .ok data ∧ envelope = .computed data elapsed := by
    cases hresult : t.next with
    | ok data =>
        obtain ⟨k', elapsed, hanswer⟩ := hok data hresult
        rw [hanswer] at h
        exact ⟨data, elapsed, rfl, (Memo.Answer.ok.inj h).2.symm⟩
    | failed error =>
        rw [hfailed error hresult] at h
        cases h
    | panicked message => exact absurd hresult (hnext message)
  exact {
    marks := fun k envelope h => by
      obtain ⟨data, elapsed, -, rfl⟩ := henvelope h
      simp [Envelope.computed]
    hit := fun k envelope h => by
      obtain ⟨data, elapsed, -, rfl⟩ := henvelope h
      simp [Envelope.computed, hruns]
    computed := fun k envelope h _ => by
      obtain ⟨data, elapsed, hdata, rfl⟩ := henvelope h
      exact hdata
    kept := fun data hdata => by
      obtain ⟨k, elapsed, hanswer⟩ := hok data hdata
      exact ⟨k, _, hanswer⟩ }

theorem Bypassed.honest (h : Bypassed s t r s') (hnext : ∀ message, t.next ≠ .panicked message) :
    Honest t r :=
  honest_of_computed hnext h.runs (fun data hdata => ⟨none, _, h.of_ok data hdata⟩) h.of_failed

theorem AfterMiss.honest {result : Except CacheError (Option Bytes)}
    (h : AfterMiss s t b key result r s') (hnext : ∀ message, t.next ≠ .panicked message) :
    Honest t r :=
  honest_of_computed hnext h.runs (fun data hdata => ⟨some key, h.of_ok data hdata⟩) h.of_failed

/-- A call without a cache or without a key leaves the cache alone. -/
theorem bypassed_of_call (ht : s.tasks[number]? = some t)
    (hnext : ∀ message, t.next ≠ .panicked message)
    (h : s.client.backend = none ∨ ∃ fault, t.memo.keyFor args = .error fault) :
    ∃ r s', s.act (.call number args) = (.called r, s') ∧
      s'.tasks = s.tasks.set number { t with runs := r.runs } ∧ Bypassed s t r s' := by
  let j : Job := { task := number, args }
  have hpoll := poll_fresh (j := j) ht rfl
  have hplanned := s.does_plan t.memo args
  rw [begin_of_bypass h] at hpoll
  obtain ⟨s₁, hwait, hrun⟩ := runJobs_compute 1
    (s := s.withClient (t.memo.plan s.client args).2) (j := j) ht hpoll
  refine ⟨_, _, act_call_of_over hrun (Memo.conclude_ne_panicked hnext _ _ _ _), ?_, ?_⟩
  · rw [tasks_conclude, hwait.keeps.tasks]
    rfl
  · exact {
      moments := ⟨_, s₁, hplanned.running number t, hwait,
        s₁.does_conclude t none Binary.zero t.next⟩
      runs := rfl
      of_ok := fun data hdata => by simp only [hdata, Memo.conclude]
      of_failed := fun error herror => by simp only [herror, Memo.conclude] }

/-- A call whose lookup finds data is answered with them. -/
theorem fromCache_of_call (ht : s.tasks[number]? = some t) (hbackend : s.client.backend = some b)
    (hkey : t.memo.keyFor args = .ok key) {result : Except CacheError (Option Bytes)}
    (hresult : s.client.settle (b.get s.tick.clock key s.client.state).1 = .done result)
    {data : Datum} (hfound : t.memo.found? result = some data) :
    ∃ r s', s.act (.call number args) = (.called r, s') ∧
      s'.tasks = s.tasks.set number { t with runs := r.runs } ∧
      FromCache s t b key data r s' := by
  obtain ⟨s₀, s₁, phase, runs, since, fuel, hwait, hsteps, hpoll⟩ :=
    exists_lookedUp 0 (j := { task := number, args }) ht rfl hbackend hkey hresult
  have ht₁ : s₁.tasks = s.tasks := hwait.keeps.tasks
  have hdoes := s₁.does_afterLookup t.memo key result
  rw [Memo.counted_of_found hfound] at hdoes
  rw [lookedUp_of_found hfound,
    Job.after_eq (s := s₁.withClient _) (t := t) (by rw [← ht, ← ht₁]; rfl)] at hpoll
  have hrun := hsteps.trans (runJobs_of_ended hpoll rfl)
  refine ⟨_, _, act_call_of_over hrun nofun, ?_, ⟨s₁, hwait, hdoes⟩, rfl, _, rfl⟩
  -- No run has begun.
  obtain ⟨hlt, hget⟩ := List.getElem?_eq_some_iff.1 ht
  exact ht₁.trans (by rw [← hget, List.set_getElem_self])

/-- A call whose lookup finds no data computes them. -/
theorem afterMiss_of_call (ht : s.tasks[number]? = some t)
    (hnext : ∀ message, t.next ≠ .panicked message) (hbackend : s.client.backend = some b)
    (hkey : t.memo.keyFor args = .ok key) {result : Except CacheError (Option Bytes)}
    (hresult : s.client.settle (b.get s.tick.clock key s.client.state).1 = .done result)
    (hfound : t.memo.found? result = none) :
    ∃ r s', s.act (.call number args) = (.called r, s') ∧
      s'.tasks = s.tasks.set number { t with runs := r.runs } ∧
      AfterMiss s t b key result r s' := by
  obtain ⟨s₀, s₁, phase, runs, since, fuel, hwait, hsteps, hpoll⟩ :=
    exists_lookedUp 0 (j := { task := number, args }) ht rfl hbackend hkey hresult
  have ht₁ : s₁.tasks = s.tasks := hwait.keeps.tasks
  have hdoes := s₁.does_afterLookup t.memo key result
  rw [lookedUp_of_not_found hfound] at hpoll
  obtain ⟨s₃, hwait', hcomputed⟩ := runJobs_compute fuel
    (s := s₁.withClient _) (t := t) (by rw [← ht, ← ht₁]; rfl) hpoll
  have hrun := hsteps.trans hcomputed
  refine ⟨_, _, act_call_of_over hrun (Memo.conclude_ne_panicked hnext _ _ _ _), ?_, ?_⟩
  · rw [tasks_conclude, hwait'.keeps.tasks, ← ht₁]
    rfl
  · exact {
      moments := ⟨s₁, _, s₃, hwait, hdoes.running number t, hwait',
        s₃.does_conclude t (some key) _ t.next⟩
      runs := rfl
      of_ok := fun data hdata => ⟨s₁.elapsed since, by simp only [hdata, Memo.conclude]⟩
      of_failed := fun error herror => by simp only [herror, Memo.conclude] }

/-- **What one memoized call does.**  A call of a computation that does not break down, over a
backend that does not, does one of three things.  Without a cache or without a key it computes, and
leaves the cache alone.  Otherwise it asks the backend once, for the key of its arguments.  If that
gives data, they are the answer, and nothing is computed or to be written; if not, for whatever
reason, it computes, and data that have bytes are to be written once, under that key and for the
span of the computation.

An answer says that it comes from the cache exactly when nothing has been computed, computed data
are answered as they are, and data that are computed never become an error. -/
theorem memoized_call_cases (ht : s.tasks[number]? = some t)
    (hget : ∀ b key message, s.client.backend = some b → t.memo.keyFor args = .ok key →
      (b.get s.tick.clock key s.client.state).1 ≠ .panicked message)
    (hnext : ∀ message, t.next ≠ .panicked message) :
    ∃ r s', s.act (.call number args) = (.called r, s') ∧
      s'.tasks = s.tasks.set number { t with runs := r.runs } ∧
      (((s.client.backend = none ∨ ∃ fault, t.memo.keyFor args = .error fault) ∧
          Bypassed s t r s') ∨
        (∃ b key result data, s.client.backend = some b ∧ t.memo.keyFor args = .ok key ∧
          s.client.settle (b.get s.tick.clock key s.client.state).1 = .done result ∧
          t.memo.found? result = some data ∧ FromCache s t b key data r s') ∨
        (∃ b key result, s.client.backend = some b ∧ t.memo.keyFor args = .ok key ∧
          s.client.settle (b.get s.tick.clock key s.client.state).1 = .done result ∧
          t.memo.found? result = none ∧ AfterMiss s t b key result r s')) ∧
      Honest t r := by
  have hbypass (h : s.client.backend = none ∨ ∃ fault, t.memo.keyFor args = .error fault) :=
    bypassed_of_call ht hnext h
  cases hbackend : s.client.backend with
  | none =>
      obtain ⟨r, s', hact, htasks, hcase⟩ := hbypass (.inl hbackend)
      exact ⟨r, s', hact, htasks, .inl ⟨.inl rfl, hcase⟩, hcase.honest hnext⟩
  | some b =>
      cases hkey : t.memo.keyFor args with
      | error fault =>
          obtain ⟨r, s', hact, htasks, hcase⟩ := hbypass (.inr ⟨fault, hkey⟩)
          exact ⟨r, s', hact, htasks, .inl ⟨.inr ⟨fault, rfl⟩, hcase⟩, hcase.honest hnext⟩
      | ok key =>
          obtain ⟨result, hresult⟩ : ∃ result,
              s.client.settle (b.get s.tick.clock key s.client.state).1 = .done result := by
            cases hreply : (b.get s.tick.clock key s.client.state).1 with
            | answered result => exact ⟨result, rfl⟩
            | stalled => exact ⟨_, rfl⟩
            | panicked message => exact absurd hreply (hget b key message hbackend hkey)
          cases hfound : t.memo.found? result with
          | some data =>
              obtain ⟨r, s', hact, htasks, hcase⟩ :=
                fromCache_of_call ht hbackend hkey hresult hfound
              exact ⟨r, s', hact, htasks,
                .inr (.inl ⟨b, key, result, data, rfl, rfl, hresult, hfound, hcase⟩),
                hcase.honest⟩
          | none =>
              obtain ⟨r, s', hact, htasks, hcase⟩ :=
                afterMiss_of_call ht hnext hbackend hkey hresult hfound
              exact ⟨r, s', hact, htasks,
                .inr (.inr ⟨b, key, result, rfl, rfl, hresult, hfound, hcase⟩),
                hcase.honest hnext⟩

end Cases

/-- A lookup that is never answered: the call computes after its timeout, the backend has had this
one request, and the result is to be written. -/
theorem memoized_call_cases_of_stalled_lookup :
    let t : Task :=
      { memo := ⟨"ask", .ofSecs 60, ResultType.bool.codec⟩
        outcomes := [.ok (.bool true)]
        delay := .ofMillis 3 }
    let s : Session Scripted :=
      { client := .ofBackend Scripted.backend { store := .empty 1, getFaults := [.stall] }
        tasks := [t] }
    ∃ key r s', t.memo.keyFor .null = .ok key ∧ s.act (.call 0 .null) = (.called r, s') ∧
      r.runs = 1 ∧ (∃ elapsed, r.answer = .ok (some key) (.computed (.bool true) elapsed)) ∧
      s'.client.state.calls = [.get key] ∧
      s'.spawned = [⟨key, .ofSecs 60, [116, 114, 117, 101]⟩] := by
  intro t s
  have ht : s.tasks[0]? = some t := rfl
  obtain ⟨key, hkey⟩ : ∃ key, t.memo.keyFor .null = .ok key := ⟨_, rfl⟩
  have hget : ∀ b key message, s.client.backend = some b → t.memo.keyFor .null = .ok key →
      (b.get s.tick.clock key s.client.state).1 ≠ .panicked message := by
    rintro b key message hbackend -
    obtain rfl := Option.some.inj hbackend
    simp [s, Client.ofBackend, Scripted.backend, Scripted.play]
  have hnext : t.next = .ok (.bool true) := rfl
  obtain ⟨r, s', hact, -, hcases, -⟩ := memoized_call_cases ht hget (by simp [hnext])
  refine ⟨key, r, s', hkey, hact, ?_⟩
  obtain ⟨hbypass, -⟩ | ⟨b, k, result, data, hbackend, -, hresult, hfound, -⟩ |
    ⟨b, k, result, hbackend, hk, -, -, hmiss⟩ := hcases
  · obtain hnone | ⟨fault, hfault⟩ := hbypass
    · cases hnone
    · rw [hkey] at hfault
      cases hfault
  · -- A lookup that is not answered finds nothing.
    obtain rfl := Option.some.inj hbackend
    obtain rfl := Outcome.done.inj hresult
    cases hfound
  · obtain rfl := Except.ok.inj (hkey.symm.trans hk)
    obtain rfl := Option.some.inj hbackend
    -- Nothing is left to be done by others, so both waits change the time only.
    obtain ⟨s₁, s₂, s₃, hwait, hcounted, hwait', hleft⟩ := hmiss.moments
    obtain ⟨network, rfl⟩ := Idle.meanwhile ⟨rfl, rfl⟩ hwait
    obtain ⟨network', rfl⟩ := Idle.meanwhile ⟨hcounted.spawned, hcounted.waiting⟩ hwait'
    refine ⟨hmiss.runs, hmiss.of_ok _ hnext, ?_, ?_⟩
    · rw [hleft.client.state]
      exact congrArg Scripted.calls hcounted.client.state
    · rw [hleft.spawned]
      exact congrArg (· ++ _) hcounted.spawned

end Session

end DataTier
