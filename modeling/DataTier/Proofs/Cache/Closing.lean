/-
**What a closed cache does.**

No backend of a cache does anything when it is told to release what it holds, and the client keeps
it.  What a client has logged never decides what it does next.  So a client that has been closed
goes on as it would have gone on without that: it answers lookups from the backend, writes to it
and deletes from it.

Main definitions:

* `DataTier.Client.withPast`, `DataTier.Session.withPast` — a client and a session that have logged
  more before;
* `DataTier.Session.run` — steps one after the other.

Main results:

* `DataTier.Session.run_withPast` — **what has been logged before does not matter**;
* `DataTier.Session.close_is_only_logged` — **closing changes nothing but the log**;
* `DataTier.Session.run_found_after_close` — a value is still found after closing.
-/

import DataTier.Cache.Session
import DataTier.Context.Basic

set_option relaxedAutoImplicit false
set_option autoImplicit false

namespace DataTier

variable {σ R : Type} (past : List Event)

/-! ### Clients -/

namespace Client

/-- The client with entries before those of its log. -/
def withPast (c : Client σ) : Client σ := { c with log := past ++ c.log }

@[simp] theorem report_withPast (c : Client σ) (e : Event) :
    (c.withPast past).report e = (c.report e).withPast past := by
  simp [report, withPast]

@[simp] theorem count_withPast (c : Client σ) (f : CacheStats → CacheStats) :
    (c.withPast past).count f = (c.count f).withPast past := rfl

@[simp] theorem settle_withPast {α : Type} (c : Client σ) (reply : Reply α) :
    (c.withPast past).settle reply = c.settle reply := rfl

@[simp] theorem label_withPast (c : Client σ) : (c.withPast past).label = c.label := rfl

@[simp] theorem isEnabled_withPast (c : Client σ) :
    (c.withPast past).isEnabled = c.isEnabled := rfl

@[simp] theorem opTimeout_withPast (c : Client σ) :
    (c.withPast past).opTimeout = c.opTimeout := rfl

@[simp] theorem request_withPast {α : Type} (c : Client σ) (ask : Backend σ → σ → Reply α × σ) :
    (c.withPast past).request ask = ((c.request ask).1, (c.request ask).2.withPast past) := by
  obtain ⟨backend, state, opTimeout, stats, log⟩ := c
  cases backend <;> rfl

@[simp] theorem absorb_withPast (c : Client σ) (key : String)
    (result : Except CacheError (Option Bytes)) :
    (c.withPast past).absorb key result =
      ((c.absorb key result).1, (c.absorb key result).2.withPast past) := by
  cases result with
  | ok found => rfl
  | error e => simp [absorb]

@[simp] theorem finishGet_withPast (c : Client σ) (key : String)
    (result : Except CacheError (Option Bytes)) :
    (c.withPast past).finishGet key result =
      ((c.finishGet key result).1, (c.finishGet key result).2.withPast past) := by
  simp [finishGet]

@[simp] theorem decodeFound_withPast (c : Client σ) (codec : Codec R) (key : String)
    (found : Option Bytes) :
    (c.withPast past).decodeFound codec key found =
      ((c.decodeFound codec key found).1, (c.decodeFound codec key found).2.withPast past) := by
  cases found with
  | none => rfl
  | some bs =>
      simp only [decodeFound]
      cases codec.decode? bs with
      | none => simp
      | some r => rfl

@[simp] theorem finishGetJson_withPast (c : Client σ) (codec : Codec R) (key : String)
    (result : Except CacheError (Option Bytes)) :
    (c.withPast past).finishGetJson codec key result =
      ((c.finishGetJson codec key result).1,
        (c.finishGetJson codec key result).2.withPast past) := by
  simp [finishGetJson]

@[simp] theorem finishSet_withPast (c : Client σ) (key : String) (ttl : Duration)
    (result : Except CacheError Unit) :
    (c.withPast past).finishSet key ttl result =
      ((c.finishSet key ttl result).1, (c.finishSet key ttl result).2.withPast past) := by
  cases result with
  | ok _ => rfl
  | error e => simp [finishSet]

@[simp] theorem finishWriteBack_withPast (c : Client σ) (key : String) (ttl : Duration)
    (length : Nat) (result : Except CacheError Unit) :
    (c.withPast past).finishWriteBack key ttl length result =
      (c.finishWriteBack key ttl length result).withPast past := by
  cases result with
  | ok _ => simp [finishWriteBack, finishSet]
  | error e => simp [finishWriteBack, finishSet]

@[simp] theorem finishDelete_withPast (c : Client σ) (key : String)
    (result : Except CacheError Unit) :
    (c.withPast past).finishDelete key result =
      ((c.finishDelete key result).1, (c.finishDelete key result).2.withPast past) := by
  cases result with
  | ok _ => rfl
  | error e => simp [finishDelete]

@[simp] theorem close_withPast (c : Client σ) :
    (c.withPast past).close = c.close.withPast past := by
  obtain ⟨backend, state, opTimeout, stats, log⟩ := c
  cases backend with
  | none => rfl
  | some b => simp [close, report, withPast]

end Client

/-! ### Memoized computations -/

namespace Memo

@[simp] theorem plan_withPast (m : Memo R) (c : Client σ) (args : Datum) :
    m.plan (c.withPast past) args = ((m.plan c args).1, (m.plan c args).2.withPast past) := by
  unfold plan
  rw [Client.isEnabled_withPast]
  cases c.isEnabled with
  | false => rfl
  | true =>
      cases m.keyFor args with
      | ok key => rfl
      | error fault => simp

@[simp] theorem afterLookup_withPast (m : Memo R) (c : Client σ) (key : String)
    (result : Except CacheError (Option Bytes)) :
    m.afterLookup (c.withPast past) key result =
      ((m.afterLookup c key result).1, (m.afterLookup c key result).2.withPast past) := by
  simp only [afterLookup, Client.finishGetJson_withPast]
  rcases c.finishGetJson m.codec key result with ⟨_ | data, c'⟩
  · simp
  · simp

@[simp] theorem conclude_withPast (m : Memo R) (c : Client σ) (key : Option String)
    (elapsed : Double) (outcome : Computed R) :
    m.conclude (c.withPast past) key elapsed outcome =
      ((m.conclude c key elapsed outcome).1, (m.conclude c key elapsed outcome).2.1,
        (m.conclude c key elapsed outcome).2.2.withPast past) := by
  cases outcome with
  | ok data =>
      cases key with
      | none => rfl
      | some key =>
          simp only [conclude, afterCompute]
          cases m.codec.encode data with
          | ok bs => rfl
          | error fault => simp
  | failed error => rfl
  | panicked message => rfl

end Memo

/-! ### Sessions -/

namespace Session

/-- The session with entries before those of its log. -/
def withPast (s : Session σ) : Session σ := { s with client := s.client.withPast past }

@[simp] theorem withClient_withPast (s : Session σ) (c : Client σ) :
    (s.withPast past).withClient (c.withPast past) = (s.withClient c).withPast past := rfl

@[simp] theorem client_withPast (s : Session σ) :
    (s.withPast past).client = s.client.withPast past := rfl

@[simp] theorem network_withPast (s : Session σ) : (s.withPast past).network = s.network := rfl

@[simp] theorem tasks_withPast (s : Session σ) : (s.withPast past).tasks = s.tasks := rfl

@[simp] theorem hasCome_withPast (s : Session σ) (due : Nat) :
    (s.withPast past).hasCome due = s.hasCome due := rfl

@[simp] theorem dueIn_withPast (s : Session σ) (d : Duration) :
    (s.withPast past).dueIn d = s.dueIn d := rfl

@[simp] theorem elapsed_withPast (s : Session σ) (since : Nat) :
    (s.withPast past).elapsed since = s.elapsed since := rfl

@[simp] theorem spawn_withPast (s : Session σ) (w : Memo.Write) :
    (s.withPast past).spawn w = (s.spawn w).withPast past := rfl

@[simp] theorem moveTo_withPast (s : Session σ) (due : Nat) :
    (s.withPast past).moveTo due = (s.moveTo due).withPast past := rfl

@[simp] theorem request_withPast {α : Type} (s : Session σ)
    (ask : Instant → Backend σ → σ → Reply α × σ) :
    (s.withPast past).request ask = ((s.request ask).1, (s.request ask).2.withPast past) := by
  simp [request, tick, withPast, withClient]

@[simp] theorem giveUp_withPast (s : Session σ) (w : Waiting) :
    (s.withPast past).giveUp w = (s.giveUp w).withPast past := by
  simp [giveUp]

theorem foldl_giveUp_withPast (ws : List Waiting) (s : Session σ) :
    ws.foldl giveUp (s.withPast past) = (ws.foldl giveUp s).withPast past := by
  induction ws generalizing s with
  | nil => rfl
  | cons w ws ih => rw [List.foldl_cons, List.foldl_cons, giveUp_withPast, ih]

@[simp] theorem giveUpBefore_withPast (s : Session σ) (bound : Nat) :
    (s.withPast past).giveUpBefore bound = (s.giveUpBefore bound).withPast past :=
  foldl_giveUp_withPast past _ { s with waiting := s.waiting.filter fun w => !(w.due < bound) }

@[simp] theorem giveUpDue_withPast (s : Session σ) :
    (s.withPast past).giveUpDue = s.giveUpDue.withPast past :=
  giveUpBefore_withPast past s _

@[simp] theorem start_withPast (s : Session σ) (w : Memo.Write) :
    (s.withPast past).start w = ((s.start w).1, (s.start w).2.withPast past) := by
  simp only [start, request_withPast]
  rcases s.request fun now b => b.setex now w.key w.ttl w.value with ⟨_ | _ | _ | message, s⟩
  · rfl
  · simp
  · by_cases hcome : s.hasCome (s.dueIn s.client.opTimeout) = true
    · refine (if_pos hcome).trans ?_
      simp [if_pos hcome]
    · refine (if_neg hcome).trans ?_
      simp only [if_neg hcome]
      rfl
  · rfl

theorem foldl_start_withPast (ws : List Memo.Write) (s : Session σ) :
    ws.foldl (fun s w => (s.start w).2) (s.withPast past) =
      (ws.foldl (fun s w => (s.start w).2) s).withPast past := by
  induction ws generalizing s with
  | nil => rfl
  | cons w ws ih => rw [List.foldl_cons, List.foldl_cons, start_withPast, ih]

@[simp] theorem background_withPast (s : Session σ) :
    (s.withPast past).background = s.background.withPast past := by
  rw [background, giveUpDue_withPast]
  exact foldl_start_withPast past _ { s.giveUpDue with spawned := [] }

@[simp] theorem tick_withPast (s : Session σ) :
    (s.withPast past).tick = s.tick.withPast past := rfl

@[simp] theorem waitUntil_withPast (s : Session σ) (due : Nat) :
    (s.withPast past).waitUntil due = (s.waitUntil due).withPast past := by
  simp [waitUntil]

@[simp] theorem await_withPast {α : Type} (s : Session σ) (reply : Reply α) :
    (s.withPast past).await reply = ((s.await reply).1, (s.await reply).2.withPast past) := by
  cases reply with
  | answered result => rfl
  | stalled => simp [await]
  | panicked message => rfl

/-- An operation whose halves do not look at the log does not either. -/
theorem operate_withPast {α β : Type} (s : Session σ) (ask : Instant → Backend σ → σ → Reply α × σ)
    {skipped : Client σ → β × Client σ} {finish : Client σ → Except CacheError α → β × Client σ}
    (hskipped : ∀ c, skipped (c.withPast past) = ((skipped c).1, (skipped c).2.withPast past))
    (hfinish : ∀ c result, finish (c.withPast past) result =
      ((finish c result).1, (finish c result).2.withPast past)) :
    (s.withPast past).operate ask skipped finish =
      ((s.operate ask skipped finish).1, (s.operate ask skipped finish).2.withPast past) := by
  simp only [operate, request_withPast]
  rcases s.request ask with ⟨_ | reply, s⟩
  · simp [hskipped]
  · simp only [await_withPast]
    rcases s.await reply with ⟨result | message, s⟩
    · simp [hfinish]
    · rfl

/-! ### Memoized calls -/

@[simp] theorem conclude_withPast (s : Session σ) (t : Task) (key : Option String)
    (elapsed : Double) (result : Memo.Computed Datum) :
    (s.withPast past).conclude t key elapsed result =
      ((s.conclude t key elapsed result).1, (s.conclude t key elapsed result).2.withPast past) := by
  simp only [conclude, client_withPast, Memo.conclude_withPast]
  rcases t.memo.conclude s.client key elapsed result with ⟨answer, _ | write, c⟩
  · simp
  · simp

@[simp] theorem compute_withPast (s : Session σ) (number : Nat) (t : Task) (key : Option String)
    (elapsed : Double) :
    (s.withPast past).compute number t key elapsed =
      ((s.compute number t key elapsed).1, (s.compute number t key elapsed).2.withPast past) := by
  generalize hbegun : { s with tasks := s.tasks.set number { t with runs := t.runs + 1 } } = begun
  have hconclude := conclude_withPast past begun t key elapsed t.next
  by_cases hcome : begun.hasCome (begun.dueIn t.delay) = true
  · have hcompute : s.compute number t key elapsed = begun.conclude t key elapsed t.next := by
      rw [compute, hbegun, if_pos hcome]
    rw [hcompute, ← hconclude, ← hbegun]
    subst hbegun
    exact if_pos hcome
  · subst hbegun
    have hcompute : s.compute number t key elapsed = _ := if_neg hcome
    rw [hcompute]
    exact if_neg hcome

@[simp] theorem lookedUp_withPast (s : Session σ) (number : Nat) (t : Task) (key : String)
    (since : Nat) (result : Except CacheError (Option Bytes)) :
    (s.withPast past).lookedUp number t key since result =
      ((s.lookedUp number t key since result).1,
        (s.lookedUp number t key since result).2.withPast past) := by
  simp only [lookedUp, client_withPast, Memo.afterLookup_withPast, elapsed_withPast]
  rcases t.memo.afterLookup s.client key result with ⟨⟨k, data⟩ | k | _, c⟩
  · simp
  · simp
  · simp

@[simp] theorem begin_withPast (s : Session σ) (number : Nat) (t : Task) (args : Datum) :
    (s.withPast past).begin number t args =
      ((s.begin number t args).1, (s.begin number t args).2.withPast past) := by
  simp only [begin, client_withPast, Memo.plan_withPast]
  rcases t.memo.plan s.client args with ⟨key | _, c⟩
  · simp only [withClient_withPast, request_withPast]
    rcases (s.withClient c).request fun now b => b.get now key with ⟨_ | _ | _ | message, s⟩
    · simp
    · simp
    · by_cases hcome : s.hasCome (s.dueIn s.client.opTimeout) = true
      · refine (if_pos hcome).trans ?_
        simp [if_pos hcome]
      · refine (if_neg hcome).trans ?_
        simp only [if_neg hcome]
        rfl
    · rfl
  · simp

@[simp] theorem after_withPast (j : Job) (r : Phase × Session σ) :
    j.after (r.1, r.2.withPast past) = ((j.after r).1, (j.after r).2.withPast past) := by
  simp only [Job.after, tasks_withPast]

@[simp] theorem poll_withPast (s : Session σ) (j : Job) :
    (s.withPast past).poll j = ((s.poll j).1, (s.poll j).2.withPast past) := by
  simp only [poll, tasks_withPast]
  cases s.tasks[j.task]? with
  | none => rfl
  | some t =>
      cases j.phase with
      | fresh => simp
      | looking key since due =>
          by_cases hcome : s.hasCome due = true
          · simp [hcome]
          · simp [hcome]
      | computing key elapsed result due =>
          by_cases hcome : s.hasCome due = true
          · simp [hcome]
          · simp [hcome]
      | ended answer => rfl

@[simp] theorem pollAll_withPast (jobs : List Job) (s : Session σ) :
    (s.withPast past).pollAll jobs = ((s.pollAll jobs).1, (s.pollAll jobs).2.withPast past) := by
  induction jobs generalizing s with
  | nil => rfl
  | cons j jobs ih =>
      simp only [pollAll, poll_withPast]
      rcases s.poll j with ⟨j, s⟩
      cases j.panic? with
      | none => simp [ih]
      | some message => simp

@[simp] theorem runJobs_withPast (fuel : Nat) (s : Session σ) (jobs : List Job) :
    runJobs fuel (s.withPast past) jobs =
      ((runJobs fuel s jobs).1, (runJobs fuel s jobs).2.withPast past) := by
  induction fuel generalizing s jobs with
  | zero => rfl
  | succ fuel ih =>
      simp only [runJobs, pollAll_withPast]
      rcases s.pollAll jobs with ⟨jobs, s⟩
      cases jobs.any fun j => j.panic?.isSome with
      | true => rfl
      | false =>
          cases earliest? (jobs.filterMap Job.due?) with
          | none => rfl
          | some due => simp [ih]

@[simp] theorem runCalls_withPast (s : Session σ) (calls : List (Nat × Datum)) :
    (s.withPast past).runCalls calls =
      ((s.runCalls calls).1, (s.runCalls calls).2.withPast past) := by
  simp only [runCalls, runJobs_withPast]
  generalize runJobs _ s _ = r
  rcases r with ⟨jobs, s⟩
  cases jobs.findSome? Job.panic? with
  | none => rfl
  | some message => rfl

/-! ### Steps -/

@[simp] theorem startAndWait_withPast (s : Session σ) (w : Memo.Write) :
    (s.withPast past).startAndWait w =
      ((s.startAndWait w).1, (s.startAndWait w).2.withPast past) := by
  simp only [startAndWait, background_withPast, start_withPast]
  rcases s.background.start w with ⟨_ | _ | due, s⟩
  · rfl
  · rfl
  · simp

theorem set_withPast (s : Session σ) (key : String) (ttl : Duration) (value : Bytes) :
    (s.withPast past).operate (fun now b => b.setex now key ttl value) (fun c => (false, c))
        (·.finishSet key ttl) =
      ((s.operate (fun now b => b.setex now key ttl value) (fun c => (false, c))
          (·.finishSet key ttl)).1,
        (s.operate (fun now b => b.setex now key ttl value) (fun c => (false, c))
          (·.finishSet key ttl)).2.withPast past) :=
  operate_withPast past s _ (by simp) (by simp)

/-- **No step looks at what has been logged before.** -/
@[simp] theorem act_withPast (s : Session σ) (x : Step) :
    (s.withPast past).act x = ((s.act x).1, (s.act x).2.withPast past) := by
  cases x with
  | get key =>
      have hget : (s.withPast past).operate (fun now b => b.get now key)
          (fun c => (none, c.count .miss)) (·.finishGet key) = _ :=
        operate_withPast past s _ (by simp) (by simp)
      simp [act, hget]
  | getJson key codec =>
      have hget : (s.withPast past).operate (fun now b => b.get now key)
          (fun c => (none, c.count .miss)) (·.finishGetJson codec key) = _ :=
        operate_withPast past s _ (by simp) (by simp)
      simp [act, hget]
  | set key ttl value => simp [act, set_withPast]
  | setJson key ttl codec value =>
      simp only [act]
      cases codec.encode value with
      | error fault => simp
      | ok bs => simp [set_withPast]
  | setDetached write await =>
      cases henabled : s.client.isEnabled with
      | false => simp [act, henabled]
      | true => cases await <;> simp [act, henabled]
  | spawnWrite write => simp [act]
  | delete key =>
      have hdelete : (s.withPast past).operate (fun now b => b.delete now key)
          (fun c => (false, c)) (·.finishDelete key) = _ :=
        operate_withPast past s _ (by simp) (by simp)
      simp [act, hdelete]
  | close => simp [act]
  | info => rfl
  | hitRate => rfl
  | advance d => rfl
  | sleep d => rfl
  | memo task => rfl
  | keyFor number args =>
      simp only [act, tasks_withPast]
      cases s.tasks[number]? with
      | none => rfl
      | some t => rfl
  | call number args =>
      simp only [act, runCalls_withPast]
      rcases s.runCalls [(number, args)] with ⟨(_ | ⟨call, _ | ⟨other, calls⟩⟩) | message, s⟩
      · rfl
      · rfl
      · rfl
      · rfl
  | concurrent calls =>
      simp only [act, runCalls_withPast]
      rcases s.runCalls calls with ⟨calls | message, s⟩
      · rfl
      · rfl

theorem step_withPast (s : Session σ) (x : Step) :
    (s.withPast past).step x = ((s.step x).1, (s.step x).2.withPast past) := by
  simp [step]

/-- Steps one after the other. -/
def run (s : Session σ) : List Step → List Answer × Session σ
  | [] => ([], s)
  | x :: rest =>
    let (answer, s) := s.step x
    let (answers, s) := s.run rest
    (answer :: answers, s)

/-- **What has been logged before does not matter.** -/
theorem run_withPast (xs : List Step) (s : Session σ) :
    (s.withPast past).run xs = ((s.run xs).1, (s.run xs).2.withPast past) := by
  induction xs generalizing s with
  | nil => rfl
  | cons x xs ih => simp [run, step_withPast, ih]

end Session

/-! ### Closing -/

/-- A backend that does nothing when it is told to release what it holds. -/
def Backend.KeepsAll (b : Backend σ) : Prop := ∀ state, b.close state = state

theorem Store.keepsAll : Store.backend.KeepsAll := fun _ => rfl

theorem RedisLink.keepsAll : RedisLink.backend.KeepsAll := fun _ => rfl

theorem CacheHost.keepsAll : CacheHost.backend.KeepsAll := by
  intro host
  cases host <;> rfl

/-- Closing a client of such a backend, or of none, touches its log only. -/
theorem Client.close_eq {c : Client σ} (hkeeps : ∀ b, c.backend = some b → b.KeepsAll) :
    c.close = { c with log := c.close.log } := by
  obtain ⟨backend, state, opTimeout, stats, log⟩ := c
  cases backend with
  | none => rfl
  | some b =>
      have hstate : b.close state = state := hkeeps b rfl state
      simp only [close, report, hstate]

namespace AppContext

variable {context : AppContext σ R}

theorem cache_shutdownPool : context.shutdownPool.cache = context.cache := by
  rw [shutdownPool]
  cases context.pool with
  | none => rfl
  | some p =>
      simp only
      rcases p.shutdown with ⟨closed | message, p⟩
      · rfl
      · rfl

/-- Shutting a context down moves what its cache has logged to the context, and leaves the cache as
it is otherwise. -/
theorem cache_shutdown (hb : context.cache.backend = some CacheHost.backend) :
    context.shutdown.cache = { context.cache with log := [] } := by
  have hkeeps : ∀ b, context.cache.backend = some b → b.KeepsAll := by
    intro b hb'
    obtain rfl : CacheHost.backend = b := Option.some.inj (hb.symm.trans hb')
    exact CacheHost.keepsAll
  have hclose := Client.close_eq hkeeps
  change { context.shutdownPool.cache.close with log := [] } = _
  rw [cache_shutdownPool, hclose]

end AppContext

namespace Session

theorem eq_withPast (s : Session σ) :
    s = withPast s.client.log (s.withClient { s.client with log := [] }) := by
  simp [withPast, withClient, Client.withPast]

theorem run_eq_withPast (s : Session σ) (xs : List Step) :
    s.run xs = (((s.withClient { s.client with log := [] }).run xs).1,
      ((s.withClient { s.client with log := [] }).run xs).2.withPast s.client.log) := by
  have hpast := run_withPast s.client.log xs (s.withClient { s.client with log := [] })
  rwa [← eq_withPast] at hpast

/-- A session goes on alike from clients that differ in their logs only. -/
theorem run_withClient_log (s : Session σ) (log : List Event) (xs : List Step) :
    ∃ (answers : List Answer) (last : Session σ), s.run xs = (answers, last.withPast s.client.log) ∧
      (s.withClient { s.client with log }).run xs = (answers, last.withPast log) :=
  ⟨_, _, s.run_eq_withPast xs, (s.withClient { s.client with log }).run_eq_withPast xs⟩

/-- **Closing is only logged.**  No backend does anything when it is told to release what it holds.
So a session whose client is closed answers every later sequence of steps, memoized calls and writes
in the background among them, as it does when the client is not closed: counters, backend and what
is still on its way are the same at the end, and what is logged is.  Requests are still sent, unless
the client has never had a backend.  Shutting a context down leaves its cache as it is, but for what
it has logged, so sessions of that cache answer as before too. -/
theorem close_is_only_logged {s : Session σ}
    (hkeeps : ∀ b, s.client.backend = some b → b.KeepsAll) (xs : List Step) :
    (∃ (answers : List Answer) (last : Session σ),
      s.run xs = (answers, last.withPast s.client.log) ∧
      (s.withClient s.client.close).run xs = (answers, last.withPast s.client.close.log)) ∧
    (∀ (α : Type) (ask : Backend σ → σ → Reply α × σ),
      (s.client.close.request ask).1 = none ↔ s.client.backend = none) ∧
    (Store.backend.KeepsAll ∧ RedisLink.backend.KeepsAll ∧ CacheHost.backend.KeepsAll) ∧
    ∀ (τ R : Type) (context : AppContext τ R) (t : Session CacheHost),
      context.cache.backend = some CacheHost.backend → t.client = context.cache →
      ∃ (answers : List Answer) (last : Session CacheHost),
        t.run xs = (answers, last.withPast context.cache.log) ∧
        (t.withClient context.shutdown.cache).run xs = (answers, last.withPast []) := by
  have hclose := Client.close_eq hkeeps
  refine ⟨?_, fun α ask => ?_, ⟨Store.keepsAll, RedisLink.keepsAll, CacheHost.keepsAll⟩, ?_⟩
  · rw [hclose]
    exact s.run_withClient_log _ xs
  · rw [hclose, Client.request]
    cases s.client.backend with
    | none => exact iff_of_true rfl rfl
    | some b => exact iff_of_false nofun nofun
  · intro τ R context t hb hclient
    rw [AppContext.cache_shutdown hb, ← hclient]
    exact t.run_withClient_log [] xs

/-- A session of an empty store in which one value has been written. -/
def ofOneWrite : Session Store :=
  (run { client := .ofBackend Store.backend (.empty 1) }
    [.set "k" (.ofSecs 60) (Utf8.ofString "v")]).2

theorem close_is_only_logged_of_one_write :
    (∀ b, ofOneWrite.client.backend = some b → b.KeepsAll) ∧
      ((ofOneWrite.withClient ofOneWrite.client.close).run [.get "k"]).1 =
        [.bytes (some (Utf8.ofString "v"))] := by
  have hkeeps : ∀ b, ofOneWrite.client.backend = some b → b.KeepsAll := by
    intro b hb
    obtain rfl : Store.backend = b := Option.some.inj hb
    exact Store.keepsAll
  obtain ⟨⟨answers, last, hopen, hclosed⟩, -⟩ := close_is_only_logged hkeeps [.get "k"]
  refine ⟨hkeeps, ?_⟩
  rw [hclosed]
  exact (congrArg Prod.fst hopen).symm.trans rfl

/-- **A closed cache still answers**: what has been written before is found, written again and
deleted. -/
theorem run_found_after_close :
    (run { client := .ofBackend Store.backend (.empty 1) }
      [.set "k" (.ofSecs 60) (Utf8.ofString "v"), .close, .get "k", .set "k" (.ofSecs 60) [],
        .delete "k"]).1 =
      [.flag true, .done, .bytes (some (Utf8.ofString "v")), .flag true, .flag true] := rfl

end Session

end DataTier
