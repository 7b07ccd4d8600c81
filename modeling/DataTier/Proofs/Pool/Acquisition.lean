/-
**An acquisition tells the truth about the pool.**

An acquisition checks the pool, and sleeps and checks again as often as it wakes, until a check
gives it an answer.  How often that is, who has woken it and what others have done to the pool in
between does not matter: the answer is what the last check has found, and the check has done
nothing else to the pool.

Main definitions:

* `DataTier.SharedPool.Awaits` — a thread that has no answer yet;
* `DataTier.SharedPool.LastCheck` — a check that answers, with what it has found and done.

Main results:

* `DataTier.PoolState.check_of_idle` — no check of an open pool gives up beside an idle resource;
* `DataTier.Pool.acquire_of_idle` and its like — what an acquisition comes to that nobody interferes
  with;
* `DataTier.SharedPool.Step.awaits_or_lastCheck` — a step answers an acquisition by its last check
  only;
* `DataTier.SharedPool.acquisition_truthful` — **what the answer of an acquisition says**.
-/

import DataTier.Pool.Scripted
import DataTier.Proofs.Pool.Threads

set_option relaxedAutoImplicit false
set_option autoImplicit false

namespace DataTier

variable {σ V R : Type}

/-! ### One check -/

namespace PoolState

variable {s : PoolState R} {now deadline : Instant}

/-- A check that finds an idle resource takes it, even after the deadline. -/
theorem check_of_idle {r : R} {idle : List R} (hopen : s.closed = false)
    (hidle : s.idle = r :: idle) :
    s.check now deadline =
      (.acquired r, { s with idle, inUse := s.inUse + 1, acquired := s.acquired + 1 }) :=
  check_eq_acquired_iff.2 ⟨hopen, idle, hidle, rfl⟩

end PoolState

/-! ### An acquisition that nobody interferes with -/

namespace Pool

variable {p : Pool σ R} {now deadline : Instant}

/-- Beyond the clock an acquisition breaks down before it looks at the pool. -/
theorem acquire_of_overflow (hdeadline : now.after? p.timeout = none) :
    p.acquire now = (.panicked Instant.overflowMessage, p) := by
  rw [acquire, hdeadline]

theorem acquire_of_closed (hdeadline : now.after? p.timeout = some deadline)
    (hclosed : p.state.closed = true) : p.acquire now = (.done (.error .closed), p) := by
  have hcheck : p.state.check now deadline = (.closed, p.state) :=
    PoolState.check_eq_closed_iff.2 ⟨hclosed, rfl⟩
  simp only [acquire, hdeadline, attempt, hcheck, answer?]

theorem acquire_of_idle {r : R} {idle : List R} (hdeadline : now.after? p.timeout = some deadline)
    (hopen : p.state.closed = false) (hidle : p.state.idle = r :: idle) :
    p.acquire now = (.done (.ok r),
      { p with
        state := { p.state with
          idle, inUse := p.state.inUse + 1, acquired := p.state.acquired + 1 }
        log := p.log ++ [.acquired (p.state.inUse + 1)] }) := by
  simp only [acquire, hdeadline, attempt, PoolState.check_of_idle hopen hidle, report, answer?]

/-- Without an idle resource an acquisition gives up, at its deadline at the latest. -/
theorem acquire_of_empty (hdeadline : now.after? p.timeout = some deadline)
    (hopen : p.state.closed = false) (hidle : p.state.idle = []) :
    p.acquire now = (.done (.error (.exhausted p.timeout)),
      { p with
        state := { p.state with exhausted := p.state.exhausted + 1 }
        log := p.log ++ [.exhausted p.size p.timeout] }) := by
  have hlast : ∀ clock, deadline ≤ clock → p.state.check clock deadline =
      (.exhausted, { p.state with exhausted := p.state.exhausted + 1 }) := by
    intro clock hlate
    exact PoolState.check_eq_exhausted_iff.2 ⟨hopen, hidle, hlate, rfl⟩
  rcases Nat.lt_or_ge now deadline with hearly | hlate
  · have hfirst : p.state.check now deadline = (.wait, p.state) :=
      PoolState.check_eq_wait_iff.2 ⟨hopen, hidle, hearly, rfl⟩
    simp only [acquire, hdeadline, attempt, hfirst, hlast deadline (Nat.le_refl _), report, answer?,
      Option.getD_some]
  · simp only [acquire, hdeadline, attempt, hlast now hlate, report, answer?]

end Pool

/-! ### The last check -/

namespace SharedPool

variable {s s' a b : SharedPool σ V} {i : Nat} {deadline : Instant}

/-- Thread `i` is to get a resource by a deadline, and has no answer yet. -/
def Awaits (s : SharedPool σ V) (i : Nat) (deadline : Instant) : Prop :=
  ∃ wait purpose, s.threads[i]? = some (.waiting wait purpose deadline)

/-- **A check that answers thread `i`.**  The thread is awake; the check finds the pool as it is
said here, changes what is said here, and nothing else. -/
inductive LastCheck (i : Nat) (deadline : Instant) : SharedPool σ V → SharedPool σ V → Prop
  /-- The pool is open, and its first idle resource is handed out. -/
  | acquired {s wait purpose r idle} (hi : s.threads[i]? = some (.waiting wait purpose deadline))
      (hawake : wait ≠ .asleep) (hopen : s.state.closed = false)
      (hidle : s.state.idle = r :: idle) :
      LastCheck i deadline s { s with
        state := { s.state with
          idle, inUse := s.state.inUse + 1, acquired := s.state.acquired + 1 }
        threads := s.threads.set i (.holding purpose r)
        trace := s.trace ++ [.handedOut r] }
  /-- The pool is open, nothing is idle, and the deadline has been reached. -/
  | exhausted {s wait purpose} (hi : s.threads[i]? = some (.waiting wait purpose deadline))
      (hawake : wait ≠ .asleep) (hopen : s.state.closed = false) (hidle : s.state.idle = [])
      (hlate : deadline ≤ s.clock) :
      LastCheck i deadline s { s with
        state := { s.state with exhausted := s.state.exhausted + 1 }
        threads := s.threads.set i (.ended (.refused (.exhausted s.timeout)))
        trace := s.trace ++ [.refused (.exhausted s.timeout)] }
  /-- The pool is shut down. -/
  | closed {s wait purpose} (hi : s.threads[i]? = some (.waiting wait purpose deadline))
      (hawake : wait ≠ .asleep) (hclosed : s.state.closed = true) :
      LastCheck i deadline s { s with
        threads := s.threads.set i (.ended (.refused .closed))
        trace := s.trace ++ [.refused .closed] }

/-- A thread that does not wait is another one. -/
theorem Awaits.ne (h : s.Awaits i deadline) {j : Nat} {t : PoolThread V}
    (hj : s.threads[j]? = some t) (ht : ∀ wait purpose, t ≠ .waiting wait purpose deadline) :
    j ≠ i := by
  rintro rfl
  obtain ⟨wait, purpose, hi⟩ := h
  exact ht wait purpose (Option.some.inj (hj.symm.trans hi))

/-- What another thread does leaves an acquisition without an answer. -/
theorem Awaits.of_set (h : s.Awaits i deadline) {j : Nat} {t : PoolThread V} (hne : j ≠ i)
    (hthreads : s'.threads = s.threads.set j t) : s'.Awaits i deadline := by
  obtain ⟨wait, purpose, hi⟩ := h
  exact ⟨wait, purpose, by rw [hthreads, List.getElem?_set_ne hne, hi]⟩

theorem Awaits.spawn (h : s.Awaits i deadline) (t : PoolThread V) :
    (s.spawn t).Awaits i deadline := by
  obtain ⟨wait, purpose, hi⟩ := h
  exact ⟨wait, purpose, List.getElem?_append_left
    (List.getElem?_eq_some_iff.1 hi).1 ▸ hi⟩

/-- Being notified is not an answer. -/
theorem Awaits.notify (h : s.Awaits i deadline) :
    SharedPool.Awaits { s with threads := s.threads.map PoolThread.notify } i deadline := by
  obtain ⟨wait, purpose, hi⟩ := h
  have hmap : (s.threads.map PoolThread.notify)[i]? =
      some (PoolThread.notify (.waiting wait purpose deadline)) := by
    rw [List.getElem?_map, hi]
    rfl
  cases wait with
  | asleep => exact ⟨.notified, purpose, hmap⟩
  | ready => exact ⟨.ready, purpose, hmap⟩
  | notified => exact ⟨.notified, purpose, hmap⟩

theorem threads_close (s : SharedPool σ V) (j : Nat) (r : Numbered V) (left : List (Numbered V))
    (next : PoolThread V) : ∃ t, (s.close j r left next).threads = s.threads.set j t := by
  unfold close
  split
  · exact ⟨_, rfl⟩
  · exact ⟨_, rfl⟩

/-- What an acquisition does by itself: it goes on waiting, or a check answers it. -/
theorem awaits_or_lastCheck_of_acts {wait : Wait} {purpose : Purpose} {t' : PoolThread V}
    {state : PoolState (Numbered V)} {happened : List (Happening V)}
    (hi : s.threads[i]? = some (.waiting wait purpose deadline))
    (ha : PoolThread.Acts s.timeout s.clock s.state (.waiting wait purpose deadline) t' state
      happened) :
    (∃ wait' purpose', t' = .waiting wait' purpose' deadline) ∨
      LastCheck i deadline s { s with
        state, threads := s.threads.set i t', trace := s.trace ++ happened } := by
  cases ha with
  | wake => exact .inl ⟨_, _, rfl⟩
  | dropWaiting => exact .inl ⟨_, _, rfl⟩
  | sleep => exact .inl ⟨_, _, rfl⟩
  | refuse hawake hc =>
      obtain ⟨hclosed, rfl⟩ := PoolState.check_eq_closed_iff.1 hc
      exact .inr (.closed hi hawake hclosed)
  | take hawake hc =>
      obtain ⟨hopen, idle, hidle, rfl⟩ := PoolState.check_eq_acquired_iff.1 hc
      exact .inr (.acquired hi hawake hopen hidle)
  | giveUp hawake hc =>
      obtain ⟨hopen, hidle, hlate, rfl⟩ := PoolState.check_eq_exhausted_iff.1 hc
      exact .inr (.exhausted hi hawake hopen hidle hlate)

/-- **A step answers an acquisition by its last check only.** -/
theorem Step.awaits_or_lastCheck (h : Step a b) (ha : a.Awaits i deadline) :
    b.Awaits i deadline ∨ LastCheck i deadline a b := by
  cases h with
  | tick d => exact .inl ha
  | begin purpose => exact .inl (ha.spawn _)
  | stop => exact .inl (ha.spawn _)
  | @act j t t' state happened hj hacts =>
      by_cases hne : j = i
      · obtain ⟨wait, purpose, hi⟩ := ha
        obtain rfl := hne
        obtain rfl := Option.some.inj (hj.symm.trans hi)
        obtain ⟨wait', purpose', rfl⟩ | hlast := awaits_or_lastCheck_of_acts hi hacts
        · exact .inl ⟨wait', purpose',
            List.getElem?_set_self (List.getElem?_eq_some_iff.1 hi).1⟩
        · exact .inr hlast
      · exact .inl (ha.of_set hne rfl)
  | @notifyOne j k purpose deadline' hj hk =>
      -- Being notified is not an answer.
      have hother : SharedPool.Awaits { a with threads := a.threads.set j (.ended .returned) } i
          deadline := ha.of_set (ha.ne hj nofun) rfl
      by_cases hne : k = i
      · obtain ⟨wait, purpose', hi⟩ := ha
        obtain ⟨_, _, hother⟩ := hother
        obtain rfl := hne
        obtain ⟨-, -, rfl⟩ := PoolThread.waiting.inj (Option.some.inj (hk.symm.trans hi))
        exact .inl ⟨.notified, purpose,
          List.getElem?_set_self (List.getElem?_eq_some_iff.1 hother).1⟩
      · exact .inl (hother.of_set hne rfl)
  | notifyNobody hj hn => exact .inl (ha.of_set (ha.ne hj nofun) rfl)
  | @notifyAll j drained hj =>
      have hother : SharedPool.Awaits
          { a with threads := a.threads.set j (.closingOn drained.length drained) } i deadline :=
        ha.of_set (ha.ne hj nofun) rfl
      exact .inl hother.notify
  | close hj =>
      obtain ⟨t, ht⟩ := a.threads_close _ _ _ _
      exact .inl (ha.of_set (ha.ne hj nofun) ht)
  | closeNext hj =>
      obtain ⟨t, ht⟩ := a.threads_close _ _ _ _
      exact .inl (ha.of_set (ha.ne hj nofun) ht)

/-- A run leaves an acquisition without an answer, or its last check is one of the steps. -/
theorem Run.awaits_or_lastCheck (h : Run a s) (ha : a.Awaits i deadline) :
    s.Awaits i deadline ∨
      ∃ b b', Run a b ∧ Step b b' ∧ LastCheck i deadline b b' ∧ Run b' s := by
  induction h with
  | refl => exact .inl ha
  | @tail b c hrun hstep ih =>
      obtain hawaits | ⟨d, d', hbefore, hcheck, hlast, hafter⟩ := ih
      · obtain hawaits' | hlast := hstep.awaits_or_lastCheck hawaits
        · exact .inl hawaits'
        · exact .inr ⟨b, c, hrun, hstep, hlast, .refl⟩
      · exact .inr ⟨d, d', hbefore, hcheck, hlast, hafter.tail hstep⟩

/-! ### What the answer says -/

theorem LastCheck.lt_length (h : LastCheck i deadline a b) : i < a.threads.length := by
  cases h with
  | acquired hi => exact (List.getElem?_eq_some_iff.1 hi).1
  | exhausted hi => exact (List.getElem?_eq_some_iff.1 hi).1
  | closed hi => exact (List.getElem?_eq_some_iff.1 hi).1

/-- An open pool with an idle resource hands it out, even after the deadline. -/
theorem LastCheck.holding_of_idle (h : LastCheck i deadline a b) (hopen : a.state.closed = false)
    {r : Numbered V} {idle : List (Numbered V)} (hidle : a.state.idle = r :: idle) :
    ∃ purpose, b.threads[i]? = some (.holding purpose r) := by
  have hlt := h.lt_length
  cases h with
  | @acquired _ purpose q _ hi hawake _ hfront =>
      obtain ⟨rfl, -⟩ := List.cons.inj (hidle.symm.trans hfront)
      exact ⟨purpose, List.getElem?_set_self hlt⟩
  | exhausted hi hawake _ hnone hlate =>
      rw [hidle] at hnone
      cases hnone
  | closed hi hawake hclosed =>
      rw [hopen] at hclosed
      cases hclosed

/-- An open pool refuses nobody before the deadline. -/
theorem LastCheck.late_of_refused (h : LastCheck i deadline a b) (hopen : a.state.closed = false)
    {e : PoolError} (hrefused : b.threads[i]? = some (.ended (.refused e))) :
    deadline ≤ a.clock := by
  have hlt := h.lt_length
  cases h with
  | acquired hi hawake _ hfront =>
      rw [List.getElem?_set_self hlt] at hrefused
      cases hrefused
  | exhausted hi hawake _ hnone hlate => exact hlate
  | closed hi hawake hclosed =>
      rw [hopen] at hclosed
      cases hclosed

/-- A thread that acquires begins without an answer when the clock can show its deadline. -/
theorem awaits_acquirer (hdeadline : s.clock.after? s.timeout = some deadline)
    (purpose : Purpose) :
    (s.spawn (s.acquirer purpose)).Awaits s.threads.length deadline := by
  refine ⟨.ready, purpose, ?_⟩
  rw [acquirer, hdeadline]
  exact List.getElem?_concat_length

/-- A thread that acquires is new when the clock can show its deadline. -/
theorem Step.begin_of_after? (hdeadline : s.clock.after? s.timeout = some deadline)
    (purpose : Purpose) : Step s (s.spawn (.waiting .ready purpose deadline)) := by
  have hbegin : Step s (s.spawn (s.acquirer purpose)) := .begin purpose
  rwa [acquirer, hdeadline] at hbegin

/-- **An acquisition tells the truth about the pool.**  However the steps of others, the wake-ups
and the time that passes follow each other, an acquisition that has begun is without an answer as
long as no check has given it one.  Its last check says what it has found and changes nothing but
that: it hands out the first idle resource of an open pool; it gives up when the pool is open,
nothing is idle and the deadline, a timeout after the begin, has been reached; or it finds the pool
shut down.  Beside an idle resource of an open pool it never gives up, even after the deadline, and
an open pool refuses nobody before it. -/
theorem acquisition_truthful {s₀ : SharedPool σ V} {purpose : Purpose}
    (hdeadline : s₀.clock.after? s₀.timeout = some deadline)
    (hrun : Run (s₀.spawn (s₀.acquirer purpose)) s) :
    deadline = s₀.clock + s₀.timeout.nanos ∧
    (s.Awaits s₀.threads.length deadline ∨
      ∃ a b, Run (s₀.spawn (s₀.acquirer purpose)) a ∧ Step a b ∧
        LastCheck s₀.threads.length deadline a b ∧ Run b s) ∧
    (∀ b, s.Awaits s₀.threads.length deadline → Step s b →
      b.Awaits s₀.threads.length deadline ∨ LastCheck s₀.threads.length deadline s b) ∧
    ∀ b, LastCheck s₀.threads.length deadline s b → s.state.closed = false →
      (∀ r idle, s.state.idle = r :: idle →
        ∃ purpose, b.threads[s₀.threads.length]? = some (.holding purpose r)) ∧
      (∀ e, b.threads[s₀.threads.length]? = some (.ended (.refused e)) →
        s₀.clock + s₀.timeout.nanos ≤ s.clock) := by
  obtain ⟨-, hsum⟩ := Instant.after?_eq_some_iff.1 hdeadline
  refine ⟨hsum.symm, hrun.awaits_or_lastCheck (awaits_acquirer hdeadline purpose),
    fun b hawaits hstep => hstep.awaits_or_lastCheck hawaits, fun b hlast hopen => ⟨?_, ?_⟩⟩
  · exact fun r idle hidle => hlast.holding_of_idle hopen hidle
  · intro e hrefused
    rw [hsum]
    exact hlast.late_of_refused hopen hrefused

/-- A pool whose only resource is held. -/
def allHeld : SharedPool Workshop Specimen where
  factory := Workshop.factory
  works := { nextId := 1, journal := [.created 0] }
  timeout := .ofSecs 1
  state := { idle := [], inUse := 1, acquired := 1 }
  clock := 0
  threads := [.holding .caller ⟨0, ⟨0, ""⟩⟩]

/-- The only resource of a pool comes back a second after the deadline of the thread that waits for
it; that thread gets it all the same. -/
theorem acquisition_truthful_of_late_return :
    ∃ a b s, allHeld.clock.after? allHeld.timeout = some nanosPerSecond ∧
      Run (allHeld.spawn (allHeld.acquirer .caller)) s ∧ s.clock = 2 * nanosPerSecond ∧
      s.threads = [.notifying, .holding .caller ⟨0, ⟨0, ""⟩⟩] ∧
      Run (allHeld.spawn (allHeld.acquirer .caller)) a ∧ LastCheck 1 nanosPerSecond a b ∧
      Run b s := by
  have hdeadline : allHeld.clock.after? allHeld.timeout = some nanosPerSecond :=
    Instant.after?_eq_some_iff.2 ⟨by decide, rfl⟩
  have hacquirer : allHeld.acquirer .caller = .waiting .ready .caller nanosPerSecond := by
    rw [acquirer, hdeadline]
  obtain ⟨s, hrun, hclock, hthreads⟩ :
      ∃ s, Run (allHeld.spawn (allHeld.acquirer .caller)) s ∧ s.clock = 2 * nanosPerSecond ∧
        s.threads = [.notifying, .holding .caller ⟨0, ⟨0, ""⟩⟩] := by
    rw [hacquirer]
    exact ⟨_, Relation.ReflTransGen.refl
      |>.tail (.act (i := 1) rfl
        (.sleep (by decide) (PoolState.check_eq_wait_iff.2 ⟨rfl, rfl, by decide, rfl⟩)))
      |>.tail (.tick (2 * nanosPerSecond))
      |>.tail (.act (i := 1) rfl .wake)
      |>.tail (.act (i := 0) rfl (.giveBack rfl))
      |>.tail (.act (i := 1) rfl (.take (by decide) rfl)), rfl, rfl⟩
  obtain ⟨-, hawaits | ⟨a, b, hbefore, -, hlast, hafter⟩, -⟩ :=
    acquisition_truthful hdeadline hrun
  · obtain ⟨wait, purpose, hi⟩ := hawaits
    rw [hthreads] at hi
    cases hi
  · exact ⟨a, b, s, hdeadline, hrun, hclock, hthreads, hbefore, hlast, hafter⟩

end SharedPool

end DataTier
