/-
**Which acquisitions break down.**

The deadline of an acquisition is worked out before the pool is looked at.  When the clock cannot
show it the acquisition breaks down, even beside an idle resource and even when the pool is shut
down; a worker that acquires for somebody else reports the breakdown.  A pool takes any timeout, so
there are pools of which nothing can ever be acquired.

Nothing else breaks an acquisition down, whatever others do to the pool meanwhile.  A scoped call
may report a breakdown for two more reasons, which are not the pool's: its use has broken down, or
the factory has, over the resource that came back after shutdown.

Main definitions:

* `DataTier.SharedPool.found?` — what an acquisition has come to;
* `DataTier.SharedPool.Answered` — a step that answers an acquisition.

Main results:

* `DataTier.Pool.acquire_panicked_iff`, `Pool.withResource_workerFailed_iff` — acquisitions and
  scoped calls that nobody interferes with;
* `DataTier.SharedPool.Answered.spec` — the answer of an acquisition among other threads;
* `DataTier.ScopedCall.workerFailed_iff` — the same for scoped calls;
* `DataTier.SharedPool.breaks_down_exactly_beyond_clock` — **all of them**;
* `DataTier.Pool.acquire_panicked_of_longest_wait` — a pool that is asked to wait for ever.
-/

import DataTier.Proofs.Pool.Acquisition
import DataTier.Proofs.Pool.Scoped

set_option relaxedAutoImplicit false
set_option autoImplicit false

namespace DataTier

variable {σ V R α : Type}

/-! ### Calls that nobody interferes with -/

namespace Pool

variable {p : Pool σ R} {now : Instant} {message : String}

theorem exists_after? (h : now + p.timeout.nanos < Instant.limit) :
    ∃ deadline, now.after? p.timeout = some deadline :=
  ⟨_, Instant.after?_eq_some_iff.2 ⟨h, rfl⟩⟩

/-- When the clock can show the deadline an acquisition is answered, and not by a breakdown of a
worker. -/
theorem exists_acquire_eq_done (h : now + p.timeout.nanos < Instant.limit) :
    ∃ answer, (p.acquire now).1 = .done answer ∧
      ∀ message, answer ≠ .error (.workerFailed message) := by
  obtain ⟨deadline, hdeadline⟩ := exists_after? h
  cases hclosed : p.state.closed with
  | true => exact ⟨_, by rw [acquire_of_closed hdeadline hclosed], by simp⟩
  | false =>
      cases hidle : p.state.idle with
      | nil => exact ⟨_, by rw [acquire_of_empty hdeadline hclosed hidle], by simp⟩
      | cons r idle => exact ⟨_, by rw [acquire_of_idle hdeadline hclosed hidle], by simp⟩

/-- **An acquisition breaks down exactly beyond the clock.** -/
theorem acquire_panicked_iff : (p.acquire now).1 = .panicked message ↔
    message = Instant.overflowMessage ∧ Instant.limit ≤ now + p.timeout.nanos := by
  rcases Nat.lt_or_ge (now + p.timeout.nanos) Instant.limit with h | h
  · obtain ⟨answer, hanswer, -⟩ := exists_acquire_eq_done h
    simp [hanswer, h]
  · rw [acquire_of_overflow (Instant.after?_eq_none_iff.2 h)]
    simp [h, eq_comm]

/-- A worker that acquires reports a breakdown exactly beyond the clock. -/
theorem ofWorker_acquire_eq_workerFailed_iff :
    ofWorker (p.acquire now).1 = .error (.workerFailed message) ↔
      message = "pool worker panicked" ∧ Instant.limit ≤ now + p.timeout.nanos := by
  rcases Nat.lt_or_ge (now + p.timeout.nanos) Instant.limit with h | h
  · obtain ⟨answer, hanswer, hnot⟩ := exists_acquire_eq_done h
    simp [hanswer, ofWorker, hnot, h]
  · rw [acquire_of_overflow (Instant.after?_eq_none_iff.2 h)]
    simp [ofWorker, PoolError.workerPanicked, h, eq_comm]

/-- **A scoped call reports a breakdown** beyond the clock, or when its use has broken down. -/
theorem withResource_workerFailed_iff {use : R → Outcome α × R} :
    (p.withResource now use).1 = .error (.workerFailed message) ↔
      message = "pool worker panicked" ∧ (Instant.limit ≤ now + p.timeout.nanos ∨
        p.state.closed = false ∧
          ∃ r idle why, p.state.idle = r :: idle ∧ (use r).1 = .panicked why) := by
  rcases Nat.lt_or_ge (now + p.timeout.nanos) Instant.limit with h | h
  · obtain ⟨deadline, hdeadline⟩ := exists_after? h
    cases hclosed : p.state.closed with
    | true => simp [withResource, acquire_of_closed hdeadline hclosed, h]
    | false =>
        cases hidle : p.state.idle with
        | nil => simp [withResource, acquire_of_empty hdeadline hclosed hidle, h]
        | cons r idle =>
            cases hused : (use r).1 <;>
              simp [withResource, acquire_of_idle hdeadline hclosed hidle, giveBack,
                PoolState.giveBack, hclosed, hused, PoolError.workerPanicked, h, eq_comm]
  · rw [withResource, acquire_of_overflow (Instant.after?_eq_none_iff.2 h)]
    simp only [PoolError.workerPanicked, Except.error.injEq, PoolError.workerFailed.injEq, h,
      true_or, and_true]
    exact eq_comm

/-- **A pool that is asked to wait for ever** hands out nothing: the acquisition breaks down beside
the idle resource, a worker reports a breakdown, also to a use that would just return, and after
shutdown it is the same. -/
theorem acquire_panicked_of_longest_wait :
    ∃ p : Pool Workshop Specimen,
      (build Workshop.factory {} 1 .longest).result = .done (.ok p) ∧
      p.state.closed = false ∧ p.state.idle = [⟨0, ""⟩] ∧
      (p.acquire 0).1 = .panicked Instant.overflowMessage ∧
      ofWorker (p.acquire 0).1 = .error (.workerFailed "pool worker panicked") ∧
      (p.withResource 0 fun r => (.done r.id, r)).1 =
        .error (.workerFailed "pool worker panicked") ∧
      p.shutdown.2.state.closed = true ∧
      (p.shutdown.2.acquire 0).1 = .panicked Instant.overflowMessage :=
  ⟨_, rfl, rfl, rfl, rfl, rfl, rfl, rfl, rfl⟩

end Pool

/-! ### Acquisitions among other threads -/

namespace SharedPool

variable {s a b : SharedPool σ V} {i : Nat} {deadline : Instant} {purpose : Purpose}
  {answer : Outcome (Except PoolError (Numbered V))}

theorem acquirer_of_overflow (h : Instant.limit ≤ s.clock + s.timeout.nanos) (purpose : Purpose) :
    s.acquirer purpose = .ended (.broken Instant.overflowMessage) := by
  rw [acquirer, Instant.after?_eq_none_iff.2 h]

/-- What the acquisition of thread `i` has come to: the resource that the thread holds, or what it
has ended with. -/
def found? (s : SharedPool σ V) (i : Nat) : Option (Outcome (Except PoolError (Numbered V))) :=
  match s.threads[i]? with
  | some (.holding _ r) => some (.done (.ok r))
  | some (.ended (.refused e)) => some (.done (.error e))
  | some (.ended (.broken message)) => some (.panicked message)
  | _ => none

theorem Awaits.found?_eq_none (h : s.Awaits i deadline) : s.found? i = none := by
  obtain ⟨wait, purpose, hi⟩ := h
  rw [found?, hi]

/-- The acquisition that thread `i` makes gets its answer in the step from `a` to `b`. -/
structure Answered (i : Nat) (deadline : Instant) (a b : SharedPool σ V)
    (answer : Outcome (Except PoolError (Numbered V))) : Prop where
  awaits : a.Awaits i deadline
  step : Step a b
  found : b.found? i = some answer

theorem LastCheck.step (h : LastCheck i deadline a b) : Step a b := by
  cases h with
  | acquired hi hawake hopen hidle =>
      exact .act hi (.take hawake (PoolState.check_eq_acquired_iff.2 ⟨hopen, _, hidle, rfl⟩))
  | exhausted hi hawake hopen hidle hlate =>
      exact .act hi
        (.giveUp hawake (PoolState.check_eq_exhausted_iff.2 ⟨hopen, hidle, hlate, rfl⟩))
  | closed hi hawake hclosed =>
      exact .act hi (.refuse hawake (PoolState.check_eq_closed_iff.2 ⟨hclosed, rfl⟩))

theorem LastCheck.answered (h : LastCheck i deadline a b) :
    ∃ answer, Answered i deadline a b answer := by
  have hlt := h.lt_length
  have hstep := h.step
  cases h with
  | acquired hi => exact ⟨_, ⟨_, _, hi⟩, hstep, by rw [found?, List.getElem?_set_self hlt]⟩
  | exhausted hi => exact ⟨_, ⟨_, _, hi⟩, hstep, by rw [found?, List.getElem?_set_self hlt]⟩
  | closed hi => exact ⟨_, ⟨_, _, hi⟩, hstep, by rw [found?, List.getElem?_set_self hlt]⟩

/-- **The answer of an acquisition is no breakdown.**  It is a resource when one is idle in an open
pool, and that the pool is shut down when it is. -/
theorem Answered.spec (h : Answered i deadline a b answer) :
    ∃ x, answer = .done x ∧ (∀ message, x ≠ .error (.workerFailed message)) ∧
      (a.state.closed = true → x = .error .closed) ∧
      (a.state.closed = false → ∀ r idle, a.state.idle = r :: idle → x = .ok r) := by
  obtain ⟨hawaits, hstep, hfound⟩ := h
  obtain hagain | hlast := hstep.awaits_or_lastCheck hawaits
  · rw [hagain.found?_eq_none] at hfound
    cases hfound
  · have hlt := hlast.lt_length
    cases hlast with
    | acquired hi hawake hopen hidle =>
        rw [found?, List.getElem?_set_self hlt] at hfound
        refine ⟨_, (Option.some.inj hfound).symm, nofun, ?_, ?_⟩
        · intro hclosed
          rw [hopen] at hclosed
          cases hclosed
        · intro _ r idle hr
          rw [(List.cons.inj (hidle.symm.trans hr)).1]
    | exhausted hi hawake hopen hidle hlate =>
        rw [found?, List.getElem?_set_self hlt] at hfound
        refine ⟨_, (Option.some.inj hfound).symm, nofun, ?_, ?_⟩
        · intro hclosed
          rw [hopen] at hclosed
          cases hclosed
        · intro _ r idle hr
          rw [hidle] at hr
          cases hr
    | closed hi hawake hclosed =>
        rw [found?, List.getElem?_set_self hlt] at hfound
        refine ⟨_, (Option.some.inj hfound).symm, nofun, fun _ => rfl, ?_⟩
        intro hopen
        rw [hclosed] at hopen
        cases hopen

/-- An acquisition may always check, if need be after it has woken by itself. -/
theorem Awaits.exists_awake (h : s.Awaits i deadline) :
    ∃ a wait purpose, Run s a ∧ a.state = s.state ∧
      a.threads[i]? = some (.waiting wait purpose deadline) ∧ wait ≠ .asleep := by
  obtain ⟨wait, purpose, hi⟩ := h
  cases wait with
  | ready => exact ⟨s, .ready, purpose, .refl, rfl, hi, by decide⟩
  | notified => exact ⟨s, .notified, purpose, .refl, rfl, hi, by decide⟩
  | asleep =>
      exact ⟨_, .ready, purpose, .single (.act hi .wake), rfl,
        List.getElem?_set_self (List.getElem?_eq_some_iff.1 hi).1, by decide⟩

/-- **An acquisition returns** without anybody's help when a resource is idle, or the pool is shut
down. -/
theorem Awaits.exists_answered (h : s.Awaits i deadline)
    (hready : s.state.closed = true ∨ s.state.idle ≠ []) :
    ∃ a b answer, Run s a ∧ a.state = s.state ∧ Answered i deadline a b answer := by
  obtain ⟨a, wait, purpose, hrun, hstate, hi, hawake⟩ := h.exists_awake
  rw [← hstate] at hready
  obtain ⟨b, hlast⟩ : ∃ b, LastCheck i deadline a b := by
    cases hclosed : a.state.closed with
    | true => exact ⟨_, .closed hi hawake hclosed⟩
    | false =>
        cases hidle : a.state.idle with
        | nil => simp [hclosed, hidle] at hready
        | cons r idle => exact ⟨_, .acquired hi hawake hclosed hidle⟩
  obtain ⟨answer, hanswered⟩ := hlast.answered
  exact ⟨a, b, answer, hrun, hstate, hanswered⟩

end SharedPool

/-! ### Scoped calls among other threads -/

namespace ScopedCall

variable {i : Nat} {f : V → ScopedUse σ V α} {c c' : ScopedCall σ V α} {s : SharedPool σ V}

/-- The call has broken down before it had a resource. -/
def Broken (i : Nat) (c : ScopedCall σ V α) : Prop :=
  c.stage = .acquiring ∧ ∃ message, c.pool.threads[i]? = some (.ended (.broken message))

theorem Broken.result?_eq (h : c.Broken i) : c.result? i = some (.error .workerPanicked) := by
  obtain ⟨hstage, message, hi⟩ := h
  rw [result?, outcome?, hstage, hi]
  rfl

theorem Broken.step (hc : c.Broken i) (h : Step i f c c') : c'.Broken i := by
  obtain ⟨hstage, message, hi⟩ := hc
  cases h with
  | others hstep hspares =>
      refine ⟨hstage, message, ?_⟩
      rcases hspares with hsame | hnotified
      · rw [hsame, hi]
      · rw [hnotified, hi]
        rfl
  | acquires _ hi' => rw [hi] at hi'; cases hi'
  | enters _ hi' => rw [hi] at hi'; cases hi'
  | changes hstage' => rw [hstage] at hstage'; cases hstage'
  | looks hstage' => rw [hstage] at hstage'; cases hstage'
  | acts hstage' => rw [hstage] at hstage'; cases hstage'
  | ends hstage' => rw [hstage] at hstage'; cases hstage'
  | returns hstage' => rw [hstage] at hstage'; cases hstage'
  | wakesOne hstage' => rw [hstage] at hstage'; cases hstage'
  | wakesNobody hstage' => rw [hstage] at hstage'; cases hstage'
  | closes hstage' => rw [hstage] at hstage'; cases hstage'

theorem Broken.run (hc : c.Broken i) (h : Run i f c c') : c'.Broken i := by
  induction h with
  | refl => exact hc
  | tail _ hstep ih => exact ih.step hstep

theorem broken_start (h : Instant.limit ≤ s.clock + s.timeout.nanos) :
    (start s : ScopedCall σ V α).Broken s.threads.length := by
  refine ⟨rfl, Instant.overflowMessage, ?_⟩
  rw [start, SharedPool.acquirer_of_overflow h]
  exact List.getElem?_concat_length

/-- The use of a call has broken down, or the factory has over its resource. -/
def Fails (c : ScopedCall σ V α) : Prop :=
  (∃ v why, c.stage = .left v (.panicked why)) ∨
    ∃ q why, Happening.closed q (.panicked why) ∈ c.deeds.map Deed.happening

theorem answer_workerFailed_iff {result : Outcome α} :
    (∃ message, answer result = .error (.workerFailed message)) ↔
      ∃ why, result = .panicked why := by
  cases result <;> simp [answer, PoolError.workerPanicked]

/-- A call that has got as far as asking the pool reports a breakdown when its use has broken down,
or the factory has over its resource. -/
theorem Standing.workerFailed_iff (hc : Standing i f c) {x : Except PoolError α}
    (h : c.result? i = some x) :
    (∃ message, x = .error (.workerFailed message)) ↔ c.Fails := by
  obtain ⟨e, hi⟩ := exists_ended_of_result? h
  have hstands := hc.stands rfl hi
  obtain ⟨pool, stage, begun, deeds, besides⟩ := c
  simp only [Fails] at hi hstands ⊢
  cases hstands with
  | refused hd =>
      obtain rfl := Option.some.inj ((result?_of_refused rfl hi).symm.trans h)
      cases hd <;> simp
  | @left _ _ _ result _ _ hd huse hds =>
      cases hd
      cases hds with
      | back hd' =>
          obtain rfl := Option.some.inj ((result?_of_returned rfl hi).symm.trans h)
          cases hd'
          simp [answer_workerFailed_iff]
      | closed hd' hd'' hx =>
          obtain rfl := Option.some.inj ((result?_of_returned rfl hi).symm.trans h)
          cases hd'
          cases hd''
          simp [answer_workerFailed_iff, fun why => (hx why).symm]
      | broken hd' hd'' =>
          cases result with
          | done y =>
              obtain rfl := Option.some.inj ((result?_of_broken rfl hi).symm.trans h)
              cases hd'
              cases hd''
              simp [PoolError.workerPanicked]
          | panicked message => simp [result?, outcome?, hi] at h

/-- **A scoped call reports a breakdown** beyond the clock, when its use has broken down, or the
factory has over its resource. -/
theorem workerFailed_iff (hrun : Run s.threads.length f (start s) c) {x : Except PoolError α}
    (h : c.result? s.threads.length = some x) :
    (∃ message, x = .error (.workerFailed message)) ↔
      Instant.limit ≤ s.clock + s.timeout.nanos ∨ c.Fails := by
  rcases Nat.lt_or_ge (s.clock + s.timeout.nanos) Instant.limit with hshown | hbeyond
  · have hstanding := (standing_start (Instant.after?_eq_some_iff.2 ⟨hshown, rfl⟩)).run hrun
    rw [hstanding.workerFailed_iff h, or_iff_right (Nat.not_le.2 hshown)]
  · have hbroken := (broken_start hbeyond).run hrun
    obtain rfl := Option.some.inj (hbroken.result?_eq.symm.trans h)
    exact iff_of_true ⟨_, rfl⟩ (.inl hbeyond)

end ScopedCall

/-! ### The theorem -/

namespace SharedPool

/-- **Acquisitions break down exactly beyond the clock.**  Of a pool in any state: an acquisition
breaks down, and a worker that acquires reports a breakdown, exactly when the clock cannot show the
deadline; a scoped call also when its use has broken down.  Otherwise a pool that is shut down says
so, and an open one hands out its first idle resource.  It is the same among other threads: an
acquisition ends at once when the clock cannot show its deadline; if it can, every answer that the
acquisition may get is a resource or a refusal of the pool, the first idle resource when there is
one in an open pool and that the pool is shut down when it is, and then no help is needed to get
that far.  A scoped call reports a breakdown beyond the clock, when its use has broken down, or the
factory has over the resource that came back after shutdown. -/
theorem breaks_down_exactly_beyond_clock :
    (∀ (p : Pool σ R) (now : Instant) (message : String),
      ((p.acquire now).1 = .panicked message ↔
        message = Instant.overflowMessage ∧ Instant.limit ≤ now + p.timeout.nanos) ∧
      (Pool.ofWorker (p.acquire now).1 = .error (.workerFailed message) ↔
        message = "pool worker panicked" ∧ Instant.limit ≤ now + p.timeout.nanos) ∧
      ∀ use : R → Outcome α × R,
        ((p.withResource now use).1 = .error (.workerFailed message) ↔
          message = "pool worker panicked" ∧ (Instant.limit ≤ now + p.timeout.nanos ∨
            p.state.closed = false ∧
              ∃ r idle why, p.state.idle = r :: idle ∧ (use r).1 = .panicked why))) ∧
    (∀ (p : Pool σ R) (now : Instant), now + p.timeout.nanos < Instant.limit →
      (p.state.closed = true → p.acquire now = (.done (.error .closed), p)) ∧
      (p.state.closed = false → ∀ r idle, p.state.idle = r :: idle →
        (p.acquire now).1 = .done (.ok r))) ∧
    (∀ (s : SharedPool σ V) (purpose : Purpose), Instant.limit ≤ s.clock + s.timeout.nanos →
      s.acquirer purpose = .ended (.broken Instant.overflowMessage)) ∧
    (∀ (s s' : SharedPool σ V) (purpose : Purpose) (deadline : Instant),
      s.clock.after? s.timeout = some deadline →
      Run (s.spawn (s.acquirer purpose)) s' →
      (s'.Awaits s.threads.length deadline ∨
        ∃ a b answer, Run (s.spawn (s.acquirer purpose)) a ∧
          Answered s.threads.length deadline a b answer ∧ Run b s') ∧
      (∀ b answer, Answered s.threads.length deadline s' b answer →
        ∃ x, answer = .done x ∧ (∀ message, x ≠ .error (.workerFailed message)) ∧
          (s'.state.closed = true → x = .error .closed) ∧
          (s'.state.closed = false → ∀ r idle, s'.state.idle = r :: idle → x = .ok r)) ∧
      (s'.Awaits s.threads.length deadline → s'.state.closed = true ∨ s'.state.idle ≠ [] →
        ∃ a b answer, Run s' a ∧ a.state = s'.state ∧
          Answered s.threads.length deadline a b answer)) ∧
    (∀ (s : SharedPool σ V) (f : V → ScopedUse σ V α) (c : ScopedCall σ V α)
      (x : Except PoolError α), ScopedCall.Run s.threads.length f (.start s) c →
      c.result? s.threads.length = some x →
      ((∃ message, x = .error (.workerFailed message)) ↔
        Instant.limit ≤ s.clock + s.timeout.nanos ∨ c.Fails)) := by
  refine ⟨fun p now message => ⟨Pool.acquire_panicked_iff,
      Pool.ofWorker_acquire_eq_workerFailed_iff, fun use => Pool.withResource_workerFailed_iff⟩, ?_,
    fun s purpose h => acquirer_of_overflow h purpose, ?_,
    fun s f c x hrun h => ScopedCall.workerFailed_iff hrun h⟩
  · intro p now hshown
    obtain ⟨deadline, hdeadline⟩ := Pool.exists_after? hshown
    refine ⟨Pool.acquire_of_closed hdeadline, fun hopen r idle hidle => ?_⟩
    rw [Pool.acquire_of_idle hdeadline hopen hidle]
  · intro s s' purpose deadline hdeadline hrun
    refine ⟨?_, fun b answer h => h.spec, fun hawaits => hawaits.exists_answered⟩
    obtain hawaits | ⟨a, b, hbefore, -, hlast, hafter⟩ :=
      hrun.awaits_or_lastCheck (awaits_acquirer hdeadline purpose)
    · exact .inl hawaits
    · obtain ⟨answer, hanswered⟩ := hlast.answered
      exact .inr ⟨a, b, answer, hbefore, hanswered, hafter⟩

/-- The first of two resources goes to an acquisition that nobody interferes with, and to one among
other threads; a scoped call whose use breaks down on it reports that. -/
theorem breaks_down_exactly_beyond_clock_of_two_specimens :
    ∃ (a b : SharedPool Workshop Specimen) (c : ScopedCall Workshop Specimen Nat)
      (message : String),
      (twoSpecimens.acquire 0).1 = .done (.ok ⟨0, ""⟩) ∧
      Run ((ofPool twoSpecimens 0).spawn ((ofPool twoSpecimens 0).acquirer .caller)) a ∧
      Answered 0 nanosPerSecond a b (.done (.ok ⟨0, ⟨0, ""⟩⟩)) ∧
      ScopedCall.Run 0 (.ofFun fun r => (.panicked "worn out", r)) (.start (ofPool twoSpecimens 0))
        c ∧
      c.result? 0 = some (.error (.workerFailed message)) := by
  have hdeadline : (0 : Instant).after? (.ofSecs 1) = some nanosPerSecond :=
    Instant.after?_eq_some_iff.2 ⟨by decide, rfl⟩
  obtain ⟨-, halone, -, hshared, hscoped⟩ :=
    breaks_down_exactly_beyond_clock (σ := Workshop) (R := Specimen) (V := Specimen) (α := Nat)
  -- The acquisition is answered by a step of its own.
  obtain ⟨-, -, hanswers⟩ :=
    hshared (ofPool twoSpecimens 0) _ .caller nanosPerSecond hdeadline .refl
  obtain ⟨a, b, answer, hbefore, hstate, hanswered⟩ :=
    hanswers (awaits_acquirer hdeadline .caller) (.inr (List.cons_ne_nil _ _))
  obtain ⟨-, htrue, -⟩ :=
    hshared (ofPool twoSpecimens 0) a .caller nanosPerSecond hdeadline hbefore
  obtain ⟨x, rfl, -, -, hidle⟩ := htrue b answer hanswered
  obtain rfl := hidle (by rw [hstate]; rfl) ⟨0, ⟨0, ""⟩⟩ [⟨1, ⟨1, ""⟩⟩] (by rw [hstate]; rfl)
  -- The use of the call breaks down.
  obtain ⟨c, hrun, hresult, hfails⟩ : ∃ c : ScopedCall Workshop Specimen Nat,
      ScopedCall.Run 0 (.ofFun fun r => (.panicked "worn out", r)) (.start (ofPool twoSpecimens 0))
        c ∧
      (∃ x, c.result? 0 = some x) ∧ c.Fails :=
    ⟨_, Relation.ReflTransGen.refl
      |>.tail (.acquires rfl rfl (.take (by decide) rfl))
      |>.tail (.enters rfl rfl)
      |>.tail (.changes rfl rfl)
      |>.tail (.ends rfl)
      |>.tail (.returns rfl rfl rfl)
      |>.tail (.wakesNobody rfl rfl (by decide)), ⟨_, rfl⟩, .inl ⟨_, _, rfl⟩⟩
  obtain ⟨x, hx⟩ := hresult
  obtain ⟨message, rfl⟩ := (hscoped (ofPool twoSpecimens 0) _ c x hrun hx).2 (.inr hfails)
  exact ⟨a, b, c, message, (halone twoSpecimens 0 (by decide)).2 rfl _ _ rfl, hbefore, hanswered,
    hrun, hx⟩

end SharedPool

end DataTier
