/-
**A resource used within one call goes back on every exit.**

A scoped call acquires a resource, runs a use on it and gives it back, whether the use returns or
breaks down.  The use is a program.  It may change its resource, look at the pool, and act on the
pool that the resource is from: acquire more of it, give that back, shut it down.  What it asks of
the pool is done by threads of their own, among all others; none of them can touch the resource
of the call.

The call keeps records that nothing depends on: on what the use was begun, and what the thread of
the call has done to the pool, each deed with the state of the pool before and after it.  What is
shown of a call that has ended is read off these records.

Main definitions:

* `DataTier.ScopedUse`, `ScopedUse.Ends` — what a use does, and how it may end;
* `DataTier.ScopedCall`, `ScopedCall.Step`, `ScopedCall.Run` — a call among the threads of a pool;
* `DataTier.ScopedCall.result?` — what the caller gets;
* `DataTier.ScopedCall.Stands`, `ScopedCall.Went` — the invariant of a call, and what it comes to.

Main results:

* `DataTier.ScopedCall.Standing.step` — a step keeps the invariant;
* `DataTier.ScopedCall.exists_run_withResource` — `Pool.withResource` is a call that nobody
  interferes with;
* `DataTier.ScopedCall.balanced_on_every_exit` — **what holds of every scoped call**.
-/

import DataTier.Proofs.Pool.Acquisition
import DataTier.Proofs.Pool.Conservation

set_option relaxedAutoImplicit false
set_option autoImplicit false

namespace DataTier

variable {σ V α : Type}

/-! ### Uses -/

/-- What a use does, step by step.  What it sees of the pool decides how it goes on. -/
inductive ScopedUse (σ V α : Type) where
  /-- It returns or breaks down. -/
  | ends (result : Outcome α)
  /-- It changes its resource. -/
  | change (v : V) (next : ScopedUse σ V α)
  /-- It waits until it sees something in the pool. -/
  | look (sees : SharedPool σ V → Prop) (next : SharedPool σ V → ScopedUse σ V α)
  /-- It does something to the pool, and sees what has come of it. -/
  | act (does : SharedPool σ V → SharedPool σ V → Prop) (next : SharedPool σ V → ScopedUse σ V α)

namespace ScopedUse

/-- It asks the pool for one more resource, and goes on when it knows which thread asks. -/
def acquire (next : Nat → ScopedUse σ V α) : ScopedUse σ V α :=
  .act (fun s s' => s' = s.spawn (s.acquirer .caller)) fun s' => next (s'.threads.length - 1)

/-- It gives back what thread `j` holds for it. -/
def giveBack (j : Nat) (next : ScopedUse σ V α) : ScopedUse σ V α :=
  .act (fun s s' => ∃ purpose r, s.threads[j]? = some (.holding purpose r) ∧
    (s'.threads[j]? = some .notifying ∨ s'.threads[j]? = some (.closing r))) fun _ => next

/-- It shuts the pool down, and goes on when it knows which thread does so. -/
def shutDown (next : Nat → ScopedUse σ V α) : ScopedUse σ V α :=
  .act (fun s s' => s' = s.spawn .stopping) fun s' => next (s'.threads.length - 1)

/-- A use that changes its resource once and leaves the pool alone. -/
def ofFun (use : V → Outcome α × V) (v : V) : ScopedUse σ V α :=
  .change (use v).2 (.ends (use v).1)

/-- A use that leaves the pool alone. -/
inductive Alone : ScopedUse σ V α → Prop
  | ends {result} : Alone (.ends result)
  | change {v next} (h : Alone next) : Alone (.change v next)

/-- A use of a resource that is now `v` may end with `result`, and leave the resource as `w`. -/
inductive Ends : ScopedUse σ V α → V → Outcome α → V → Prop
  | ends {result v} : Ends (.ends result) v result v
  | change {v v' next result w} (h : Ends next v' result w) : Ends (.change v' next) v result w
  | look {sees next s v result w} (hs : sees s) (h : Ends (next s) v result w) :
      Ends (.look sees next) v result w
  | act {does next s s' v result w} (hs : does s s') (h : Ends (next s') v result w) :
      Ends (.act does next) v result w

/-- Such a use ends in one way. -/
theorem ends_ofFun_iff {use : V → Outcome α × V} {v w : V} {result : Outcome α} :
    (ofFun (σ := σ) use v).Ends v result w ↔ use v = (result, w) := by
  constructor
  · intro h
    cases h with
    | change h => cases h; rfl
  · intro h
    rw [ofFun, h]
    exact .change .ends

end ScopedUse

/-! ### Records -/

/-- Whether a resource is handed out. -/
def Happening.isHandedOut : Happening V → Bool
  | .handedOut _ => true
  | _ => false

/-- Whether a resource comes back. -/
def Happening.isComeback : Happening V → Bool
  | .cameBack _ => true
  | _ => false

/-- Something that a thread does to a pool, with the state of the pool before it and after it. -/
structure Deed (V : Type) where
  /-- What happens. -/
  happening : Happening V
  /-- The state before it. -/
  before : PoolState (Numbered V)
  /-- The state after it. -/
  after : PoolState (Numbered V)

namespace Deed

/-- An acquisition is refused: the pool is shut down, or open and without an idle resource. -/
inductive Refuses : Deed V → PoolError → Prop
  | closed {a} (hclosed : a.closed = true) : Refuses ⟨.refused .closed, a, a⟩ .closed
  | exhausted {a timeout} (hopen : a.closed = false) (hidle : a.idle = []) :
      Refuses ⟨.refused (.exhausted timeout), a, { a with exhausted := a.exhausted + 1 }⟩
        (.exhausted timeout)

/-- The first idle resource of an open pool is handed out. -/
inductive Takes : Deed V → Numbered V → Prop
  | intro {r a idle} (hopen : a.closed = false) (hidle : a.idle = r :: idle) :
      Takes ⟨.handedOut r, a,
        { a with idle, inUse := a.inUse + 1, acquired := a.acquired + 1 }⟩ r

/-- A resource comes back to an open pool, behind those that are idle. -/
inductive GivesBack : Deed V → Numbered V → Prop
  | intro {q a} (hopen : a.closed = false) :
      GivesBack ⟨.cameBack q, a,
        { a with idle := a.idle ++ [q], inUse := a.inUse - 1, released := a.released + 1 }⟩ q

/-- A resource comes back after shutdown, and does not become idle. -/
inductive GivesBackLate : Deed V → Numbered V → Prop
  | intro {q a} (hclosed : a.closed = true) :
      GivesBackLate
        ⟨.cameBack q, a, { a with inUse := a.inUse - 1, released := a.released + 1 }⟩ q

/-- A resource is passed to the factory, and this is what comes of it. -/
inductive Closes : Deed V → Numbered V → Attempt Unit → Prop
  | intro {q result a} : Closes ⟨.closed q result, a, a⟩ q result

end Deed

/-! ### Scoped calls -/

namespace SharedPool

/-- The state after thread `i` has acted, and has become `t`. -/
def acted (s : SharedPool σ V) (i : Nat) (t : PoolThread V) (state : PoolState (Numbered V))
    (happened : List (Happening V)) : SharedPool σ V :=
  { s with state, threads := s.threads.set i t, trace := s.trace ++ happened }

/-- Thread `i` has done nothing; it may have been notified. -/
def Spares (s : SharedPool σ V) (i : Nat) (s' : SharedPool σ V) : Prop :=
  s'.threads[i]? = s.threads[i]? ∨ s'.threads[i]? = s.threads[i]?.map PoolThread.notify

end SharedPool

/-- What a thread is to do about a resource that it has given back: what is handed on is to be
closed. -/
def PoolThread.afterReturn : Option (Numbered V) → PoolThread V
  | none => .notifying
  | some q => .closing q

namespace ScopedCall

/-- How far a call has come. -/
inductive Stage (σ V α : Type) where
  /-- It acquires a resource. -/
  | acquiring
  /-- The use goes on; the resource is now `v`. -/
  | running (v : V) (use : ScopedUse σ V α)
  /-- The use has ended, and has left the resource as `v`. -/
  | left (v : V) (result : Outcome α)

end ScopedCall

/-- A scoped call among the threads of a pool. -/
structure ScopedCall (σ V α : Type) where
  /-- The pool. -/
  pool : SharedPool σ V
  /-- How far the call has come. -/
  stage : ScopedCall.Stage σ V α := .acquiring
  /-- On what the use was begun. -/
  begun : List V := []
  /-- What the thread of the call has done to the pool. -/
  deeds : List (Deed V) := []
  /-- What has happened besides, since the call began. -/
  besides : List (Happening V) := []

namespace ScopedCall

/-- A call begins. -/
def start (s : SharedPool σ V) : ScopedCall σ V α where
  pool := s.spawn (s.acquirer .scoped)

/-- **One step** of a call whose thread is `i`, or of anybody else. -/
inductive Step (i : Nat) (f : V → ScopedUse σ V α) :
    ScopedCall σ V α → ScopedCall σ V α → Prop
  /-- Others do something. -/
  | others {c pool later} (hstep : c.pool.Step pool) (hspares : c.pool.Spares i pool)
      (hlater : pool.trace = c.pool.trace ++ later) :
      Step i f c { c with pool, besides := c.besides ++ later }
  /-- The acquisition goes on: it wakes, or checks. -/
  | acquires {c wait purpose deadline t state happened} (hstage : c.stage = .acquiring)
      (hi : c.pool.threads[i]? = some (.waiting wait purpose deadline))
      (ha : PoolThread.Acts c.pool.timeout c.pool.clock c.pool.state
        (.waiting wait purpose deadline) t state happened) :
      Step i f c { c with
        pool := c.pool.acted i t state happened
        deeds := c.deeds ++ happened.map fun e => ⟨e, c.pool.state, state⟩ }
  /-- The use begins. -/
  | enters {c purpose r} (hstage : c.stage = .acquiring)
      (hi : c.pool.threads[i]? = some (.holding purpose r)) :
      Step i f c { c with
        stage := .running r.value (f r.value)
        begun := c.begun ++ [r.value] }
  /-- The use changes its resource. -/
  | changes {c purpose r v v' next} (hstage : c.stage = .running v (.change v' next))
      (hi : c.pool.threads[i]? = some (.holding purpose r)) :
      Step i f c { c with
        pool := c.pool.acted i (.holding purpose { r with value := v' }) c.pool.state []
        stage := .running v' next }
  /-- The use sees what it has waited for. -/
  | looks {c v sees next} (hstage : c.stage = .running v (.look sees next))
      (hsees : sees c.pool) :
      Step i f c { c with stage := .running v (next c.pool) }
  /-- The use does something to the pool, through another thread. -/
  | acts {c v does next pool later} (hstage : c.stage = .running v (.act does next))
      (hdoes : does c.pool pool) (hstep : c.pool.Step pool) (hspares : c.pool.Spares i pool)
      (hlater : pool.trace = c.pool.trace ++ later) :
      Step i f c { c with
        pool, stage := .running v (next pool), besides := c.besides ++ later }
  /-- The use returns or breaks down. -/
  | ends {c v result} (hstage : c.stage = .running v (.ends result)) :
      Step i f c { c with stage := .left v result }
  /-- The resource goes back. -/
  | returns {c v result purpose r handedOn state} (hstage : c.stage = .left v result)
      (hi : c.pool.threads[i]? = some (.holding purpose r))
      (hg : c.pool.state.giveBack r = (handedOn, state)) :
      Step i f c { c with
        pool := c.pool.acted i (.afterReturn handedOn) state [.cameBack r]
        deeds := c.deeds ++ [⟨.cameBack r, c.pool.state, state⟩] }
  /-- Somebody is woken for the resource. -/
  | wakesOne {c v result j purpose deadline} (hstage : c.stage = .left v result)
      (hi : c.pool.threads[i]? = some .notifying)
      (hj : c.pool.threads[j]? = some (.waiting .asleep purpose deadline)) :
      Step i f c { c with
        pool := { c.pool with
          threads := (c.pool.threads.set i (.ended .returned)).set j
            (.waiting .notified purpose deadline) } }
  /-- There is nobody to wake. -/
  | wakesNobody {c v result} (hstage : c.stage = .left v result)
      (hi : c.pool.threads[i]? = some .notifying)
      (hn : ∀ t ∈ c.pool.threads, t.waits .asleep = false) :
      Step i f c { c with
        pool := { c.pool with threads := c.pool.threads.set i (.ended .returned) } }
  /-- The resource is closed, as the pool is shut down. -/
  | closes {c v result r} (hstage : c.stage = .left v result)
      (hi : c.pool.threads[i]? = some (.closing r)) :
      Step i f c { c with
        pool := c.pool.close i r [] (.ended .returned)
        deeds := c.deeds ++
          [⟨.closed r (c.pool.factory.close r.value c.pool.works).1, c.pool.state, c.pool.state⟩] }

/-- **Any number of steps.** -/
abbrev Run (i : Nat) (f : V → ScopedUse σ V α) : ScopedCall σ V α → ScopedCall σ V α → Prop :=
  Relation.ReflTransGen (Step i f)

/-- What has become of the worker that runs a call: it returns what the acquisition or the use
has given, or it has broken down.  When the closing breaks down after the use has, the program is
gone, and nothing is returned. -/
def outcome? (i : Nat) (c : ScopedCall σ V α) : Option (Outcome (Except PoolError α)) :=
  match c.stage, c.pool.threads[i]? with
  | .acquiring, some (.ended (.refused e)) => some (.done (.error e))
  | .acquiring, some (.ended (.broken message)) => some (.panicked message)
  | .left _ (.done x), some (.ended .returned) => some (.done (.ok x))
  | .left _ (.panicked message), some (.ended .returned) => some (.panicked message)
  | .left _ (.done _), some (.ended (.broken message)) => some (.panicked message)
  | _, _ => none

/-- What the caller of a call whose thread is `i` gets. -/
def result? (i : Nat) (c : ScopedCall σ V α) : Option (Except PoolError α) :=
  (c.outcome? i).map Pool.ofWorker

end ScopedCall

/-! ### Calls and runs of the pool -/

namespace SharedPool

variable {s s' : SharedPool σ V} {i : Nat}

theorem Step.acted {t t' : PoolThread V} {state : PoolState (Numbered V)}
    {happened : List (Happening V)} (hi : s.threads[i]? = some t)
    (ha : t.Acts s.timeout s.clock s.state t' state happened) :
    Step s (s.acted i t' state happened) := .act hi ha

/-- The way back of a resource is a step of the thread that has held it. -/
theorem Step.returns {purpose : Purpose} {r : Numbered V} {handedOn : Option (Numbered V)}
    {state : PoolState (Numbered V)} (hi : s.threads[i]? = some (.holding purpose r))
    (hg : s.state.giveBack r = (handedOn, state)) :
    Step s (s.acted i (.afterReturn handedOn) state [.cameBack r]) := by
  cases handedOn with
  | none => exact .act hi (.giveBack hg)
  | some q => exact .act hi (.giveBackLate hg)

theorem threads_acted {t t' : PoolThread V} {state : PoolState (Numbered V)}
    {happened : List (Happening V)} (hi : s.threads[i]? = some t) :
    (s.acted i t' state happened).threads[i]? = some t' :=
  List.getElem?_set_self (List.getElem?_eq_some_iff.1 hi).1

/-- A thread that has woken another one has ended. -/
theorem threads_notifyOne {j : Nat} {purpose : Purpose} {deadline : Instant}
    (hi : s.threads[i]? = some .notifying)
    (hj : s.threads[j]? = some (.waiting .asleep purpose deadline)) :
    ((s.threads.set i (.ended .returned)).set j (.waiting .notified purpose deadline))[i]? =
      some (.ended .returned) := by
  have hne : j ≠ i := by
    rintro rfl
    rw [hi] at hj
    cases hj
  rw [List.getElem?_set_ne hne, List.getElem?_set_self (List.getElem?_eq_some_iff.1 hi).1]

/-- A step of the pool counts what it adds to the trace. -/
theorem Step.counted (h : Step s s') {later : List (Happening V)}
    (hlater : s'.trace = s.trace ++ later) :
    s'.state.acquired = s.state.acquired + later.countP Happening.isHandedOut ∧
      s'.state.released = s.state.released + later.countP Happening.isComeback := by
  obtain ⟨j, t, t', state, happened, hj, ha, rfl⟩ | ⟨hstill, later', htrace, hclosing⟩ :=
    h.act_or_still
  · obtain rfl := List.append_cancel_left hlater
    cases ha with
    | wake => exact ⟨rfl, rfl⟩
    | dropWaiting => exact ⟨rfl, rfl⟩
    | dropHolding => exact ⟨rfl, rfl⟩
    | refuse hw hc =>
        obtain ⟨-, rfl⟩ := PoolState.check_eq_closed_iff.1 hc
        exact ⟨rfl, rfl⟩
    | take hw hc =>
        obtain ⟨-, idle, -, rfl⟩ := PoolState.check_eq_acquired_iff.1 hc
        exact ⟨rfl, rfl⟩
    | giveUp hw hc =>
        obtain ⟨-, -, -, rfl⟩ := PoolState.check_eq_exhausted_iff.1 hc
        exact ⟨rfl, rfl⟩
    | sleep hw hc =>
        obtain ⟨-, -, -, rfl⟩ := PoolState.check_eq_wait_iff.1 hc
        exact ⟨rfl, rfl⟩
    | change v => exact ⟨rfl, rfl⟩
    | giveBack hg =>
        obtain ⟨-, rfl⟩ := PoolState.giveBack_eq_none_iff.1 hg
        exact ⟨rfl, rfl⟩
    | giveBackLate hg =>
        obtain ⟨-, -, rfl⟩ := PoolState.giveBack_eq_some_iff.1 hg
        exact ⟨rfl, rfl⟩
    | drain hd =>
        obtain ⟨-, -, -, rfl⟩ := PoolState.drain_eq_some_iff.1 hd
        exact ⟨rfl, rfl⟩
    | drainAgain hd =>
        obtain ⟨-, rfl⟩ := PoolState.drain_eq_none_iff.1 hd
        exact ⟨rfl, rfl⟩
  · obtain rfl := List.append_cancel_left (htrace.symm.trans hlater)
    have hnone (p : Happening V → Bool) (hclosed : ∀ r x, p (.closed r x) = false)
        (hletGo : ∀ rs, p (.letGo rs) = false) : later'.countP p = 0 := by
      refine List.countP_eq_zero.2 fun e he => Bool.not_eq_true _ ▸ ?_
      rcases hclosing e he with ⟨r, rfl⟩ | ⟨rs, rfl⟩
      · exact hclosed ..
      · exact hletGo rs
    rw [hstill.state, hnone _ (fun _ _ => rfl) fun _ => rfl,
      hnone _ (fun _ _ => rfl) fun _ => rfl]
    exact ⟨rfl, rfl⟩

/-- A closing leaves the state of the pool, and adds itself to the trace. -/
theorem close_spec (hi : i < s.threads.length) (r : Numbered V) (left : List (Numbered V))
    (next : PoolThread V) :
    (s.close i r left next).state = s.state ∧
      (∃ more, (s.close i r left next).trace =
        s.trace ++ .closed r (s.factory.close r.value s.works).1 :: more) ∧
      ((∃ message, (s.factory.close r.value s.works).1 = .panicked message ∧
          (s.close i r left next).threads[i]? = some (.ended (.broken message))) ∨
        (∀ message, (s.factory.close r.value s.works).1 ≠ .panicked message) ∧
          (s.close i r left next).threads[i]? = some next) := by
  unfold close
  split
  · next message works hr =>
    refine ⟨rfl, ⟨[.letGo left], by rw [hr]⟩, .inl ⟨message, by rw [hr], ?_⟩⟩
    exact List.getElem?_set_self hi
  · next result works hne hr =>
    refine ⟨rfl, ⟨[], by rw [hr]⟩, .inr ⟨?_, List.getElem?_set_self hi⟩⟩
    intro message hm
    exact hne message (by rw [← hm, hr])

end SharedPool

namespace ScopedCall

variable {i : Nat} {f : V → ScopedUse σ V α} {c c' : ScopedCall σ V α}

/-- A step of a call is a step of its pool, or leaves the pool as it is. -/
theorem Step.pool_step (h : Step i f c c') : c'.pool = c.pool ∨ c.pool.Step c'.pool := by
  cases h with
  | others hstep => exact .inr hstep
  | acquires hstage hi ha => exact .inr (.acted hi ha)
  | enters => exact .inl rfl
  | changes hstage hi => exact .inr (.acted hi (.change _))
  | looks => exact .inl rfl
  | acts hstage hdoes hstep => exact .inr hstep
  | ends => exact .inl rfl
  | returns hstage hi hg => exact .inr (.returns hi hg)
  | wakesOne hstage hi hj => exact .inr (.notifyOne hi hj)
  | wakesNobody hstage hi hn => exact .inr (.notifyNobody hi hn)
  | closes hstage hi => exact .inr (.close hi)

/-- A run of a call is a run of its pool. -/
theorem Run.pool_run (h : Run i f c c') : SharedPool.Run c.pool c'.pool := by
  induction h with
  | refl => exact .refl
  | tail _ hstep ih =>
      rcases hstep.pool_step with hsame | hstep
      · rwa [hsame]
      · exact ih.tail hstep

/-! ### The records agree with the pool -/

/-- What has happened since the pool was `s₀`, to the call and besides, is in the trace and has
been counted. -/
structure Recorded (s₀ s : SharedPool σ V) (own besides : List (Happening V)) : Prop where
  mem_trace : ∀ e ∈ own, e ∈ s.trace
  acquired : s.state.acquired = s₀.state.acquired +
    (own.countP Happening.isHandedOut + besides.countP Happening.isHandedOut)
  released : s.state.released = s₀.state.released +
    (own.countP Happening.isComeback + besides.countP Happening.isComeback)

section

variable {s₀ s s' : SharedPool σ V} {own besides later : List (Happening V)}

/-- A step of the pool adds to the one record or to the other. -/
theorem Recorded.step (h : Recorded s₀ s own besides) (hstep : s.Step s')
    (hlater : s'.trace = s.trace ++ later) {own' besides' : List (Happening V)}
    (hown : own' ⊆ own ++ later) (hall : (own' ++ besides').Perm (own ++ besides ++ later)) :
    Recorded s₀ s' own' besides' := by
  obtain ⟨hacquired, hreleased⟩ := hstep.counted hlater
  refine ⟨?_, ?_, ?_⟩
  · intro e he
    rw [hlater]
    rcases List.mem_append.1 (hown he) with hold | hnew
    · exact List.mem_append_left _ (h.mem_trace e hold)
    · exact List.mem_append_right _ hnew
  · have hcount := hall.countP_eq Happening.isHandedOut
    have hbefore := h.acquired
    simp only [List.countP_append] at hcount
    omega
  · have hcount := hall.countP_eq Happening.isComeback
    have hbefore := h.released
    simp only [List.countP_append] at hcount
    omega

theorem Recorded.step_besides (h : Recorded s₀ s own besides) (hstep : s.Step s')
    (hlater : s'.trace = s.trace ++ later) : Recorded s₀ s' own (besides ++ later) :=
  h.step hstep hlater (List.subset_append_left ..) (by rw [List.append_assoc])

theorem Recorded.step_own (h : Recorded s₀ s own besides) (hstep : s.Step s')
    (hlater : s'.trace = s.trace ++ later) : Recorded s₀ s' (own ++ later) besides := by
  refine h.step hstep hlater (List.Subset.refl _) ?_
  rw [List.append_assoc, List.append_assoc]
  exact List.perm_append_comm.append_left own

/-- Nothing that is counted happens when a resource is closed. -/
theorem Recorded.step_close (h : Recorded s₀ s own besides) {j : Nat} (hj : j < s.threads.length)
    (r : Numbered V) (left : List (Numbered V)) (next : PoolThread V) :
    Recorded s₀ (s.close j r left next)
      (own ++ [.closed r (s.factory.close r.value s.works).1]) besides := by
  obtain ⟨hstate, ⟨more, htrace⟩, -⟩ := SharedPool.close_spec hj r left next
  refine ⟨?_, ?_, ?_⟩
  · intro e he
    rw [htrace]
    rcases List.mem_append.1 he with hold | hnew
    · exact List.mem_append_left _ (h.mem_trace e hold)
    · obtain rfl := List.mem_singleton.1 hnew
      exact List.mem_append_right _ List.mem_cons_self
  · rw [hstate, h.acquired, List.countP_append]
    rfl
  · rw [hstate, h.released, List.countP_append]
    rfl

/-- The records of a call. -/
def RecordedSince (s₀ : SharedPool σ V) (c : ScopedCall σ V α) : Prop :=
  Recorded s₀ c.pool (c.deeds.map Deed.happening) c.besides

theorem recordedSince_start (s₀ : SharedPool σ V) :
    RecordedSince s₀ (start s₀ : ScopedCall σ V α) :=
  ⟨List.forall_mem_nil _, rfl, rfl⟩

theorem RecordedSince.step (hc : RecordedSince s₀ c) (h : Step i f c c') :
    RecordedSince s₀ c' := by
  cases h with
  | others hstep hspares hlater => exact Recorded.step_besides hc hstep hlater
  | acquires hstage hi ha =>
      have hown := Recorded.step_own hc (.acted hi ha) rfl
      simpa only [RecordedSince, List.map_append, List.map_map, Function.comp_def,
        List.map_id'] using hown
  | enters => exact hc
  | @changes purpose r v v' next hstage hi =>
      have hown := Recorded.step_own hc (.acted hi (.change v')) rfl
      rwa [List.append_nil] at hown
  | looks => exact hc
  | acts hstage hdoes hstep hspares hlater => exact Recorded.step_besides hc hstep hlater
  | ends => exact hc
  | returns hstage hi hg =>
      have hown := Recorded.step_own hc (.returns hi hg) rfl
      simpa only [RecordedSince, List.map_append, List.map_cons, List.map_nil] using hown
  | wakesOne => exact ⟨hc.mem_trace, hc.acquired, hc.released⟩
  | wakesNobody => exact ⟨hc.mem_trace, hc.acquired, hc.released⟩
  | @closes v result r hstage hi =>
      have hown := Recorded.step_close hc (List.getElem?_eq_some_iff.1 hi).1 r [] (.ended .returned)
      simpa only [RecordedSince, List.map_append, List.map_cons, List.map_nil] using hown

theorem RecordedSince.run (hc : RecordedSince s₀ c) (h : Run i f c c') : RecordedSince s₀ c' := by
  induction h with
  | refl => exact hc
  | tail _ hstep ih => exact ih.step hstep

end

end ScopedCall

namespace ScopedCall

/-! ### How a call stands -/

/-- The way of the resource `q` from the end of its use on: what the thread has done to the pool,
and what it is about to do. -/
inductive Returning (q : Numbered V) : List (Deed V) → PoolThread V → Prop
  /-- It is about to go back. -/
  | held {purpose} : Returning q [] (.holding purpose q)
  /-- It has become idle, and somebody is to be woken for it. -/
  | idle {d} (hd : d.GivesBack q) : Returning q [d] .notifying
  /-- It has become idle, and all is done. -/
  | back {d} (hd : d.GivesBack q) : Returning q [d] (.ended .returned)
  /-- It came back after shutdown, and is about to be closed. -/
  | late {d} (hd : d.GivesBackLate q) : Returning q [d] (.closing q)
  /-- It has been closed, be it well or not. -/
  | closed {d d' x} (hd : d.GivesBackLate q) (hd' : d'.Closes q x)
      (hx : ∀ message, x ≠ .panicked message) : Returning q [d, d'] (.ended .returned)
  /-- Its closing has broken down. -/
  | broken {d d' message} (hd : d.GivesBackLate q) (hd' : d'.Closes q (.panicked message)) :
      Returning q [d, d'] (.ended (.broken message))

/-- **How a call stands**: how far it has come, on what the use was begun, what its thread has done
to the pool, and what it is about to do. -/
inductive Stands (f : V → ScopedUse σ V α) :
    Stage σ V α → List V → List (Deed V) → PoolThread V → Prop
  /-- It has no answer from the pool. -/
  | asking {wait deadline} : Stands f .acquiring [] [] (.waiting wait .scoped deadline)
  /-- It has been refused. -/
  | refused {d e} (hd : d.Refuses e) : Stands f .acquiring [] [d] (.ended (.refused e))
  /-- It has got a resource. -/
  | handed {d r} (hd : d.Takes r) : Stands f .acquiring [] [d] (.holding .scoped r)
  /-- The use goes on: however it ends, this is how it may end on the resource as it was. -/
  | running {d r v use} (hd : d.Takes r)
      (huse : ∀ result w, use.Ends v result w → (f r.value).Ends r.value result w) :
      Stands f (.running v use) [r.value] [d] (.holding .scoped ⟨r.place, v⟩)
  /-- The use has ended. -/
  | left {d r v result ds t} (hd : d.Takes r) (huse : (f r.value).Ends r.value result v)
      (hds : Returning ⟨r.place, v⟩ ds t) : Stands f (.left v result) [r.value] (d :: ds) t

/-- A notification changes nothing for a call but that it is awake. -/
theorem Stands.notify {f : V → ScopedUse σ V α} {stage : Stage σ V α} {begun : List V}
    {deeds : List (Deed V)} {t : PoolThread V} (h : Stands f stage begun deeds t) :
    Stands f stage begun deeds t.notify := by
  cases h with
  | @asking wait deadline =>
      cases wait with
      | ready => exact .asking
      | asleep => exact .asking
      | notified => exact .asking
  | refused hd => exact .refused hd
  | handed hd => exact .handed hd
  | running hd huse => exact .running hd huse
  | left hd huse hds =>
      cases hds with
      | held => exact .left hd huse .held
      | idle hd' => exact .left hd huse (.idle hd')
      | back hd' => exact .left hd huse (.back hd')
      | late hd' => exact .left hd huse (.late hd')
      | closed hd' hd'' hx => exact .left hd huse (.closed hd' hd'' hx)
      | broken hd' hd'' => exact .left hd huse (.broken hd' hd'')

/-- What an acquisition does by itself leaves it asking, or is the answer. -/
theorem Stands.acquires {f : V → ScopedUse σ V α} {begun : List V} {deeds : List (Deed V)}
    {timeout : Duration} {now deadline : Instant} {wait : Wait} {purpose : Purpose}
    {s s' : PoolState (Numbered V)} {t : PoolThread V} {happened : List (Happening V)}
    (h : Stands f .acquiring begun deeds (.waiting wait purpose deadline))
    (ha : PoolThread.Acts timeout now s (.waiting wait purpose deadline) t s' happened) :
    Stands f .acquiring begun (deeds ++ happened.map fun e => ⟨e, s, s'⟩) t := by
  cases h with
  | asking =>
      cases ha with
      | wake => exact .asking
      | refuse hw hc =>
          obtain ⟨hclosed, rfl⟩ := PoolState.check_eq_closed_iff.1 hc
          exact .refused (.closed hclosed)
      | take hw hc =>
          obtain ⟨hopen, idle, hidle, rfl⟩ := PoolState.check_eq_acquired_iff.1 hc
          exact .handed (.intro hopen hidle)
      | giveUp hw hc =>
          obtain ⟨hopen, hidle, -, rfl⟩ := PoolState.check_eq_exhausted_iff.1 hc
          exact .refused (.exhausted hopen hidle)
      | sleep hw hc => exact .asking

section

variable {f : V → ScopedUse σ V α} {begun : List V} {deeds more : List (Deed V)}
  {t t' : PoolThread V} {purpose : Purpose} {r : Numbered V} {v v' : V} {result : Outcome α}

/-- The use begins on the resource that was handed out, and has not begun before. -/
theorem Stands.enters (h : Stands f .acquiring begun deeds (.holding purpose r)) :
    Stands f (.running r.value (f r.value)) (begun ++ [r.value]) deeds (.holding purpose r) := by
  cases h with
  | handed hd => exact .running hd fun _ _ h => h

theorem Stands.holding {use : ScopedUse σ V α} (h : Stands f (.running v use) begun deeds t) :
    ∃ r, t = .holding .scoped r := by
  cases h with
  | running hd huse => exact ⟨_, rfl⟩

theorem Stands.changes {next : ScopedUse σ V α}
    (h : Stands f (.running v (.change v' next)) begun deeds (.holding purpose r)) :
    Stands f (.running v' next) begun deeds (.holding purpose { r with value := v' }) := by
  cases h with
  | running hd huse => exact .running hd fun result w h => huse result w (.change h)

/-- A use that goes on may end only as it might before. -/
theorem Stands.goesOn {use use' : ScopedUse σ V α} (h : Stands f (.running v use) begun deeds t)
    (hnext : ∀ result w, use'.Ends v result w → use.Ends v result w) :
    Stands f (.running v use') begun deeds t := by
  cases h with
  | running hd huse => exact .running hd fun result w h => huse result w (hnext result w h)

theorem Stands.ends (h : Stands f (.running v (.ends result)) begun deeds t) :
    Stands f (.left v result) begun deeds t := by
  cases h with
  | running hd huse => exact .left hd (huse result v .ends) .held

/-- The way back goes on. -/
theorem Stands.returning (h : Stands f (.left v result) begun deeds t)
    (hgoes : ∀ q ds, Returning q ds t → Returning q (ds ++ more) t') :
    Stands f (.left v result) begun (deeds ++ more) t' := by
  cases h with
  | left hd huse hds => exact .left hd huse (hgoes _ _ hds)

/-- Waking somebody ends the way back. -/
theorem Stands.wakes (h : Stands f (.left v result) begun deeds .notifying) :
    Stands f (.left v result) begun deeds (.ended .returned) := by
  cases h with
  | left hd huse hds =>
      cases hds with
      | idle hd' => exact .left hd huse (.back hd')

/-- The way back begins with the return; where it leads depends on whether the pool is open. -/
theorem Returning.returns {s s' : PoolState (Numbered V)} {q : Numbered V} {ds : List (Deed V)}
    {handedOn : Option (Numbered V)} (h : Returning q ds (.holding purpose r))
    (hg : s.giveBack r = (handedOn, s')) :
    Returning q (ds ++ [⟨.cameBack r, s, s'⟩]) (.afterReturn handedOn) := by
  cases h with
  | held =>
      cases handedOn with
      | none =>
          obtain ⟨hopen, rfl⟩ := PoolState.giveBack_eq_none_iff.1 hg
          exact .idle (.intro hopen)
      | some q' =>
          obtain ⟨hclosed, rfl, rfl⟩ := PoolState.giveBack_eq_some_iff.1 hg
          exact .late (.intro hclosed)

/-- The way back ends with the closing, whatever comes of it. -/
theorem Returning.closes {q : Numbered V} {ds : List (Deed V)} {x : Attempt Unit}
    (a : PoolState (Numbered V)) (h : Returning q ds (.closing r))
    (ht : (∃ message, x = .panicked message ∧ t = .ended (.broken message)) ∨
      (∀ message, x ≠ .panicked message) ∧ t = .ended .returned) :
    Returning q (ds ++ [⟨.closed r x, a, a⟩]) t := by
  cases h with
  | late hd =>
      rcases ht with ⟨message, rfl, rfl⟩ | ⟨hx, rfl⟩
      · exact .broken hd .intro
      · exact .closed hd .intro hx

end

variable {i : Nat} {f : V → ScopedUse σ V α} {c c' : ScopedCall σ V α}

/-- **The invariant**: the thread of the call and its records are as its stage says. -/
def Standing (i : Nat) (f : V → ScopedUse σ V α) (c : ScopedCall σ V α) : Prop :=
  ∃ t, c.pool.threads[i]? = some t ∧ Stands f c.stage c.begun c.deeds t

theorem Standing.stands (hc : Standing i f c) {stage : Stage σ V α} {t : PoolThread V}
    (hstage : c.stage = stage) (hi : c.pool.threads[i]? = some t) :
    Stands f stage c.begun c.deeds t := by
  obtain ⟨t', hi', hstands⟩ := hc
  obtain rfl := Option.some.inj (hi'.symm.trans hi)
  exact hstage ▸ hstands

/-- As long as the use goes on, the thread of the call holds a resource. -/
theorem Standing.holding (hc : Standing i f c) {v : V} {use : ScopedUse σ V α}
    (hstage : c.stage = .running v use) :
    ∃ r, c.pool.threads[i]? = some (.holding .scoped r) := by
  obtain ⟨t, hi, hstands⟩ := hc
  rw [hstage] at hstands
  obtain ⟨r, rfl⟩ := hstands.holding
  exact ⟨r, hi⟩

/-- What spares the thread of a call leaves the call where it stands. -/
theorem Standing.spared (hc : Standing i f c) {pool : SharedPool σ V}
    (hspares : c.pool.Spares i pool) :
    ∃ t, pool.threads[i]? = some t ∧ Stands f c.stage c.begun c.deeds t := by
  obtain ⟨t, hi, hstands⟩ := hc
  rcases hspares with hsame | hnotified
  · exact ⟨t, hsame.trans hi, hstands⟩
  · exact ⟨t.notify, by rw [hnotified, hi]; rfl, hstands.notify⟩

/-- **A step keeps the invariant.** -/
theorem Standing.step (hc : Standing i f c) (h : Step i f c c') : Standing i f c' := by
  cases h with
  | others hstep hspares => exact hc.spared hspares
  | acquires hstage hi ha =>
      refine ⟨_, SharedPool.threads_acted hi, ?_⟩
      rw [hstage]
      exact (hc.stands hstage hi).acquires ha
  | enters hstage hi => exact ⟨_, hi, (hc.stands hstage hi).enters⟩
  | changes hstage hi => exact ⟨_, SharedPool.threads_acted hi, (hc.stands hstage hi).changes⟩
  | looks hstage hsees =>
      obtain ⟨t, hi, hstands⟩ := hc
      rw [hstage] at hstands
      exact ⟨t, hi, hstands.goesOn fun _ _ h => .look hsees h⟩
  | acts hstage hdoes hstep hspares =>
      obtain ⟨t, hi, hstands⟩ := hc.spared hspares
      rw [hstage] at hstands
      exact ⟨t, hi, hstands.goesOn fun _ _ h => .act hdoes h⟩
  | ends hstage =>
      obtain ⟨t, hi, hstands⟩ := hc
      rw [hstage] at hstands
      exact ⟨t, hi, hstands.ends⟩
  | returns hstage hi hg =>
      refine ⟨_, SharedPool.threads_acted hi, ?_⟩
      rw [hstage]
      exact (hc.stands hstage hi).returning fun q ds h => h.returns hg
  | wakesOne hstage hi hj =>
      refine ⟨_, SharedPool.threads_notifyOne hi hj, ?_⟩
      rw [hstage]
      exact (hc.stands hstage hi).wakes
  | wakesNobody hstage hi hn =>
      refine ⟨.ended .returned, List.getElem?_set_self (List.getElem?_eq_some_iff.1 hi).1, ?_⟩
      rw [hstage]
      exact (hc.stands hstage hi).wakes
  | @closes v result r hstage hi =>
      have hstands := hc.stands hstage hi
      obtain ⟨-, -, hend⟩ := SharedPool.close_spec (List.getElem?_eq_some_iff.1 hi).1 r []
        (.ended .returned)
      rcases hend with ⟨message, hx, hthread⟩ | ⟨hx, hthread⟩
      · refine ⟨_, hthread, ?_⟩
        rw [hstage]
        exact hstands.returning fun q ds h => h.closes _ (.inl ⟨message, hx, rfl⟩)
      · refine ⟨_, hthread, ?_⟩
        rw [hstage]
        exact hstands.returning fun q ds h => h.closes _ (.inr ⟨hx, rfl⟩)

theorem Standing.run (hc : Standing i f c) (h : Run i f c c') : Standing i f c' := by
  induction h with
  | refl => exact hc
  | tail _ hstep ih => exact ih.step hstep

/-- A call whose deadline the clock can show begins by asking. -/
theorem standing_start {s₀ : SharedPool σ V} {deadline : Instant}
    (hdeadline : s₀.clock.after? s₀.timeout = some deadline) :
    Standing s₀.threads.length f (start s₀) := by
  refine ⟨.waiting .ready .scoped deadline, ?_, .asking⟩
  rw [start, SharedPool.acquirer, hdeadline]
  exact List.getElem?_concat_length

/-! ### What a call comes to -/

/-- What the caller gets when nothing breaks down but the use. -/
def answer : Outcome α → Except PoolError α
  | .done x => .ok x
  | .panicked _ => .error .workerPanicked

theorem result?_of_refused {e : PoolError} (hstage : c.stage = .acquiring)
    (hi : c.pool.threads[i]? = some (.ended (.refused e))) : c.result? i = some (.error e) := by
  rw [result?, outcome?, hstage, hi]
  rfl

theorem result?_of_returned {v : V} {result : Outcome α} (hstage : c.stage = .left v result)
    (hi : c.pool.threads[i]? = some (.ended .returned)) : c.result? i = some (answer result) := by
  rw [result?, outcome?, hstage, hi]
  cases result <;> rfl

theorem result?_of_broken {v : V} {y : α} {message : String} (hstage : c.stage = .left v (.done y))
    (hi : c.pool.threads[i]? = some (.ended (.broken message))) :
    c.result? i = some (.error .workerPanicked) := by
  rw [result?, outcome?, hstage, hi]
  rfl

/-- The caller gets something only when the thread of the call has ended. -/
theorem exists_ended_of_result? {x : Except PoolError α} (h : c.result? i = some x) :
    ∃ e, c.pool.threads[i]? = some (.ended e) := by
  obtain ⟨result, hresult, -⟩ := Option.map_eq_some_iff.1 h
  unfold outcome? at hresult
  split at hresult
  · next hi => exact ⟨_, hi⟩
  · next hi => exact ⟨_, hi⟩
  · next hi => exact ⟨_, hi⟩
  · next hi => exact ⟨_, hi⟩
  · next hi => exact ⟨_, hi⟩
  · cases hresult

/-- **What a call comes to**, by its records: on what the use was begun, and what the thread has
done to the pool. -/
inductive Went (f : V → ScopedUse σ V α) :
    List V → List (Deed V) → Except PoolError α → Prop
  /-- The pool has refused it, and the use was not begun. -/
  | refused {d e} (hd : d.Refuses e) : Went f [] [d] (.error e)
  /-- The use was begun once, on the first idle resource, and the resource as the use has left it
  has become idle again, behind all others. -/
  | back {d d' r v result} (hd : d.Takes r) (huse : (f r.value).Ends r.value result v)
      (hd' : d'.GivesBack ⟨r.place, v⟩) : Went f [r.value] [d, d'] (answer result)
  /-- The pool has been shut down meanwhile, and the resource as the use has left it has been
  passed to the factory once. -/
  | closed {d d' d'' r v result x} (hd : d.Takes r) (huse : (f r.value).Ends r.value result v)
      (hd' : d'.GivesBackLate ⟨r.place, v⟩) (hd'' : d''.Closes ⟨r.place, v⟩ x)
      (hx : ∀ message, x ≠ .panicked message) : Went f [r.value] [d, d', d''] (answer result)
  /-- The same, but the closing has broken down, and with it the worker. -/
  | broken {d d' d'' r v y message} (hd : d.Takes r)
      (huse : (f r.value).Ends r.value (.done y) v) (hd' : d'.GivesBackLate ⟨r.place, v⟩)
      (hd'' : d''.Closes ⟨r.place, v⟩ (.panicked message)) :
      Went f [r.value] [d, d', d''] (.error .workerPanicked)

/-- What the caller gets is what the records say. -/
theorem Standing.went (hc : Standing i f c) {x : Except PoolError α} (h : c.result? i = some x) :
    Went f c.begun c.deeds x := by
  obtain ⟨e, hi⟩ := exists_ended_of_result? h
  have hstands := hc.stands rfl hi
  obtain ⟨pool, stage, begun, deeds, besides⟩ := c
  simp only at hi hstands ⊢
  cases hstands with
  | refused hd =>
      obtain rfl := Option.some.inj ((result?_of_refused rfl hi).symm.trans h)
      exact .refused hd
  | @left _ _ _ result _ _ hd huse hds =>
      cases hds with
      | back hd' =>
          obtain rfl := Option.some.inj ((result?_of_returned rfl hi).symm.trans h)
          exact .back hd huse hd'
      | closed hd' hd'' hx =>
          obtain rfl := Option.some.inj ((result?_of_returned rfl hi).symm.trans h)
          exact .closed hd huse hd' hd'' hx
      | broken hd' hd'' =>
          cases result with
          | done y =>
              obtain rfl := Option.some.inj ((result?_of_broken rfl hi).symm.trans h)
              exact .broken hd huse hd' hd''
          | panicked message => simp [result?, outcome?, hi] at h

/-- A use that has begun costs one acquisition and one return. -/
theorem Went.counts {begun : List V} {deeds : List (Deed V)} {x : Except PoolError α}
    (h : Went f begun deeds x) :
    (deeds.map Deed.happening).countP Happening.isHandedOut = begun.length ∧
      (deeds.map Deed.happening).countP Happening.isComeback = begun.length := by
  cases h with
  | refused hd => cases hd <;> exact ⟨rfl, rfl⟩
  | back hd huse hd' =>
      cases hd
      cases hd'
      exact ⟨rfl, rfl⟩
  | closed hd huse hd' hd'' =>
      cases hd
      cases hd'
      cases hd''
      exact ⟨rfl, rfl⟩
  | broken hd huse hd' hd'' =>
      cases hd
      cases hd'
      cases hd''
      exact ⟨rfl, rfl⟩

/-! ### Calls come to an end -/

/-- A call is over when it has given its answer, and when the program is gone with it. -/
def Over (i : Nat) (c : ScopedCall σ V α) : Prop :=
  (∃ x, c.result? i = some x) ∨
    ∃ v message message', c.stage = .left v (.panicked message) ∧
      c.pool.threads[i]? = some (.ended (.broken message'))

section

variable {v : V} {result : Outcome α}

theorem over_of_broken {message : String} (hstage : c.stage = .left v result)
    (hi : c.pool.threads[i]? = some (.ended (.broken message))) : c.Over i := by
  cases result with
  | done y => exact .inl ⟨_, result?_of_broken hstage hi⟩
  | panicked message' => exact .inr ⟨v, message', message, hstage, hi⟩

theorem exists_run_of_step {c₁ : ScopedCall σ V α} {P : ScopedCall σ V α → Prop}
    (hstep : Step i f c c₁) (h : ∃ c', Run i f c₁ c' ∧ P c') : ∃ c', Run i f c c' ∧ P c' := by
  obtain ⟨c', hrun, hc'⟩ := h
  exact ⟨c', .head hstep hrun, hc'⟩

theorem exists_over_of_notifying (hstage : c.stage = .left v result)
    (hi : c.pool.threads[i]? = some .notifying) : ∃ c', Run i f c c' ∧ c'.Over i := by
  have hlt := (List.getElem?_eq_some_iff.1 hi).1
  by_cases hn : ∀ t ∈ c.pool.threads, t.waits .asleep = false
  · exact ⟨_, .single (.wakesNobody hstage hi hn),
      .inl ⟨_, result?_of_returned hstage (List.getElem?_set_self hlt)⟩⟩
  · obtain ⟨t, ht, hasleep⟩ : ∃ t ∈ c.pool.threads, t.waits .asleep = true := by simpa using hn
    obtain ⟨j, hj⟩ := List.mem_iff_getElem?.1 ht
    cases t with
    | waiting wait purpose deadline =>
        obtain rfl : wait = .asleep := by simpa [PoolThread.waits] using hasleep
        exact ⟨_, .single (.wakesOne hstage hi hj),
          .inl ⟨_, result?_of_returned hstage (SharedPool.threads_notifyOne hi hj)⟩⟩
    | _ => cases hasleep

theorem exists_over_of_closing {r : Numbered V} (hstage : c.stage = .left v result)
    (hi : c.pool.threads[i]? = some (.closing r)) : ∃ c', Run i f c c' ∧ c'.Over i := by
  obtain ⟨-, -, hend⟩ := SharedPool.close_spec (List.getElem?_eq_some_iff.1 hi).1 r []
    (.ended .returned)
  rcases hend with ⟨message, -, hthread⟩ | ⟨-, hthread⟩
  · exact ⟨_, .single (.closes hstage hi), over_of_broken hstage hthread⟩
  · exact ⟨_, .single (.closes hstage hi), .inl ⟨_, result?_of_returned hstage hthread⟩⟩

theorem exists_over_of_holding {purpose : Purpose} {r : Numbered V}
    (hstage : c.stage = .left v result)
    (hi : c.pool.threads[i]? = some (.holding purpose r)) : ∃ c', Run i f c c' ∧ c'.Over i := by
  rcases hg : c.pool.state.giveBack r with ⟨handedOn, state⟩
  cases handedOn with
  | none =>
      exact exists_run_of_step (.returns hstage hi hg)
        (exists_over_of_notifying hstage (SharedPool.threads_acted hi))
  | some q =>
      exact exists_run_of_step (.returns hstage hi hg)
        (exists_over_of_closing hstage (SharedPool.threads_acted hi))

end

/-- A call whose use has ended comes to an end. -/
theorem Standing.exists_over (hc : Standing i f c) {v : V} {result : Outcome α}
    (hstage : c.stage = .left v result) : ∃ c', Run i f c c' ∧ c'.Over i := by
  obtain ⟨t, hi, hstands⟩ := hc
  rw [hstage] at hstands
  generalize c.begun = begun at hstands
  generalize c.deeds = deeds at hstands
  cases hstands with
  | left hd huse hds =>
      cases hds with
      | held => exact exists_over_of_holding hstage hi
      | idle hd' => exact exists_over_of_notifying hstage hi
      | back hd' => exact ⟨c, .refl, .inl ⟨_, result?_of_returned hstage hi⟩⟩
      | late hd' => exact exists_over_of_closing hstage hi
      | closed hd' hd'' hx => exact ⟨c, .refl, .inl ⟨_, result?_of_returned hstage hi⟩⟩
      | broken hd' hd'' => exact ⟨c, .refl, over_of_broken hstage hi⟩

/-- A use that leaves the pool alone is not held up by anybody, and neither is its call. -/
theorem Standing.exists_over_of_alone (hc : Standing i f c) {v : V} {use : ScopedUse σ V α}
    (hstage : c.stage = .running v use) (halone : use.Alone) :
    ∃ c', Run i f c c' ∧ c'.Over i := by
  induction halone generalizing c v with
  | ends =>
      have hstep : Step i f c _ := .ends hstage
      exact exists_run_of_step hstep ((hc.step hstep).exists_over rfl)
  | change h ih =>
      obtain ⟨r, hi⟩ := hc.holding hstage
      have hstep : Step i f c _ := .changes hstage hi
      exact exists_run_of_step hstep (ih (hc.step hstep) rfl)

/-- At its deadline an acquisition that is awake is answered. -/
theorem exists_answered_of_awake {wait : Wait} {purpose : Purpose} {deadline : Instant}
    (hstage : c.stage = .acquiring)
    (hi : c.pool.threads[i]? = some (.waiting wait purpose deadline)) (hawake : wait ≠ .asleep)
    (hlate : deadline ≤ c.pool.clock) :
    ∃ c', Run i f c c' ∧ (c'.Over i ∨ c'.begun ≠ []) := by
  rcases hc : c.pool.state.check c.pool.clock deadline with ⟨found, state⟩
  cases found with
  | closed =>
      exact ⟨_, .single (.acquires hstage hi (.refuse hawake hc)),
        .inl (.inl ⟨_, result?_of_refused hstage (SharedPool.threads_acted hi)⟩)⟩
  | acquired r =>
      refine ⟨_, .tail (.single (.acquires hstage hi (.take hawake hc)))
        (.enters hstage (SharedPool.threads_acted hi)), .inr ?_⟩
      exact List.append_ne_nil_of_right_ne_nil _ nofun
  | exhausted =>
      exact ⟨_, .single (.acquires hstage hi (.giveUp hawake hc)),
        .inl (.inl ⟨_, result?_of_refused hstage (SharedPool.threads_acted hi)⟩)⟩
  | wait =>
      obtain ⟨-, -, hearly, -⟩ := PoolState.check_eq_wait_iff.1 hc
      exact absurd hlate (Nat.not_le.2 hearly)

theorem exists_answered_of_late {wait : Wait} {purpose : Purpose} {deadline : Instant}
    (hstage : c.stage = .acquiring)
    (hi : c.pool.threads[i]? = some (.waiting wait purpose deadline))
    (hlate : deadline ≤ c.pool.clock) :
    ∃ c', Run i f c c' ∧ (c'.Over i ∨ c'.begun ≠ []) := by
  cases wait with
  | ready => exact exists_answered_of_awake hstage hi (by decide) hlate
  | notified => exact exists_answered_of_awake hstage hi (by decide) hlate
  | asleep =>
      exact exists_run_of_step (.acquires hstage hi .wake)
        (exists_answered_of_awake hstage (SharedPool.threads_acted hi) (by decide) hlate)

/-- An acquisition is answered, at its deadline if not before. -/
theorem Standing.exists_answered (hc : Standing i f c) (hstage : c.stage = .acquiring) :
    ∃ c', Run i f c c' ∧ (c'.Over i ∨ c'.begun ≠ []) := by
  obtain ⟨t, hi, hstands⟩ := hc
  rw [hstage] at hstands
  generalize c.begun = begun at hstands
  generalize c.deeds = deeds at hstands
  cases hstands with
  | @asking wait deadline =>
      have htick : Step i f c _ :=
        .others (.tick deadline) (.inl rfl) (List.append_nil c.pool.trace).symm
      exact exists_run_of_step htick
        (exists_answered_of_late hstage hi (Nat.le_add_left deadline c.pool.clock))
  | refused hd => exact ⟨c, .refl, .inl (.inl ⟨_, result?_of_refused hstage hi⟩)⟩
  | handed hd =>
      refine ⟨_, .single (.enters hstage hi), .inr ?_⟩
      exact List.append_ne_nil_of_right_ne_nil _ nofun

end ScopedCall

/-! ### A call that nobody interferes with -/

/-- The state of a pool without the places of its resources. -/
def PoolState.values (s : PoolState (Numbered V)) : PoolState V where
  idle := s.idle.map Numbered.value
  inUse := s.inUse
  closed := s.closed
  acquired := s.acquired
  released := s.released
  exhausted := s.exhausted

theorem values_ofPool (p : Pool σ V) (clock : Instant) :
    (SharedPool.ofPool p clock).state.values = p.state := by
  simp only [SharedPool.ofPool, PoolState.values, map_value_number]

namespace ScopedCall

variable {p : Pool σ V} {now deadline : Instant} {use : V → Outcome α × V}

/-- The call has the answer of `Pool.withResource`, and leaves the pool as it does. -/
def Agrees (p : Pool σ V) (now : Instant) (use : V → Outcome α × V) (c : ScopedCall σ V α) :
    Prop :=
  Run 0 (ScopedUse.ofFun use) (start (SharedPool.ofPool p now)) c ∧
    c.result? 0 = some (p.withResource now use).1 ∧
    c.pool.state.values = (p.withResource now use).2.state

theorem exists_agrees_of_overflow (hdeadline : now.after? p.timeout = none) :
    ∃ c, Agrees p now use c := by
  have hwith : p.withResource now use = (.error .workerPanicked, p) := by
    simp only [Pool.withResource, Pool.acquire_of_overflow hdeadline]
  refine ⟨_, .refl, ?_, ?_⟩
  · rw [hwith, result?, outcome?, start, SharedPool.acquirer]
    simp [SharedPool.ofPool, SharedPool.spawn, hdeadline, Pool.ofWorker]
  · rw [hwith]
    exact values_ofPool p now

/-- The thread of a call that begins alone. -/
theorem thread_start (hdeadline : now.after? p.timeout = some deadline) :
    (start (SharedPool.ofPool p now) : ScopedCall σ V α).pool.threads[0]? =
      some (.waiting .ready .scoped deadline) := by
  simp [start, SharedPool.acquirer, SharedPool.ofPool, SharedPool.spawn, hdeadline]

theorem exists_agrees_of_closed (hdeadline : now.after? p.timeout = some deadline)
    (hclosed : p.state.closed = true) : ∃ c, Agrees p now use c := by
  have hwith : p.withResource now use = (.error .closed, p) := by
    simp only [Pool.withResource, Pool.acquire_of_closed hdeadline hclosed]
  have hi := thread_start (α := α) hdeadline
  refine ⟨_, .single (.acquires rfl hi
    (.refuse (by decide) (PoolState.check_eq_closed_iff.2 ⟨hclosed, rfl⟩))), ?_, ?_⟩
  · rw [hwith]
    exact result?_of_refused rfl (SharedPool.threads_acted hi)
  · rw [hwith]
    exact values_ofPool p now

/-- An open pool without an idle resource refuses when the deadline has come. -/
theorem exists_agrees_of_empty (hdeadline : now.after? p.timeout = some deadline)
    (hopen : p.state.closed = false) (hidle : p.state.idle = []) : ∃ c, Agrees p now use c := by
  have hwith : (p.withResource now use).1 = .error (.exhausted p.timeout) ∧
      (p.withResource now use).2.state =
        { p.state with exhausted := p.state.exhausted + 1 } := by
    simp only [Pool.withResource, Pool.acquire_of_empty hdeadline hopen hidle, and_self]
  have hi := thread_start (α := α) hdeadline
  have htick : Step 0 (ScopedUse.ofFun use) (start (SharedPool.ofPool p now)) _ :=
    .others (.tick deadline) (.inl rfl) (List.append_nil _).symm
  refine ⟨_, .head htick (.single (.acquires rfl hi (.giveUp (by decide)
    (PoolState.check_eq_exhausted_iff.2 ⟨hopen, ?_, Nat.le_add_left .., rfl⟩)))), ?_, ?_⟩
  · simp [start, SharedPool.ofPool, SharedPool.spawn, number, hidle]
  · rw [hwith.1]
    exact result?_of_refused rfl (SharedPool.threads_acted hi)
  · rw [hwith.2]
    exact congrArg (fun s : PoolState V => { s with exhausted := s.exhausted + 1 })
      (values_ofPool p now)

/-- An open pool with an idle resource has the use run on it, and has it back at the end. -/
theorem exists_agrees_of_idle (hdeadline : now.after? p.timeout = some deadline)
    (hopen : p.state.closed = false) {v : V} {vs : List V} (hidle : p.state.idle = v :: vs) :
    ∃ c, Agrees p now use c := by
  have hwith : (p.withResource now use).1 = answer (use v).1 ∧
      (p.withResource now use).2.state = { p.state with
        idle := vs ++ [(use v).2], acquired := p.state.acquired + 1
        released := p.state.released + 1 } := by
    cases hresult : (use v).1 <;>
      simp [Pool.withResource, Pool.acquire_of_idle hdeadline hopen hidle, Pool.report,
        Pool.giveBack, PoolState.giveBack, hopen, hresult, answer]
  obtain ⟨q, idle, hnumber, rfl, rfl⟩ := List.map_eq_cons_iff.1
    ((map_value_number p.state.idle).trans hidle)
  have hi := thread_start (α := α) hdeadline
  refine ⟨_, Relation.ReflTransGen.refl
    |>.tail (.acquires rfl hi (.take (by decide)
      (PoolState.check_eq_acquired_iff.2 ⟨hopen, idle, hnumber, rfl⟩)))
    |>.tail (.enters rfl (SharedPool.threads_acted hi))
    |>.tail (.changes rfl (SharedPool.threads_acted hi))
    |>.tail (.ends rfl)
    |>.tail (.returns rfl (SharedPool.threads_acted (SharedPool.threads_acted hi))
      (PoolState.giveBack_eq_none_iff.2 ⟨hopen, rfl⟩))
    |>.tail (.wakesNobody rfl
      (SharedPool.threads_acted (SharedPool.threads_acted (SharedPool.threads_acted hi))) ?_),
    ?_, ?_⟩
  · simp [start, SharedPool.acted, SharedPool.spawn, SharedPool.ofPool, PoolThread.afterReturn,
      PoolThread.waits]
  · rw [hwith.1]
    exact result?_of_returned rfl (SharedPool.threads_acted
      (SharedPool.threads_acted (SharedPool.threads_acted (SharedPool.threads_acted hi))))
  · rw [hwith.2]
    simp [start, SharedPool.acted, SharedPool.spawn, SharedPool.ofPool, PoolState.values]

/-- **`Pool.withResource` is a call that nobody interferes with.** -/
theorem exists_run_withResource (p : Pool σ V) (now : Instant) (use : V → Outcome α × V) :
    ∃ c : ScopedCall σ V α, Run 0 (ScopedUse.ofFun use) (start (SharedPool.ofPool p now)) c ∧
      c.result? 0 = some (p.withResource now use).1 ∧
      c.pool.state.values = (p.withResource now use).2.state := by
  cases hdeadline : now.after? p.timeout with
  | none => exact exists_agrees_of_overflow hdeadline
  | some deadline =>
      cases hopen : p.state.closed with
      | true => exact exists_agrees_of_closed hdeadline hopen
      | false =>
          cases hidle : p.state.idle with
          | nil => exact exists_agrees_of_empty hdeadline hopen hidle
          | cons v vs => exact exists_agrees_of_idle hdeadline hopen hidle

/-! ### The theorem -/

/-- **A scoped call is balanced on every exit.**  It begins in any state that a pool can come to,
when the clock can show its deadline.  The use may do what it likes, and so may others.  When the
call has given its answer, it has been refused by the pool and the use was not begun; or the use
was begun once, on the first idle resource of the open pool, and the answer is what the use has
given, or that the worker has broken down.  In the second case the pool has counted one acquisition
and one return for the call, besides all others; the resource as the use has left it has gone
behind the idle ones, or, if the pool was shut down by then, has been passed to the factory, once,
and is not idle.  An acquisition is answered; a use that leaves the pool alone is held up by nobody;
and a call whose use has ended comes to an end.  Whenever nobody holds a resource, as many have
been released as acquired, and an open pool is full. -/
theorem balanced_on_every_exit {factory : Factory σ V} {works : σ} {size : Nat}
    {timeout : Duration} {p : Pool σ V}
    (hbuilt : (Pool.build factory works size timeout).result = .done (.ok p)) {clock : Instant}
    {s₀ : SharedPool σ V} (hreach : SharedPool.Run (SharedPool.ofPool p clock) s₀)
    {deadline : Instant} (hdeadline : s₀.clock.after? s₀.timeout = some deadline)
    (f : V → ScopedUse σ V α) {c : ScopedCall σ V α}
    (hrun : Run s₀.threads.length f (start s₀) c) :
    (∀ x, c.result? s₀.threads.length = some x →
      Went f c.begun c.deeds x ∧
        c.pool.state.acquired = s₀.state.acquired + c.begun.length +
          c.besides.countP Happening.isHandedOut ∧
        c.pool.state.released = s₀.state.released + c.begun.length +
          c.besides.countP Happening.isComeback) ∧
    (∀ d ∈ c.deeds, ∀ q x, d.Closes q x →
      (places c.pool.closed).count q.place = 1 ∧ q.place ∉ places c.pool.state.idle) ∧
    (c.stage = .acquiring → ∃ c', Run s₀.threads.length f c c' ∧
      (c'.Over s₀.threads.length ∨ c'.begun ≠ [])) ∧
    (∀ v use, c.stage = .running v use → use.Alone →
      ∃ c', Run s₀.threads.length f c c' ∧ c'.Over s₀.threads.length) ∧
    (∀ v result, c.stage = .left v result →
      ∃ c', Run s₀.threads.length f c c' ∧ c'.Over s₀.threads.length) ∧
    (c.pool.held = [] → c.pool.state.acquired = c.pool.state.released ∧
      (c.pool.state.closed = false → c.pool.state.idle.length = size)) := by
  have hstanding : Standing s₀.threads.length f c := (standing_start hdeadline).run hrun
  have hrecorded : RecordedSince s₀ c := (recordedSince_start s₀).run hrun
  have haccounted : SharedPool.Accounted size c.pool := by
    have hbegin : SharedPool.Run s₀ (start s₀ : ScopedCall σ V α).pool := .single (.begin .scoped)
    exact (SharedPool.accounted_ofPool hbuilt clock).run
      ((hreach.trans hbegin).trans hrun.pool_run)
  refine ⟨?_, ?_, hstanding.exists_answered, fun _ _ => hstanding.exists_over_of_alone,
    fun _ _ => hstanding.exists_over, haccounted.balanced⟩
  · intro x hx
    have hwent := hstanding.went hx
    obtain ⟨hout, hback⟩ := hwent.counts
    refine ⟨hwent, ?_, ?_⟩
    · rw [hrecorded.acquired, hout, Nat.add_assoc]
    · rw [hrecorded.released, hback, Nat.add_assoc]
  · intro d hd q x hcloses
    cases hcloses
    exact haccounted.closed_once (hrecorded.mem_trace _ (List.mem_map_of_mem hd))

/-- A use that takes the other resource too and gives it back, marks its own, shuts the pool down,
and waits until that is done. -/
def useOfTwo (r : Specimen) : ScopedUse Workshop Specimen Nat :=
  .acquire fun j =>
    .look (fun s => ∃ q, s.threads[j]? = some (.holding .caller q)) fun _ =>
      .giveBack j <| .change { r with tag := "used" } <| .shutDown fun k =>
        .look (fun s => ∃ n, s.threads[k]? = some (.ended (.stopped n))) fun _ =>
          .ends (.done r.id)

/-- That use gets its value to the caller.  The call counts once beside the acquisition that the
use has made, and its resource is closed once, with the mark on it. -/
theorem balanced_on_every_exit_of_shutdown_in_use :
    ∃ c : ScopedCall Workshop Specimen Nat,
      (Pool.build Workshop.factory { closings := [.failed "busy"] } 2 (.ofSecs 1)).result =
        .done (.ok SharedPool.twoSpecimens) ∧
      Run 0 useOfTwo (start (SharedPool.ofPool SharedPool.twoSpecimens 0)) c ∧
      c.result? 0 = some (.ok 0) ∧ Went useOfTwo c.begun c.deeds (.ok 0) ∧
      c.pool.state.acquired = 2 ∧ c.pool.state.released = 2 ∧
      (places c.pool.closed).count 0 = 1 := by
  have hbuilt : (Pool.build Workshop.factory { closings := [.failed "busy"] } 2
      (.ofSecs 1)).result = .done (.ok SharedPool.twoSpecimens) := rfl
  have hdeadline : (0 : Instant).after? (.ofSecs 1) = some nanosPerSecond :=
    Instant.after?_eq_some_iff.2 ⟨by decide, rfl⟩
  obtain ⟨c, hrun, hresult, hbegun, hbesides, d, hd, hcloses⟩ :
      ∃ c : ScopedCall Workshop Specimen Nat,
        Run 0 useOfTwo (start (SharedPool.ofPool SharedPool.twoSpecimens 0)) c ∧
        c.result? 0 = some (.ok 0) ∧ c.begun = [⟨0, ""⟩] ∧
        c.besides = [.handedOut ⟨1, ⟨1, ""⟩⟩, .cameBack ⟨1, ⟨1, ""⟩⟩, .drained [⟨1, ⟨1, ""⟩⟩],
          .closed ⟨1, ⟨1, ""⟩⟩ (.failed "busy")] ∧
        ∃ d ∈ c.deeds, d.Closes ⟨0, ⟨0, "used"⟩⟩ (.ok ()) := by
    refine ⟨_, Relation.ReflTransGen.refl
      |>.tail (.acquires rfl rfl (.take (by decide) rfl))
      |>.tail (.enters rfl rfl)
      -- The use acquires the other resource and gives it back.
      |>.tail (.acts rfl rfl (.begin .caller) (.inl rfl) (List.append_nil _).symm)
      |>.tail (.others (.act (i := 1) rfl (.take (by decide) rfl)) (.inl rfl) rfl)
      |>.tail (.looks rfl ⟨_, rfl⟩)
      |>.tail (.acts rfl ⟨_, _, rfl, .inl rfl⟩ (.act (i := 1) rfl (.giveBack rfl)) (.inl rfl) rfl)
      |>.tail (.others (.notifyNobody (i := 1) rfl (by decide)) (.inl rfl) (List.append_nil _).symm)
      |>.tail (.changes rfl rfl)
      -- It shuts the pool down.
      |>.tail (.acts rfl rfl .stop (.inl rfl) (List.append_nil _).symm)
      |>.tail (.others (.act (i := 2) rfl (.drain rfl)) (.inl rfl) rfl)
      |>.tail (.others (.notifyAll (i := 2) rfl) (.inl rfl) (List.append_nil _).symm)
      |>.tail (.others (.closeNext (i := 2) rfl) (.inl rfl) rfl)
      |>.tail (.looks rfl ⟨_, rfl⟩)
      |>.tail (.ends rfl)
      |>.tail (.returns rfl rfl rfl)
      |>.tail (.closes rfl rfl), rfl, rfl, rfl, _, .tail _ (.tail _ (.head _)), .intro⟩
  obtain ⟨hanswered, hclosed, -⟩ := balanced_on_every_exit hbuilt .refl hdeadline useOfTwo hrun
  obtain ⟨hwent, hacquired, hreleased⟩ := hanswered (.ok 0) hresult
  rw [hbegun, hbesides] at hacquired hreleased
  exact ⟨c, hbuilt, hrun, hresult, hwent, hacquired, hreleased, (hclosed d hd _ _ hcloses).1⟩

end ScopedCall

end DataTier
