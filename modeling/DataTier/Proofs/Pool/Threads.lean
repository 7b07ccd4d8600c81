/-
**Threads that share one pool.**

`DataTier/Pool/State.lean` has the three sections that run under the lock of a pool.  Here any
number of threads run them, in any order and with anything in between: a thread acquires for its
caller, for a future or for one use; it gives back what it holds; it shuts the pool down.  Waking
waiters and closing resources are steps of their own, since they happen outside the lock.

The wait of an acquisition is that of a condition variable: finding nothing and falling asleep are
one step, a notification wakes one sleeper if there is any, and a sleeper may also wake by itself,
at its deadline or before it.

A resource keeps the place that it had in the order of creation while its holders change it, so
that it can be followed through a run.

Main definitions:

* `DataTier.Numbered` — a resource with its place;
* `DataTier.PoolThread` — what a thread is about to do;
* `DataTier.PoolThread.Acts` — what a thread does by itself, one section of the lock at most;
* `DataTier.SharedPool`, `SharedPool.Step`, `SharedPool.Run` — a pool with its threads, one step of
  any of them, and any number of steps.

Main results:

* `DataTier.PoolState.check_eq_acquired_iff` and its like — what each section of the lock does;
* `DataTier.Pool.state_of_build` — a pool begins with as many idle resources as were asked for.
-/

import DataTier.Pool.Basic
import Mathlib.Logic.Relation

set_option relaxedAutoImplicit false
set_option autoImplicit false

namespace DataTier

variable {σ V R : Type}

/-! ### The sections of the lock -/

namespace PoolState

theorem check_eq_closed_iff {s s' : PoolState R} {now deadline : Instant} :
    s.check now deadline = (.closed, s') ↔ s.closed = true ∧ s' = s := by
  unfold check
  by_cases h : s.closed = true
  · simp [h, eq_comm]
  · rw [if_neg h]
    cases s.idle with
    | nil => by_cases hd : deadline ≤ now <;> simp [h, hd]
    | cons q idle => simp [h]

theorem check_eq_acquired_iff {s s' : PoolState R} {now deadline : Instant} {r : R} :
    s.check now deadline = (.acquired r, s') ↔
      s.closed = false ∧ ∃ idle, s.idle = r :: idle ∧
        s' = { s with idle, inUse := s.inUse + 1, acquired := s.acquired + 1 } := by
  unfold check
  by_cases h : s.closed = true
  · simp [h]
  · rw [if_neg h]
    cases s.idle with
    | nil => by_cases hd : deadline ≤ now <;> simp [hd]
    | cons q idle => simp [h, and_assoc, eq_comm]

theorem check_eq_exhausted_iff {s s' : PoolState R} {now deadline : Instant} :
    s.check now deadline = (.exhausted, s') ↔
      s.closed = false ∧ s.idle = [] ∧ deadline ≤ now ∧
        s' = { s with exhausted := s.exhausted + 1 } := by
  unfold check
  by_cases h : s.closed = true
  · simp [h]
  · rw [if_neg h]
    cases s.idle with
    | nil => by_cases hd : deadline ≤ now <;> simp [h, hd, eq_comm]
    | cons q idle => simp

theorem check_eq_wait_iff {s s' : PoolState R} {now deadline : Instant} :
    s.check now deadline = (.wait, s') ↔
      s.closed = false ∧ s.idle = [] ∧ now < deadline ∧ s' = s := by
  unfold check
  by_cases h : s.closed = true
  · simp [h]
  · rw [if_neg h]
    cases s.idle with
    | nil =>
        by_cases hd : deadline ≤ now
        · simp [hd, Nat.not_lt.2 hd]
        · simp [h, hd, Nat.lt_of_not_le hd, eq_comm]
    | cons q idle => simp

theorem giveBack_eq_none_iff {s s' : PoolState R} {r : R} :
    s.giveBack r = (none, s') ↔
      s.closed = false ∧
        s' = { s with
          inUse := s.inUse - 1, released := s.released + 1, idle := s.idle ++ [r] } := by
  cases h : s.closed <;> simp [giveBack, h, eq_comm]

theorem giveBack_eq_some_iff {s s' : PoolState R} {r q : R} :
    s.giveBack r = (some q, s') ↔
      s.closed = true ∧ q = r ∧
        s' = { s with inUse := s.inUse - 1, released := s.released + 1 } := by
  cases h : s.closed <;> simp [giveBack, h, eq_comm]

theorem drain_eq_some_iff {s s' : PoolState R} {rs : List R} {n : Nat} :
    s.drain = (some (rs, n), s') ↔
      s.closed = false ∧ rs = s.idle ∧ n = s.inUse ∧
        s' = { s with closed := true, idle := [] } := by
  cases h : s.closed <;> simp [drain, h, eq_comm, and_assoc]

theorem drain_eq_none_iff {s s' : PoolState R} :
    s.drain = (none, s') ↔ s.closed = true ∧ s' = s := by
  cases h : s.closed <;> simp [drain, h, eq_comm]

end PoolState

/-! ### Resources that can be followed -/

/-- A resource, and the place that it had when the resources of its pool were created.  Its holder
may change the resource; its place stays. -/
structure Numbered (V : Type) where
  /-- The place in the order of creation. -/
  place : Nat
  /-- The resource as it is now. -/
  value : V
  deriving DecidableEq

/-- The places of resources. -/
def places (rs : List (Numbered V)) : List Nat := rs.map Numbered.place

@[simp] theorem places_nil : places ([] : List (Numbered V)) = [] := rfl

@[simp] theorem places_cons (r : Numbered V) (rs : List (Numbered V)) :
    places (r :: rs) = r.place :: places rs := rfl

@[simp] theorem places_append (rs qs : List (Numbered V)) :
    places (rs ++ qs) = places rs ++ places qs := List.map_append

@[simp] theorem length_places (rs : List (Numbered V)) : (places rs).length = rs.length :=
  List.length_map _

/-- New resources with their places. -/
def number (vs : List V) : List (Numbered V) := vs.mapIdx Numbered.mk

@[simp] theorem places_number (vs : List V) : places (number vs) = List.range vs.length := by
  refine List.ext_getElem (by simp [number]) ?_
  intro i h₁ h₂
  simp [places, number]

theorem map_value_number (vs : List V) : (number vs).map Numbered.value = vs := by
  refine List.ext_getElem (by simp [number]) ?_
  intro i h₁ h₂
  simp [number]

/-! ### Threads -/

/-- What an acquisition is made for. -/
inductive Purpose where
  /-- For the thread that asks. -/
  | caller
  /-- By a worker, for a future; whether the future has been dropped. -/
  | future (dropped : Bool)
  /-- By a worker, for one use there. -/
  | scoped
  deriving DecidableEq

/-- How an acquisition waits. -/
inductive Wait where
  /-- It is about to check: it is new, or has woken by itself. -/
  | ready
  /-- It sleeps. -/
  | asleep
  /-- It has been notified, and is about to check again. -/
  | notified
  deriving DecidableEq

/-- How the work of a thread ends. -/
inductive Ending where
  /-- There was no resource for it. -/
  | refused (e : PoolError)
  /-- What it held has gone back. -/
  | returned
  /-- The pool is shut down; so many resources were idle. -/
  | stopped (count : Nat)
  /-- It broke down. -/
  | broken (message : String)
  deriving DecidableEq

/-- What a thread is about to do. -/
inductive PoolThread (V : Type) where
  /-- To check whether there is a resource, now or later. -/
  | waiting (wait : Wait) (purpose : Purpose) (deadline : Instant)
  /-- To use a resource, and to give it back. -/
  | holding (purpose : Purpose) (r : Numbered V)
  /-- To wake somebody for the resource that it has given back. -/
  | notifying
  /-- To close the resource that it has given back. -/
  | closing (r : Numbered V)
  /-- To shut the pool down. -/
  | stopping
  /-- To wake everybody, as the pool is shut down, and then to close what was idle. -/
  | announcing (drained : List (Numbered V))
  /-- To close the rest of what was idle. -/
  | closingAll (count : Nat) (left : List (Numbered V))
  /-- Nothing. -/
  | ended (e : Ending)
  deriving DecidableEq

namespace PoolThread

/-- The resource that a thread holds. -/
def held : PoolThread V → List (Numbered V)
  | .holding _ r => [r]
  | _ => []

/-- The resources that a thread is still to close. -/
def toClose : PoolThread V → List (Numbered V)
  | .closing r => [r]
  | .announcing rs => rs
  | .closingAll _ rs => rs
  | _ => []

/-- Whether a thread waits in a given way. -/
def waits (w : Wait) : PoolThread V → Bool
  | .waiting w' _ _ => w' == w
  | _ => false

/-- Whether a thread is to wake somebody. -/
def isNotifying : PoolThread V → Bool
  | .notifying => true
  | _ => false

/-- Whether a thread is to wake everybody. -/
def isAnnouncing : PoolThread V → Bool
  | .announcing _ => true
  | _ => false

/-- A sleeper that is notified; all others are as they were. -/
def notify : PoolThread V → PoolThread V
  | .waiting .asleep purpose deadline => .waiting .notified purpose deadline
  | t => t

/-- A thread that closes what is left, and ends when nothing is. -/
def closingOn (count : Nat) : List (Numbered V) → PoolThread V
  | [] => .ended (.stopped count)
  | left => .closingAll count left

end PoolThread

/-- What happens to resources and to those who ask for them. -/
inductive Happening (V : Type) where
  /-- A resource is handed out. -/
  | handedOut (r : Numbered V)
  /-- An acquisition fails. -/
  | refused (e : PoolError)
  /-- A resource comes back. -/
  | cameBack (r : Numbered V)
  /-- The pool is shut down with these resources idle. -/
  | drained (rs : List (Numbered V))
  /-- A resource is passed to the factory to be closed, and this is what comes of it. -/
  | closed (r : Numbered V) (result : Attempt Unit)
  /-- Resources are let go of, as the closing of another one has broken down. -/
  | letGo (rs : List (Numbered V))
  deriving DecidableEq

/-- The resources that are passed to the factory. -/
def Happening.closings : Happening V → List (Numbered V)
  | .closed r _ => [r]
  | _ => []

/-- The resources that are let go of. -/
def Happening.losses : Happening V → List (Numbered V)
  | .letGo rs => rs
  | _ => []

/-- **What a thread does by itself**, when the clock shows `now`: it becomes another thread, leaves
the state of the pool as it is or runs one section of the lock, and something may happen. -/
inductive PoolThread.Acts (timeout : Duration) (now : Instant) (s : PoolState (Numbered V)) :
    PoolThread V → PoolThread V → PoolState (Numbered V) → List (Happening V) → Prop
  /-- A sleeper wakes by itself, at its deadline or before. -/
  | wake {purpose deadline} :
      Acts timeout now s (.waiting .asleep purpose deadline) (.waiting .ready purpose deadline) s []
  /-- A future is dropped while its worker waits.  The worker goes on. -/
  | dropWaiting {wait deadline} :
      Acts timeout now s (.waiting wait (.future false) deadline)
        (.waiting wait (.future true) deadline) s []
  /-- A future is dropped when its worker has got a resource. -/
  | dropHolding {r} :
      Acts timeout now s (.holding (.future false) r) (.holding (.future true) r) s []
  /-- The check of an acquisition finds the pool shut down. -/
  | refuse {wait purpose deadline s'} (hw : wait ≠ .asleep)
      (hc : s.check now deadline = (.closed, s')) :
      Acts timeout now s (.waiting wait purpose deadline) (.ended (.refused .closed)) s'
        [.refused .closed]
  /-- It finds a resource. -/
  | take {wait purpose deadline r s'} (hw : wait ≠ .asleep)
      (hc : s.check now deadline = (.acquired r, s')) :
      Acts timeout now s (.waiting wait purpose deadline) (.holding purpose r) s' [.handedOut r]
  /-- It finds nothing at its deadline. -/
  | giveUp {wait purpose deadline s'} (hw : wait ≠ .asleep)
      (hc : s.check now deadline = (.exhausted, s')) :
      Acts timeout now s (.waiting wait purpose deadline)
        (.ended (.refused (.exhausted timeout))) s' [.refused (.exhausted timeout)]
  /-- It finds nothing before its deadline, and falls asleep. -/
  | sleep {wait purpose deadline s'} (hw : wait ≠ .asleep)
      (hc : s.check now deadline = (.wait, s')) :
      Acts timeout now s (.waiting wait purpose deadline) (.waiting .asleep purpose deadline) s' []
  /-- A holder changes its resource. -/
  | change {purpose r} (v : V) :
      Acts timeout now s (.holding purpose r) (.holding purpose { r with value := v }) s []
  /-- A resource is given back to an open pool. -/
  | giveBack {purpose r s'} (hg : s.giveBack r = (none, s')) :
      Acts timeout now s (.holding purpose r) .notifying s' [.cameBack r]
  /-- A resource is given back after shutdown. -/
  | giveBackLate {purpose r q s'} (hg : s.giveBack r = (some q, s')) :
      Acts timeout now s (.holding purpose r) (.closing q) s' [.cameBack r]
  /-- The pool is shut down. -/
  | drain {rs inUse s'} (hd : s.drain = (some (rs, inUse), s')) :
      Acts timeout now s .stopping (.announcing rs) s' [.drained rs]
  /-- The pool has been shut down before. -/
  | drainAgain {s'} (hd : s.drain = (none, s')) :
      Acts timeout now s .stopping (.ended (.stopped 0)) s' []

/-! ### A pool with its threads -/

/-- A pool that threads share. -/
structure SharedPool (σ V : Type) where
  /-- Closes the resources. -/
  factory : Factory σ V
  /-- The state of the factory. -/
  works : σ
  /-- How long an acquisition waits. -/
  timeout : Duration
  /-- What the lock guards. -/
  state : PoolState (Numbered V)
  /-- The time. -/
  clock : Instant
  /-- The threads, the oldest first.  A thread keeps its position when it has ended. -/
  threads : List (PoolThread V) := []
  /-- What has happened, the newest last. -/
  trace : List (Happening V) := []

namespace SharedPool

/-- A pool that is just built, before any thread uses it. -/
def ofPool (p : Pool σ V) (clock : Instant) : SharedPool σ V where
  factory := p.factory
  works := p.works
  timeout := p.timeout
  state := { p.state with idle := number p.state.idle }
  clock := clock

/-- The resources that are held. -/
def held (s : SharedPool σ V) : List (Numbered V) := s.threads.flatMap PoolThread.held

/-- The resources that have been taken out and are still to be closed. -/
def toClose (s : SharedPool σ V) : List (Numbered V) := s.threads.flatMap PoolThread.toClose

/-- The resources that have been passed to the factory. -/
def closed (s : SharedPool σ V) : List (Numbered V) := s.trace.flatMap Happening.closings

/-- The resources that have been let go of. -/
def letGo (s : SharedPool σ V) : List (Numbered V) := s.trace.flatMap Happening.losses

/-- One more thread. -/
def spawn (s : SharedPool σ V) (t : PoolThread V) : SharedPool σ V :=
  { s with threads := s.threads ++ [t] }

/-- A thread that acquires.  It breaks down when the clock cannot show its deadline. -/
def acquirer (s : SharedPool σ V) (purpose : Purpose) : PoolThread V :=
  match s.clock.after? s.timeout with
  | some deadline => .waiting .ready purpose deadline
  | none => .ended (.broken Instant.overflowMessage)

/-- Thread `i` passes a resource to the factory and goes on as `next`, whether that succeeds or
fails.  If it breaks down, so does the thread, and `left` is let go of. -/
def close (s : SharedPool σ V) (i : Nat) (r : Numbered V) (left : List (Numbered V))
    (next : PoolThread V) : SharedPool σ V :=
  match s.factory.close r.value s.works with
  | (.panicked message, works) =>
    { s with
      works := s.factory.discardAll (left.map Numbered.value) works
      threads := s.threads.set i (.ended (.broken message))
      trace := s.trace ++ [.closed r (.panicked message), .letGo left] }
  | (result, works) =>
    { s with works, threads := s.threads.set i next, trace := s.trace ++ [.closed r result] }

/-- **One step** of a pool with its threads. -/
inductive Step : SharedPool σ V → SharedPool σ V → Prop
  /-- Time passes. -/
  | tick {s} (d : Nat) : Step s { s with clock := s.clock + d }
  /-- An acquisition begins. -/
  | begin {s} (purpose : Purpose) : Step s (s.spawn (s.acquirer purpose))
  /-- Somebody is about to shut the pool down. -/
  | stop {s} : Step s (s.spawn .stopping)
  /-- A thread does something by itself. -/
  | act {s i t t' state happened} (hi : s.threads[i]? = some t)
      (ha : t.Acts s.timeout s.clock s.state t' state happened) :
      Step s { s with
        state, threads := s.threads.set i t', trace := s.trace ++ happened }
  /-- One sleeper is notified of a resource that has come back. -/
  | notifyOne {s i j purpose deadline} (hi : s.threads[i]? = some .notifying)
      (hj : s.threads[j]? = some (.waiting .asleep purpose deadline)) :
      Step s { s with
        threads := (s.threads.set i (.ended .returned)).set j
          (.waiting .notified purpose deadline) }
  /-- Nobody sleeps when a resource has come back. -/
  | notifyNobody {s i} (hi : s.threads[i]? = some .notifying)
      (hn : ∀ t ∈ s.threads, t.waits .asleep = false) :
      Step s { s with threads := s.threads.set i (.ended .returned) }
  /-- All sleepers are notified of a shutdown. -/
  | notifyAll {s i drained} (hi : s.threads[i]? = some (.announcing drained)) :
      Step s { s with
        threads := (s.threads.set i (.closingOn drained.length drained)).map PoolThread.notify }
  /-- A resource that came back after shutdown is closed. -/
  | close {s i r} (hi : s.threads[i]? = some (.closing r)) :
      Step s (s.close i r [] (.ended .returned))
  /-- The next one of the resources that were idle at shutdown is closed. -/
  | closeNext {s i count r left} (hi : s.threads[i]? = some (.closingAll count (r :: left))) :
      Step s (s.close i r left (.closingOn count left))

/-- **Any number of steps.** -/
abbrev Run : SharedPool σ V → SharedPool σ V → Prop := Relation.ReflTransGen Step

end SharedPool

/-! ### One thread among others -/

/-- A position splits a list into what is before it and what is after it. -/
theorem exists_split_of_getElem? {α : Type} {l : List α} {i : Nat} {x : α} (h : l[i]? = some x) :
    ∃ before after, l = before ++ x :: after ∧ ∀ y, l.set i y = before ++ y :: after := by
  obtain ⟨hi, rfl⟩ := List.getElem?_eq_some_iff.1 h
  refine ⟨l.take i, l.drop (i + 1), ?_, fun y => List.set_eq_take_append_cons_drop .. ▸ if_pos hi⟩
  rw [List.getElem_cons_drop, List.take_append_drop]

/-! ### New pools -/

namespace Pool

theorem length_of_fill {f : Factory σ R} :
    ∀ {left : Nat} {created rs : List R} {s s' : σ} {events : List Event},
      fill f left created s = (.all rs, events, s') → rs.length = created.length + left
  | 0, created, rs, s, s', events, h => by
      simp only [fill, Prod.mk.injEq, Filled.all.injEq] at h
      rw [← h.1]
      rfl
  | left + 1, created, rs, s, s', events, h => by
      simp only [fill] at h
      cases hr : (f.create s).result with
      | ok r =>
          simp only [hr, Prod.mk.injEq] at h
          have := length_of_fill (Prod.ext h.1 rfl)
          rw [this, List.length_append, List.length_singleton]
          omega
      | failed error => simp [hr] at h
      | panicked message => simp [hr] at h

variable {f : Factory σ R} {s : σ} {size : Nat} {timeout : Duration} {p : Pool σ R}

/-- A pool that has been built holds the resources that were created for it, and nothing has
happened to it yet. -/
theorem fill_of_build (h : (build f s size timeout).result = .done (.ok p)) :
    ∃ rs events s', fill f size [] s = (.all rs, events, s') ∧
      p = { factory := f, works := s', size, timeout, state := { idle := rs } } := by
  unfold build at h
  by_cases hz : size = 0
  · simp [hz] at h
  · by_cases hroom : Word.signedSize ≤ size * f.bytes
    · simp [hz, hroom] at h
    · rw [if_neg hz, if_neg hroom] at h
      rcases hf : fill f size [] s with ⟨filled, events, s'⟩
      cases filled with
      | all rs =>
          simp only [hf, Outcome.done.injEq, Except.ok.injEq] at h
          exact ⟨rs, events, s', rfl, h.symm⟩
      | failed index error created =>
          rcases hc : f.closeAll .abortedCloseFailed created s' with ⟨result, more, s''⟩
          cases result <;> simp [hf, hc] at h
      | panicked message created => simp [hf] at h

/-- **A pool begins** with as many idle resources as were asked for; none is handed out, and the
counters are zero. -/
theorem state_of_build (h : (build f s size timeout).result = .done (.ok p)) :
    p.factory = f ∧ p.state.idle.length = size ∧ p.state = { idle := p.state.idle } := by
  obtain ⟨rs, events, s', hf, rfl⟩ := fill_of_build h
  refine ⟨rfl, ?_, rfl⟩
  rw [length_of_fill hf, List.length_nil, Nat.zero_add]

end Pool

end DataTier
