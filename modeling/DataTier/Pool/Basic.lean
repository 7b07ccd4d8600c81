/-
**A bounded pool of resources.**

All resources are created when the pool is built, or none stays: when one cannot be created the
ones before it are closed again.  A pool of more resources than there can be room for is not built
at all, and none is created for it.  A resource is handed out to one holder at a time and is idle
again when it comes back.  Shutdown closes what is idle; what is handed out is closed when it
comes back.

Main definitions:

* `DataTier.Pool` — a pool with its factory, state and log;
* `DataTier.Pool.build` — builds a pool;
* `DataTier.Pool.attempt`, `Pool.acquire` — one check of an acquirer, and a whole acquisition that
  nobody interferes with;
* `DataTier.Pool.giveBack`, `Pool.shutdown` — the ends of a resource's use and of the pool's;
* `DataTier.Pool.withResource` — a resource used within one call.
-/

import DataTier.Error
import DataTier.Pool.Factory
import DataTier.Pool.State

set_option relaxedAutoImplicit false
set_option autoImplicit false

namespace DataTier

/-- How long an acquisition waits unless the pool is told otherwise. -/
def defaultAcquireTimeout : Duration := .ofSecs 5

/-- What is reported when the worker that runs for a caller breaks down. -/
def PoolError.workerPanicked : PoolError := .workerFailed "pool worker panicked"

/-- A bounded pool of resources. -/
structure Pool (σ R : Type) where
  /-- Creates and closes the resources. -/
  factory : Factory σ R
  /-- The state of the factory. -/
  works : σ
  /-- How many resources the pool was built with. -/
  size : Nat
  /-- How long an acquisition waits. -/
  timeout : Duration
  /-- What the lock guards. -/
  state : PoolState R
  /-- What has been logged, the newest last. -/
  log : List Event := []

namespace Pool

variable {σ R : Type}

/-- The pool with one more event in its log. -/
def report (p : Pool σ R) (e : Event) : Pool σ R := { p with log := p.log ++ [e] }

/-- A snapshot of the pool. -/
def stats (p : Pool σ R) : PoolStats := p.state.stats p.size

/-- The pool as a developer sees it. -/
def debug (p : Pool σ R) : String :=
  "ResourcePool \x7b stats: " ++ p.stats.debug ++ ", acquire_timeout: " ++ p.timeout.text ++
    " \x7d"

/-! ### Building a pool -/

/-- What became of a pool that was to be built: the pool, an error, or a breakdown. -/
structure Built (σ R : Type) where
  /-- The pool, if there is one. -/
  result : Outcome (Except PoolError (Pool σ R))
  /-- What was logged. -/
  log : List Event
  /-- The state of the factory afterwards. -/
  works : σ

/-- What became of the creation of several resources. -/
inductive Filled (R : Type) where
  /-- All were created. -/
  | all (rs : List R)
  /-- One could not be created. -/
  | failed (index : Nat) (error : String) (created : List R)
  /-- A creation broke down. -/
  | panicked (message : String) (created : List R)

/-- So many resources created, after those created before. -/
def fill (f : Factory σ R) : Nat → List R → σ → Filled R × List Event × σ
  | 0, created, s => (.all created, [], s)
  | left + 1, created, s =>
    let c := f.create s
    let events := c.effects.filterMap Effect.event?
    match c.result with
    | .ok r =>
      let (filled, more, s) := fill f left (created ++ [r]) c.state
      (filled, events ++ more, s)
    | .failed error => (.failed created.length error created, events, c.state)
    | .panicked message => (.panicked message created, events, c.state)

/-- What is reported when a word with a sign cannot count the bytes of a pool's resources. -/
def capacityMessage : String := "capacity overflow"

/-- Builds a pool of `size` resources.  Room for all of them is made before the first one is
created, and that breaks down when a word with a sign cannot count their bytes; that the machine
has as many bytes as it can count is taken for granted. -/
def build (f : Factory σ R) (s : σ) (size : Nat) (timeout : Duration) : Built σ R :=
  if size = 0 then ⟨.done (.error (.invalidConfig "pool size must be at least 1")), [], s⟩
  else if Word.signedSize ≤ size * f.bytes then ⟨.panicked capacityMessage, [], s⟩
  else
    match fill f size [] s with
    | (.all rs, events, s) =>
      let pool : Pool σ R :=
        { factory := f, works := s, size, timeout, state := { idle := rs } }
      ⟨.done (.ok pool), events ++ [.poolInitialized size timeout], s⟩
    | (.failed index error created, events, s) =>
      let events := events ++ [.creationFailed index size error]
      match f.closeAll .abortedCloseFailed created s with
      | (.done (), more, s) =>
        ⟨.done (.error (.resourceCreation index error)), events ++ more, s⟩
      | (.panicked message, more, s) => ⟨.panicked message, events ++ more, s⟩
    | (.panicked message created, events, s) =>
      ⟨.panicked message, events, f.discardAll created s⟩

/-! ### Acquiring -/

/-- One check of an acquirer; what it comes to is logged. -/
def attempt (p : Pool σ R) (now deadline : Instant) : Check R × Pool σ R :=
  let (found, state) := p.state.check now deadline
  let p := { p with state }
  match found with
  | .acquired _ => (found, p.report (.acquired state.inUse))
  | .exhausted => (found, p.report (.exhausted p.size p.timeout))
  | _ => (found, p)

/-- The answer that a check gives an acquirer, none when it has to wait. -/
def answer? (p : Pool σ R) : Check R → Option (Except PoolError R)
  | .acquired r => some (.ok r)
  | .closed => some (.error .closed)
  | .exhausted => some (.error (.exhausted p.timeout))
  | .wait => none

/-- An acquisition that nobody interferes with: a check, and another one at the deadline.  It
breaks down when the clock cannot show its deadline. -/
def acquire (p : Pool σ R) (now : Instant) : Outcome (Except PoolError R) × Pool σ R :=
  match now.after? p.timeout with
  | none => (.panicked Instant.overflowMessage, p)
  | some deadline =>
    let (found, p) := p.attempt now deadline
    match p.answer? found with
    | some answer => (.done answer, p)
    | none =>
      let (found, p) := p.attempt deadline deadline
      (.done ((p.answer? found).getD (.error (.exhausted p.timeout))), p)

/-- What the caller of a worker gets from an acquisition. -/
def ofWorker {α : Type} : Outcome (Except PoolError α) → Except PoolError α
  | .done answer => answer
  | .panicked _ => .error .workerPanicked

/-! ### Giving back -/

/-- A resource comes back.  After shutdown it is closed; a failure to close it is logged, and a
breakdown ends the return before it is logged. -/
def giveBack (p : Pool σ R) (r : R) : Outcome Unit × Pool σ R :=
  match p.state.giveBack r with
  | (none, state) => (.done (), { p with state }.report .released)
  | (some r, state) =>
    match p.factory.close r p.works with
    | (.ok (), works) => (.done (), { p with state, works }.report .released)
    | (.failed error, works) =>
      (.done (), ({ p with state, works }.report (.lateCloseFailed error)).report .released)
    | (.panicked message, works) => (.panicked message, { p with state, works })

/-- The pool is shut down: how many idle resources there were. -/
def shutdown (p : Pool σ R) : Outcome Nat × Pool σ R :=
  match p.state.drain with
  | (none, state) => (.done 0, { p with state })
  | (some (drained, inUse), state) =>
    let (result, events, works) := p.factory.closeAll .pooledCloseFailed drained p.works
    let p := { p with state, works, log := p.log ++ events }
    match result with
    | .panicked message => (.panicked message, p)
    | .done () =>
      let p := if inUse = 0 then p else p.report (.shutDownInUse inUse)
      (.done drained.length, p.report (.poolShutDown drained.length))

/-- The pool is gone: what is idle is let go of. -/
def abandon (p : Pool σ R) : Pool σ R :=
  { p with works := p.factory.discardAll p.state.idle p.works }

/-! ### Scoped use -/

/-- A resource acquired, used and given back within one call.  The use may change the resource and
may break down; the resource comes back either way. -/
def withResource {α : Type} (p : Pool σ R) (now : Instant) (use : R → Outcome α × R) :
    Except PoolError α × Pool σ R :=
  match p.acquire now with
  | (.panicked _, p) => (.error .workerPanicked, p)
  | (.done (.error e), p) => (.error e, p)
  | (.done (.ok r), p) =>
    let (result, r) := use r
    let (returned, p) := p.giveBack r
    match result, returned with
    | .done x, .done () => (.ok x, p)
    | _, _ => (.error .workerPanicked, p)

end Pool

end DataTier
