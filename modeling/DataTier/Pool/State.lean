/-
**The state of a pool, and the sections that run under its lock.**

Three sections change the state: the check that an acquirer makes, again after every time it is
woken; the return of a resource; and the draining of the idle resources at shutdown.  Waking
waiters and closing resources happen outside the lock, so other sections may run before they do.
Idle resources leave in the order in which they came.

Main definitions:

* `DataTier.PoolState` — idle resources, the number handed out, and counters;
* `DataTier.PoolState.check` — what an acquirer finds;
* `DataTier.PoolState.giveBack` — a resource comes back;
* `DataTier.PoolState.drain` — the pool is closed and its idle resources are taken out.
-/

import DataTier.Duration
import DataTier.Pool.Stats

set_option relaxedAutoImplicit false
set_option autoImplicit false

namespace DataTier

/-- What the lock of a pool guards. -/
structure PoolState (R : Type) where
  /-- Resources waiting to be handed out, the next one first. -/
  idle : List R
  /-- How many resources are handed out. -/
  inUse : Nat := 0
  /-- Whether the pool has been shut down. -/
  closed : Bool := false
  /-- How many acquisitions have succeeded. -/
  acquired : Nat := 0
  /-- How many resources have come back. -/
  released : Nat := 0
  /-- How many acquisitions have timed out. -/
  exhausted : Nat := 0
  deriving DecidableEq

/-- What an acquirer finds when it holds the lock. -/
inductive Check (R : Type) where
  /-- The pool is shut down. -/
  | closed
  /-- A resource, now the acquirer's. -/
  | acquired (r : R)
  /-- Nothing, and the deadline has been reached. -/
  | exhausted
  /-- Nothing yet. -/
  | wait
  deriving DecidableEq

namespace PoolState

variable {R : Type}

/-- The check of an acquirer whose deadline is given. -/
def check (s : PoolState R) (now deadline : Instant) : Check R × PoolState R :=
  if s.closed then (.closed, s)
  else
    match s.idle with
    | r :: idle => (.acquired r, { s with idle, inUse := s.inUse + 1, acquired := s.acquired + 1 })
    | [] =>
      if deadline ≤ now then (.exhausted, { s with exhausted := s.exhausted + 1 }) else (.wait, s)

/-- A resource comes back.  In an open pool it becomes idle and somebody may be woken for it; after
shutdown it is handed on, to be closed. -/
def giveBack (s : PoolState R) (r : R) : Option R × PoolState R :=
  let s := { s with inUse := s.inUse - 1, released := s.released + 1 }
  if s.closed then (some r, s) else (none, { s with idle := s.idle ++ [r] })

/-- The pool is shut down: its idle resources, to be closed, and the number still handed out.  A
pool that was shut down before has nothing to drain. -/
def drain (s : PoolState R) : Option (List R × Nat) × PoolState R :=
  if s.closed then (none, s) else (some (s.idle, s.inUse), { s with closed := true, idle := [] })

/-- A snapshot of a pool built with `size` resources. -/
def stats (s : PoolState R) (size : Nat) : PoolStats where
  size := size
  available := s.idle.length
  inUse := s.inUse
  acquired := s.acquired
  released := s.released
  exhausted := s.exhausted
  closed := s.closed

end PoolState

end DataTier
