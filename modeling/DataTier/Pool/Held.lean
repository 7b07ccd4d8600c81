/-
A pool with the resources that one caller holds.

Main definitions:

* `DataTier.HeldPool` — the pool and the resources, the oldest first;
* `DataTier.HeldPool.acquire`, `HeldPool.dropOldest`, `HeldPool.finish` — what the caller does;
* `DataTier.Pool.giveBackAll` — resources given back one after the other.
-/

import DataTier.Pool.Basic

set_option relaxedAutoImplicit false
set_option autoImplicit false

namespace DataTier

variable {σ R : Type}

/-- Resources given back one after the other.  All of them go back; of the returns that break down
the first is reported. -/
def Pool.giveBackAll (p : Pool σ R) : List R → Outcome Unit × Pool σ R
  | [] => (.done (), p)
  | r :: rs =>
    match p.giveBack r with
    | (.done (), p) => giveBackAll p rs
    | (.panicked message, p) => (.panicked message, (giveBackAll p rs).2)

/-- A pool with the resources that one caller holds. -/
structure HeldPool (σ R : Type) where
  /-- The pool. -/
  pool : Pool σ R
  /-- The resources that are held, the oldest first. -/
  held : List R := []

namespace HeldPool

/-- When every acquisition begins: nothing depends on it. -/
def start : Instant := 0

/-- One more resource is held. -/
def acquire (h : HeldPool σ R) : Outcome (Except PoolError R) × HeldPool σ R :=
  match h.pool.acquire start with
  | (.done (.ok r), pool) => (.done (.ok r), { pool, held := h.held ++ [r] })
  | (result, pool) => (result, { h with pool })

/-- A resource is used within one call. -/
def use {α : Type} (h : HeldPool σ R) (f : R → Outcome α × R) :
    Except PoolError α × HeldPool σ R :=
  let (result, pool) := h.pool.withResource start f
  (result, { h with pool })

/-- The oldest resource that is held goes back; none if none is held. -/
def dropOldest (h : HeldPool σ R) : Option (Outcome Unit) × HeldPool σ R :=
  match h.held with
  | [] => (none, h)
  | r :: held =>
    let (result, pool) := h.pool.giveBack r
    (some result, { pool, held })

/-- The pool is shut down. -/
def shutdown (h : HeldPool σ R) : Outcome Nat × HeldPool σ R :=
  let (result, pool) := h.pool.shutdown
  (result, { h with pool })

/-- All that is held goes back, then the pool is gone: the state of its factory. -/
def finish (h : HeldPool σ R) : σ := ((h.pool.giveBackAll h.held).2.abandon).works

end HeldPool

end DataTier
