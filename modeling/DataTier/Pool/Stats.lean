/-
A snapshot of a pool.

Main definitions:

* `DataTier.PoolStats` — occupancy and counters;
* `DataTier.PoolStats.utilization` — the fraction of the pool that is handed out.
-/

import DataTier.Datum

set_option relaxedAutoImplicit false
set_option autoImplicit false

namespace DataTier

/-- What a pool looks like at one moment. -/
structure PoolStats where
  /-- How many resources the pool was built with. -/
  size : Nat := 0
  /-- How many of them are idle. -/
  available : Nat := 0
  /-- How many of them are handed out. -/
  inUse : Nat := 0
  /-- How many acquisitions have succeeded. -/
  acquired : Nat := 0
  /-- How many resources have come back. -/
  released : Nat := 0
  /-- How many acquisitions have timed out. -/
  exhausted : Nat := 0
  /-- Whether the pool has been shut down. -/
  closed : Bool := false
  deriving DecidableEq

namespace PoolStats

/-- The fraction of the pool that is handed out, zero for a pool without resources. -/
def utilization (s : PoolStats) : Double := countRatio s.inUse s.size

/-- The snapshot as JSON, in the order of declaration. -/
def toJson (s : PoolStats) : Json :=
  .object [("size", .ofNat s.size), ("available", .ofNat s.available), ("in_use", .ofNat s.inUse),
    ("acquired", .ofNat s.acquired), ("released", .ofNat s.released),
    ("exhausted", .ofNat s.exhausted), ("closed", .bool s.closed)]

/-- The snapshot as a developer sees it. -/
def debug (s : PoolStats) : String :=
  "PoolStats \x7b size: " ++ toString s.size ++ ", available: " ++ toString s.available ++
  ", in_use: " ++ toString s.inUse ++ ", acquired: " ++ toString s.acquired ++
  ", released: " ++ toString s.released ++ ", exhausted: " ++ toString s.exhausted ++
  ", closed: " ++ Datum.boolText s.closed ++ " \x7d"

end PoolStats

end DataTier
