/-
The counters of a cache client.

Main definitions:

* `DataTier.CacheStats` — the counters;
* `DataTier.CacheStats.hitRate` — the fraction of lookups that found something.
-/

import DataTier.Json.Printer

set_option relaxedAutoImplicit false
set_option autoImplicit false

namespace DataTier

/-- What a cache client has counted. -/
structure CacheStats where
  /-- Lookups answered from the cache. -/
  hits : Nat := 0
  /-- Lookups that found nothing, failed ones included. -/
  misses : Nat := 0
  /-- Failures of the backend and values that could not be decoded. -/
  errors : Nat := 0
  /-- Writes that landed. -/
  writes : Nat := 0
  /-- Writes that failed. -/
  writeFailures : Nat := 0
  deriving DecidableEq

namespace CacheStats

/-- One more lookup that found something. -/
def hit (s : CacheStats) : CacheStats := { s with hits := s.hits + 1 }

/-- One more lookup that found nothing. -/
def miss (s : CacheStats) : CacheStats := { s with misses := s.misses + 1 }

/-- One more failure. -/
def error (s : CacheStats) : CacheStats := { s with errors := s.errors + 1 }

/-- One more write that has ended, well or not. -/
def wrote (s : CacheStats) (landed : Bool) : CacheStats :=
  if landed then { s with writes := s.writes + 1 }
  else { s with writeFailures := s.writeFailures + 1 }

/-- One more lookup that has ended, with or without a value. -/
def lookedUp (s : CacheStats) (found : Bool) : CacheStats := if found then s.hit else s.miss

/-- The fraction of lookups that found something, zero before the first one. -/
def hitRate (s : CacheStats) : Double := countRatio s.hits (s.hits + s.misses)

/-- The counters as JSON, in the order of their declaration. -/
def toJson (s : CacheStats) : Json :=
  .object [("hits", .ofNat s.hits), ("misses", .ofNat s.misses), ("errors", .ofNat s.errors),
    ("writes", .ofNat s.writes), ("write_failures", .ofNat s.writeFailures)]

/-- The counters as a developer sees them. -/
def debug (s : CacheStats) : String :=
  "CacheStats \x7b hits: " ++ toString s.hits ++ ", misses: " ++ toString s.misses ++
  ", errors: " ++ toString s.errors ++ ", writes: " ++ toString s.writes ++
  ", write_failures: " ++ toString s.writeFailures ++ " \x7d"

end CacheStats

end DataTier
