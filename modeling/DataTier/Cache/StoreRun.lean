/-
A store at work.

A run keeps the store, the clock and the keys that its steps have named.  Every request takes a
little time, so two entries written with one life span expire in the order of their writes.

Main definitions:

* `DataTier.StoreRun` — the store, the clock and the keys named so far;
* `DataTier.StoreRun.step` — one step and its answer;
* `DataTier.StoreRun.live` — the named keys that are visible.
-/

import DataTier.Cache.Backend

set_option relaxedAutoImplicit false
set_option autoImplicit false

namespace DataTier

/-- A store at work. -/
structure StoreRun where
  /-- The store. -/
  store : Store
  /-- The clock. -/
  clock : Instant := 0
  /-- The keys that steps have named. -/
  keys : List String := []

namespace StoreRun

/-- What can be asked of a store. -/
inductive Step where
  /-- Stores a value. -/
  | set (key : String) (ttl : Duration) (value : Bytes)
  /-- Looks a key up. -/
  | get (key : String)
  /-- Removes a key. -/
  | delete (key : String)
  /-- Says whether a key is visible. -/
  | contains (key : String)
  /-- Says whether nothing is stored. -/
  | isEmpty
  /-- Drops the expired entries. -/
  | purge
  /-- Says that the store answers. -/
  | ping
  /-- Says the store's name. -/
  | name
  /-- Releases the store. -/
  | close
  /-- Stores empty values under numbered keys. -/
  | fill (stem : String) (n : Nat) (ttl : Duration)
  /-- Lets time pass. -/
  | sleep (d : Duration)

/-- What a store answers. -/
inductive Answer where
  /-- Nothing to say. -/
  | done
  /-- The bytes found, if any. -/
  | bytes (found : Option Bytes)
  /-- Whether it is so. -/
  | flag (b : Bool)
  /-- How many there were. -/
  | count (n : Nat)
  /-- A name. -/
  | name (text : String)
  /-- The store broke down. -/
  | broken (message : String)

/-- The key that a step names. -/
def Step.key? : Step → Option String
  | .set key _ _ => some key
  | .get key => some key
  | .delete key => some key
  | .contains key => some key
  | _ => none

/-- How long a request takes, in nanoseconds. -/
def requestTime : Nat := 1000

/-- The answer to a write. -/
def stored (ok : Bool) : Answer := if ok then .done else .broken Instant.overflowMessage

/-- Numbered keys stored one after the other, until one cannot be. -/
def fill (stem : String) (ttl : Duration) : List Nat → StoreRun → Bool × StoreRun
  | [], r => (true, r)
  | i :: rest, r =>
    match r.store.setex r.clock (stem ++ toString i) ttl [] with
    | (true, store) => fill stem ttl rest { r with store, clock := r.clock + 100 }
    | (false, store) => (false, { r with store })

/-- One step without the time it takes. -/
def act (r : StoreRun) : Step → Answer × StoreRun
  | .set key ttl value =>
    let (ok, store) := r.store.setex r.clock key ttl value
    (stored ok, { r with store })
  | .get key =>
    let (found, store) := r.store.get r.clock key
    (.bytes found, { r with store })
  | .delete key => (.done, { r with store := r.store.delete key })
  | .contains key => (.flag (r.store.contains r.clock key), r)
  | .isEmpty => (.flag (r.store.size == 0), r)
  | .purge =>
    let (n, store) := r.store.purge r.clock
    (.count n, { r with store })
  | .ping => (.done, r)
  | .name => (.name Store.backendName, r)
  | .close => (.done, r)
  | .fill stem n ttl =>
    let (ok, r) := fill stem ttl (List.range n) r
    (stored ok, r)
  | .sleep d => (.done, { r with clock := r.clock + d.nanos })

/-- One step. -/
def step (r : StoreRun) (x : Step) : Answer × StoreRun :=
  let keys := match x.key? with
    | some key => if key ∈ r.keys then r.keys else r.keys ++ [key]
    | none => r.keys
  let (answer, r) := { r with keys }.act x
  (answer, { r with clock := r.clock + requestTime })

/-- The keys named so far that are visible, in order. -/
def live (r : StoreRun) : List String :=
  (r.keys.filter (r.store.contains r.clock)).mergeSort

end StoreRun

end DataTier
