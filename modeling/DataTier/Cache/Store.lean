/-
**The bounded store with expiry.**

A store maps keys to values until their deadlines.  An entry that has expired stays stored until
it is read, purged or displaced, but is never shown again.  When a new key finds the store full,
all expired entries go; if none has expired, the entry closest to its deadline goes.  The entries
stand in the order of their last writes, so of several equally close ones the one written longest
ago goes.

A lookup is two sections under the store's lock, a read and, for an expired entry, a write; other
requests may run in between, so each section is an operation of its own.

Main definitions:

* `DataTier.Entry` — a value and its deadline;
* `DataTier.Store` — keys with entries, and a capacity;
* `DataTier.Store.probe`, `Store.dropExpired`, `Store.get` — the two sections of a lookup, and both
  at one moment;
* `DataTier.Store.makeRoom`, `Store.setex` — a write and how it finds a place;
* `DataTier.Store.delete`, `Store.purge`, `Store.contains` — the other requests.
-/

import DataTier.Duration
import DataTier.Named
import DataTier.Text.Utf8

set_option relaxedAutoImplicit false
set_option autoImplicit false

namespace DataTier

/-- A stored value and the moment it stops being visible. -/
structure Entry where
  /-- The value. -/
  value : Bytes
  /-- The first moment at which the value is not visible. -/
  expiresAt : Instant
  deriving DecidableEq

namespace Entry

/-- The entry of a value that lives for `ttl` from now on, none if the clock cannot show its
deadline. -/
def create? (value : Bytes) (ttl : Duration) (now : Instant) : Option Entry :=
  (now.after? ttl).map fun deadline => ⟨value, deadline⟩

/-- Whether the deadline has been reached. -/
def isExpired (e : Entry) (now : Instant) : Bool := e.expiresAt ≤ now

@[simp] theorem isExpired_iff (e : Entry) (now : Instant) :
    e.isExpired now = true ↔ e.expiresAt ≤ now := by simp [isExpired]

end Entry

/-- Keys with entries, in the order of their last writes. -/
structure Store where
  /-- How many keys the store was asked to hold. -/
  capacity : Nat
  /-- The entries. -/
  entries : List (String × Entry) := []
  deriving DecidableEq

namespace Store

/-- How many keys a store holds unless it is told otherwise. -/
def defaultCapacity : Nat := 10000

/-- A store without entries. -/
def empty (capacity : Nat := defaultCapacity) : Store := { capacity }

/-- How many keys the store holds at most; there is room for one at least. -/
def room (s : Store) : Nat := max s.capacity 1

/-- How many entries are stored, expired ones included. -/
def size (s : Store) : Nat := s.entries.length

/-- The entry of a key, expired or not. -/
def find? (s : Store) (key : String) : Option Entry := s.entries.lookup key

/-- Whether a key is stored, expired or not. -/
def stores (s : Store) (key : String) : Bool := (s.find? key).isSome

/-- The store without the entry of a key. -/
def delete (s : Store) (key : String) : Store :=
  { s with entries := s.entries.filter fun e => e.1 ≠ key }

/-- The store with an entry for a key in place of the one it had. -/
def put (s : Store) (key : String) (entry : Entry) : Store :=
  { s with entries := (s.delete key).entries ++ [(key, entry)] }

/-- Whether a key is visible. -/
def contains (s : Store) (now : Instant) (key : String) : Bool :=
  (s.find? key).any fun e => !e.isExpired now

/-- The store without its expired entries. -/
def retainLive (s : Store) (now : Instant) : Store :=
  { s with entries := s.entries.filter fun e => !e.2.isExpired now }

/-- The expired entries dropped, with their number. -/
def purge (s : Store) (now : Instant) : Nat × Store :=
  (s.size - (s.retainLive now).size, s.retainLive now)

/-! ### Lookups -/

/-- What the first section of a lookup finds. -/
inductive Probe where
  /-- Nothing is stored. -/
  | absent
  /-- A visible value. -/
  | live (value : Bytes)
  /-- An expired entry, which the second section is to drop. -/
  | expired
  deriving DecidableEq

/-- The first section of a lookup. -/
def probe (s : Store) (now : Instant) (key : String) : Probe :=
  match s.find? key with
  | none => .absent
  | some e => if e.isExpired now then .expired else .live e.value

/-- The second section of a lookup that found an expired entry: the entry is looked at again, as
it may have been overwritten since. -/
def dropExpired (s : Store) (now : Instant) (key : String) : Store :=
  if (s.find? key).any (·.isExpired now) then s.delete key else s

/-- A lookup with both sections at one moment. -/
def get (s : Store) (now : Instant) (key : String) : Option Bytes × Store :=
  match s.probe now key with
  | .absent => (none, s)
  | .live value => (some value, s)
  | .expired => (none, s.dropExpired now key)

/-! ### Writes -/

/-- The entry closest to its deadline, the first of several. -/
def soonest : List (String × Entry) → Option (String × Entry)
  | [] => none
  | e :: rest =>
    match soonest rest with
    | none => some e
    | some other => if e.2.expiresAt ≤ other.2.expiresAt then some e else some other

/-- Whether a key can only be stored at the cost of another one. -/
def lacksRoom (s : Store) (key : String) : Bool := !s.stores key && s.room ≤ s.size

/-- The store without the entry closest to its deadline. -/
def evict (s : Store) : Store :=
  match soonest s.entries with
  | some victim => s.delete victim.1
  | none => s

/-- The store with room for a key: the expired entries go first, then the one closest to its
deadline. -/
def makeRoom (s : Store) (now : Instant) (key : String) : Store :=
  let s := if s.lacksRoom key then s.retainLive now else s
  if s.lacksRoom key then s.evict else s

/-- A write: room is made, then the entry is stored.  When the clock cannot show the deadline
nothing is stored and the answer is false, but room has been made. -/
def setex (s : Store) (now : Instant) (key : String) (ttl : Duration) (value : Bytes) :
    Bool × Store :=
  let s := s.makeRoom now key
  match Entry.create? value ttl now with
  | some entry => (true, s.put key entry)
  | none => (false, s)

end Store

end DataTier
