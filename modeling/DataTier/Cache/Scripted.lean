/-
A store behind scripted faults.

The `n`-th request of a kind plays the `n`-th fault of that kind, and reaches the store when its
fault is none.  Every request is recorded, whatever becomes of it.

Main definitions:

* `DataTier.Scripted` — a store, the faults still to be played and the requests made;
* `DataTier.Scripted.backend` — the whole as a backend.
-/

import DataTier.Cache.Backend

set_option relaxedAutoImplicit false
set_option autoImplicit false

namespace DataTier

namespace Scripted

/-- What happens to a request. -/
inductive Fault where
  /-- It reaches the store. -/
  | pass
  /-- A lookup is answered with these bytes. -/
  | bytes (bs : Bytes)
  /-- It is never answered. -/
  | stall
  /-- The backend breaks down. -/
  | panic
  /-- It fails. -/
  | fail (e : CacheError)

/-- A request as it was made. -/
inductive Call where
  /-- A lookup. -/
  | get (key : String)
  /-- A write. -/
  | setex (key : String) (ttl : Duration) (value : Bytes)
  /-- A delete. -/
  | delete (key : String)
  /-- The end of the connection. -/
  | close

/-- The message of a breakdown that a script asks for. -/
def panicMessage : String := "backend panicked"

/-- What a request comes to under a fault: `pass` says what the store makes of it. -/
def play {α σ : Type} (fault : Fault) (s : σ) (bytes : Bytes → Reply α)
    (pass : Unit → Reply α × σ) : Reply α × σ :=
  match fault with
  | .pass => pass ()
  | .bytes bs => (bytes bs, s)
  | .stall => (.stalled, s)
  | .panic => (.panicked panicMessage, s)
  | .fail e => (.answered (.error e), s)

end Scripted

/-- A store, the faults still to be played and the requests made so far. -/
structure Scripted where
  /-- The store. -/
  store : Store
  /-- The label used in logs. -/
  name : String := Store.backendName
  /-- The faults of lookups. -/
  getFaults : List Scripted.Fault := []
  /-- The faults of writes. -/
  setFaults : List Scripted.Fault := []
  /-- The faults of deletes. -/
  deleteFaults : List Scripted.Fault := []
  /-- The requests, the newest last. -/
  calls : List Scripted.Call := []

namespace Scripted

/-- The store after a request that passed. -/
def within {α : Type} (s : Scripted) (r : Reply α × Store) : Reply α × Scripted :=
  (r.1, { s with store := r.2 })

/-- The scripted store as a backend. -/
def backend : Backend Scripted where
  name s := s.name
  get now key s :=
    let fault := s.getFaults.headD .pass
    let s := { s with getFaults := s.getFaults.tail, calls := s.calls ++ [.get key] }
    play fault s (fun bs => .answered (.ok (some bs)))
      fun _ => s.within (Store.backend.get now key s.store)
  setex now key ttl value s :=
    let fault := s.setFaults.headD .pass
    let s := { s with setFaults := s.setFaults.tail, calls := s.calls ++ [.setex key ttl value] }
    play fault s (fun _ => .answered (.ok ()))
      fun _ => s.within (Store.backend.setex now key ttl value s.store)
  delete now key s :=
    let fault := s.deleteFaults.headD .pass
    let s := { s with deleteFaults := s.deleteFaults.tail, calls := s.calls ++ [.delete key] }
    play fault s (fun _ => .answered (.ok ()))
      fun _ => s.within (Store.backend.delete now key s.store)
  close s := { s with calls := s.calls ++ [.close] }

end Scripted

end DataTier
