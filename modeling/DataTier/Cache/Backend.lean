/-
Cache backends.

A backend is a state and what each request does to it at a moment.  A request is answered, or
stalls for ever, or breaks down; what a client makes of that is the client's business.

Main definitions:

* `DataTier.Reply` — what becomes of a request;
* `DataTier.Backend` — a key-value store with expiry, as a client sees it;
* `DataTier.Store.backend` — the store in this process as a backend.
-/

import DataTier.Cache.Store
import DataTier.Error

set_option relaxedAutoImplicit false
set_option autoImplicit false

namespace DataTier

/-- What becomes of a request to a backend. -/
inductive Reply (α : Type) where
  /-- It is answered, well or not. -/
  | answered (result : Except CacheError α)
  /-- It is never answered. -/
  | stalled
  /-- The backend breaks down. -/
  | panicked (message : String)

/-- A key-value store with expiry, over states of type `σ`. -/
structure Backend (σ : Type) where
  /-- The label used in logs. -/
  name : σ → String
  /-- Asks for the value of a key. -/
  get : Instant → String → σ → Reply (Option Bytes) × σ
  /-- Stores a value under a key for a span. -/
  setex : Instant → String → Duration → Bytes → σ → Reply Unit × σ
  /-- Removes a key; it need not be there. -/
  delete : Instant → String → σ → Reply Unit × σ
  /-- Releases what the backend holds. -/
  close : σ → σ := id

/-- The name of the store in this process. -/
def Store.backendName : String := "memory"

/-- The store in this process.  It breaks down over a deadline that the clock cannot show. -/
def Store.backend : Backend Store where
  name _ := Store.backendName
  get now key s :=
    let (value, s) := s.get now key
    (.answered (.ok value), s)
  setex now key ttl value s :=
    match s.setex now key ttl value with
    | (true, s) => (.answered (.ok ()), s)
    | (false, s) => (.panicked Instant.overflowMessage, s)
  delete _ key s := (.answered (.ok ()), s.delete key)

end DataTier
