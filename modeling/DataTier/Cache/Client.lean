/-
**The best-effort cache client.**

A client stands between its callers and a backend.  A failure of the backend is logged and
counted, and then read as a miss or a write that did not happen; no caller ever sees it.  A client
without a backend is a cache that always misses.

Every operation has two halves, a request to the backend and what is made of the reply, because
other work runs while a reply is awaited.  `Client.get`, `Client.set` and so on run both halves at
one moment and read a stalled request as one that has timed out.

Main definitions:

* `DataTier.Client` — a backend with its state, counters and log;
* `DataTier.Client.request` — the first half of an operation;
* `DataTier.Client.finishGet`, `finishGetJson`, `finishSet`, `finishDelete` — the second halves;
* `DataTier.Client.get`, `getJson`, `set`, `setJson`, `writeBack`, `delete`, `close` — operations.
-/

import DataTier.Cache.Backend
import DataTier.Cache.Codec
import DataTier.Cache.Stats
import DataTier.Event
import DataTier.Outcome

set_option relaxedAutoImplicit false
set_option autoImplicit false

namespace DataTier

/-- How long one cache operation may take unless the client is told otherwise. -/
def defaultOpTimeout : Duration := .ofSecs 5

/-- A handle to an optional cache backend. -/
structure Client (σ : Type) where
  /-- The backend, none when the cache is disabled. -/
  backend : Option (Backend σ)
  /-- The state of the backend. -/
  state : σ
  /-- How long one operation may take. -/
  opTimeout : Duration := defaultOpTimeout
  /-- What has been counted. -/
  stats : CacheStats := {}
  /-- What has been logged, the newest last. -/
  log : List Event := []

namespace Client

variable {σ : Type}

/-- A client of a backend. -/
def ofBackend (backend : Backend σ) (state : σ) (opTimeout : Duration := defaultOpTimeout) :
    Client σ :=
  { backend := some backend, state, opTimeout }

/-- A client without a backend. -/
def disabled (state : σ) : Client σ := { backend := none, state }

/-- Whether there is a backend. -/
def isEnabled (c : Client σ) : Bool := c.backend.isSome

/-- The label of the backend. -/
def backendName? (c : Client σ) : Option String := c.backend.map fun b => b.name c.state

/-- The client as a developer sees it. -/
def debug (c : Client σ) : String :=
  "CacheClient \x7b backend: " ++ Quoted.optional c.backendName? ++ ", op_timeout: " ++
    c.opTimeout.text ++ " \x7d"

/-- The client with one more event in its log. -/
def report (c : Client σ) (e : Event) : Client σ := { c with log := c.log ++ [e] }

/-- The client with other counters. -/
def count (c : Client σ) (f : CacheStats → CacheStats) : Client σ := { c with stats := f c.stats }

/-- Sends a request to the backend; none without one. -/
def request {α : Type} (c : Client σ) (ask : Backend σ → σ → Reply α × σ) :
    Option (Reply α) × Client σ :=
  match c.backend with
  | none => (none, c)
  | some b =>
    let (reply, state) := ask b c.state
    (some reply, { c with state })

/-- The label that failures are logged with. -/
def label (c : Client σ) : String := c.backendName?.getD ""

/-! ### Second halves -/

/-- The bytes of a lookup that has ended; a failure is counted, logged and read as nothing. -/
def absorb (c : Client σ) (key : String) (result : Except CacheError (Option Bytes)) :
    Option Bytes × Client σ :=
  match result with
  | .ok value => (value, c)
  | .error e => (none, (c.count .error).report (.getFailed key c.label e.message))

/-- The end of a lookup for bytes. -/
def finishGet (c : Client σ) (key : String) (result : Except CacheError (Option Bytes)) :
    Option Bytes × Client σ :=
  let (value, c) := c.absorb key result
  (value, c.count (·.lookedUp value.isSome))

/-- The value of the bytes found; bytes that are none are counted, logged and read as nothing. -/
def decodeFound {R : Type} (c : Client σ) (codec : Codec R) (key : String) :
    Option Bytes → Option R × Client σ
  | none => (none, c)
  | some bs =>
    match codec.decode? bs with
    | some r => (some r, c)
    | none => (none, (c.report (.undecodable key)).count .error)

/-- The end of a lookup for a value. -/
def finishGetJson {R : Type} (c : Client σ) (codec : Codec R) (key : String)
    (result : Except CacheError (Option Bytes)) : Option R × Client σ :=
  let (found, c) := c.absorb key result
  let (value, c) := c.decodeFound codec key found
  (value, c.count (·.lookedUp value.isSome))

/-- The end of a write: whether it landed. -/
def finishSet (c : Client σ) (key : String) (ttl : Duration) (result : Except CacheError Unit) :
    Bool × Client σ :=
  match result with
  | .ok () => (true, c.count (·.wrote true))
  | .error e => (false, (c.report (.setFailed key ttl c.label e.message)).count (·.wrote false))

/-- The end of a write in the background: one that landed is logged. -/
def finishWriteBack (c : Client σ) (key : String) (ttl : Duration) (length : Nat)
    (result : Except CacheError Unit) : Client σ :=
  match c.finishSet key ttl result with
  | (true, c) => c.report (.writeBackComplete key length ttl)
  | (false, c) => c

/-- The end of a delete: whether the backend confirmed it. -/
def finishDelete (c : Client σ) (key : String) (result : Except CacheError Unit) :
    Bool × Client σ :=
  match result with
  | .ok () => (true, c)
  | .error e => (false, (c.count .error).report (.deleteFailed key c.label e.message))

/-! ### Whole operations -/

/-- A reply as the client takes it once its timeout has passed, none when the backend broke
down. -/
def settle {α : Type} (c : Client σ) : Reply α → Outcome (Except CacheError α)
  | .answered result => .done result
  | .stalled => .done (.error (.timeout c.opTimeout))
  | .panicked message => .panicked message

/-- Runs an operation: the request, and the second half if the backend does not break down.
Without a backend the answer is `skipped`. -/
def run {α β : Type} (c : Client σ) (ask : Backend σ → σ → Reply α × σ)
    (skipped : Client σ → β × Client σ) (finish : Client σ → Except CacheError α → β × Client σ) :
    Outcome β × Client σ :=
  match c.request ask with
  | (none, c) =>
    let (answer, c) := skipped c
    (.done answer, c)
  | (some reply, c) =>
    match c.settle reply with
    | .panicked message => (.panicked message, c)
    | .done result =>
      let (answer, c) := finish c result
      (.done answer, c)

/-- The bytes under a key. -/
def get (c : Client σ) (now : Instant) (key : String) : Outcome (Option Bytes) × Client σ :=
  c.run (fun b => b.get now key) (fun c => (none, c.count .miss)) (·.finishGet key)

/-- The value under a key. -/
def getJson {R : Type} (c : Client σ) (codec : Codec R) (now : Instant) (key : String) :
    Outcome (Option R) × Client σ :=
  c.run (fun b => b.get now key) (fun c => (none, c.count .miss)) (·.finishGetJson codec key)

/-- Writes bytes under a key: whether they landed. -/
def set (c : Client σ) (now : Instant) (key : String) (ttl : Duration) (value : Bytes) :
    Outcome Bool × Client σ :=
  c.run (fun b => b.setex now key ttl value) (fun c => (false, c)) (·.finishSet key ttl)

/-- Writes a value under a key: whether it landed. -/
def setJson {R : Type} (c : Client σ) (codec : Codec R) (now : Instant) (key : String)
    (ttl : Duration) (r : R) : Outcome Bool × Client σ :=
  match codec.encode r with
  | .ok bs => c.set now key ttl bs
  | .error fault => (.done false, c.report (.valueNotSerializable key fault.message))

/-- Writes bytes under a key in the background. -/
def writeBack (c : Client σ) (now : Instant) (key : String) (ttl : Duration) (value : Bytes) :
    Outcome Unit × Client σ :=
  c.run (fun b => b.setex now key ttl value) (fun c => ((), c))
    fun c result => ((), c.finishWriteBack key ttl value.length result)

/-- Removes a key: whether the backend confirmed it. -/
def delete (c : Client σ) (now : Instant) (key : String) : Outcome Bool × Client σ :=
  c.run (fun b => b.delete now key) (fun c => (false, c)) (·.finishDelete key)

/-- Tells the backend to release what it holds.  The client itself stays as it is. -/
def close (c : Client σ) : Client σ :=
  match c.backend with
  | none => c
  | some b => { c with state := b.close c.state }.report (.cacheClosed (b.name c.state))

end Client

end DataTier
