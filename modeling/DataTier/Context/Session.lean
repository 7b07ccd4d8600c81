/-
**A context at work.**

A session holds the resources that have been acquired and not yet given back, and runs memoized
computations through the context's cache.  One of them, the range query, uses the pool.

Main definitions:

* `DataTier.ContextSession` — a context with its clocks, computations and held resources;
* `DataTier.ContextSession.Step`, `ContextSession.Answer` — what can be asked and what is answered;
* `DataTier.ContextSession.range` — the memoized range query;
* `DataTier.ContextSession.step` — one step.
-/

import DataTier.Cache.Session
import DataTier.Context.Basic
import DataTier.Context.Range
import DataTier.Pool.Held
import DataTier.Pool.Scripted

set_option relaxedAutoImplicit false
set_option autoImplicit false

namespace DataTier

/-- A context at work. -/
structure ContextSession where
  /-- The pool, if there is one. -/
  pool : Option (Pool Workshop Specimen)
  /-- The resources that are held, the oldest first. -/
  held : List Specimen := []
  /-- The cache at work. -/
  cache : Session CacheHost
  /-- How long a cached result lives unless it is told otherwise. -/
  defaultTtl : Duration
  /-- What has been logged since the last step. -/
  log : List Event := []

namespace ContextSession

/-- A session of a context. -/
def ofContext (c : AppContext Workshop Specimen) : ContextSession :=
  { pool := c.pool, cache := { client := c.cache }, defaultTtl := c.defaultTtl, log := c.log }

/-- The context of the session. -/
def context (s : ContextSession) : AppContext Workshop Specimen :=
  { pool := s.pool, cache := s.cache.client, defaultTtl := s.defaultTtl, log := s.log }

/-- The session with its context in another state. -/
def withContext (s : ContextSession) (c : AppContext Workshop Specimen) : ContextSession :=
  { s with
    pool := c.pool
    cache := s.cache.withClient c.cache
    defaultTtl := c.defaultTtl
    log := c.log }

/-- The session with its pool in another state. -/
def withPool (s : ContextSession) (p : Pool Workshop Specimen) : ContextSession :=
  s.withContext (s.context.withPool p)

/-- The session with its cache in another state. -/
def withCache (s : ContextSession) (cache : Session CacheHost) : ContextSession :=
  let s := { s with cache }
  s.withContext (s.context.withCache cache.client)

/-- What has happened to the resources since the last step. -/
def journal (s : ContextSession) : List JournalLine := (s.pool.map (·.works.journal)).getD []

/-- The session with the journal and the log taken out. -/
def quiet (s : ContextSession) : ContextSession :=
  { s with
    pool := s.pool.map fun p => { p with works := { p.works with journal := [] } }
    log := [] }

/-! ### The range query -/

/-- What a range query comes to. -/
inductive Ranged where
  /-- The computation, or the cache, has answered. -/
  | answered (key : String) (answer : Memo.Answer RangeSummary)
  /-- The pool has not handed out a resource. -/
  | failed (key : String) (e : PoolError)
  /-- There is no pool. -/
  | noPool (e : PoolError)

/-- How the range query is cached. -/
def rangeMemo (s : ContextSession) : Memo RangeSummary :=
  ⟨RangeSummary.keyPrefix, s.defaultTtl, RangeSummary.codec⟩

/-- The range query computed by a resource of the pool; `lookedUp` is the key that was looked up. -/
def computeRange (s : ContextSession) (p : Pool Workshop Specimen) (n : Nat) (label key : String)
    (lookedUp : Option String) : Ranged × ContextSession :=
  match p.withResource HeldPool.start fun r => (.done r.id, r) with
  | (.error e, p) => (.failed key e, s.withPool p)
  | (.ok id, p) =>
    let s := s.withPool p
    let data := RangeSummary.ofQuery n label id
    let (answer, write, client) :=
      s.rangeMemo.conclude s.cache.client lookedUp Binary.zero (.ok data)
    let cache := s.cache.withClient client
    (.answered key answer, s.withCache ((write.map cache.spawn).getD cache))

/-- The range query: looked up, or else computed by a resource of the pool. -/
def range (s : ContextSession) (n : Nat) (label : String) : Ranged × ContextSession :=
  match s.context.requirePool with
  | .error e => (.noPool e, s)
  | .ok p =>
    let arguments := RangeSummary.arguments n label
    match s.rangeMemo.keyFor arguments with
    | .error fault => (.answered "" (.failed fault.message), s)
    | .ok key =>
      let cache := s.cache.tick
      let (found, client) := s.rangeMemo.lookup cache.client cache.clock arguments
      let s := s.withCache (cache.withClient client)
      match found with
      | .panicked message => (.answered key (.panicked message), s)
      | .done (.hit _ data) => (.answered key (.ok (some key) (.hit data Binary.zero)), s)
      | .done (.miss _) => s.computeRange p n label key (some key)
      | .done .bypass => s.computeRange p n label key none

/-! ### Steps -/

/-- What can be asked of a context. -/
inductive Step where
  /-- Cached results live for another span from now on. -/
  | withTtl (ttl : Duration)
  /-- The context is shut down. -/
  | shutdown
  /-- A resource is acquired and held. -/
  | acquire
  /-- All that is held goes back. -/
  | dropAll
  /-- The range query. -/
  | range (n : Nat) (label : String)
  /-- A memoized computation is made, for the context's life span if it has none of its own. -/
  | memo (ttl : Option Duration) (task : Task)
  /-- A step of the cache. -/
  | cache (step : Session.Step)

/-- What a context answers. -/
inductive Answer where
  /-- Nothing to say. -/
  | done
  /-- The number of a resource that is now held. -/
  | acquired (id : Nat)
  /-- An error of the pool. -/
  | failed (e : PoolError)
  /-- What the range query came to. -/
  | ranged (r : Ranged)
  /-- The answer of the cache. -/
  | cache (answer : Session.Answer)
  /-- The step broke down. -/
  | broken (message : String)

/-- A resource acquired and held. -/
def acquire (s : ContextSession) : Answer × ContextSession :=
  match s.context.requirePool with
  | .error e => (.failed e, s)
  | .ok pool =>
    match ({ pool, held := s.held } : HeldPool Workshop Specimen).acquire with
    | (.panicked message, h) => (.broken message, s.withPool h.pool)
    | (.done (.error e), h) => (.failed e, s.withPool h.pool)
    | (.done (.ok r), h) => (.acquired r.id, { s.withPool h.pool with held := h.held })

/-- All that is held given back. -/
def dropAll (s : ContextSession) : Answer × ContextSession :=
  match s.pool with
  | none => (.done, s)
  | some p =>
    let (result, p) := p.giveBackAll s.held
    let s := { s.withPool p with held := [] }
    match result with
    | .done () => (.done, s)
    | .panicked message => (.broken message, s)

/-- A step of the cache. -/
def onCache (s : ContextSession) (step : Session.Step) : Answer × ContextSession :=
  let (answer, cache) := s.cache.act step
  (.cache answer, s.withCache cache)

/-- One step, without the work that it leaves to the background. -/
def act (s : ContextSession) : Step → Answer × ContextSession
  | .withTtl ttl => (.done, s.withContext (s.context.withDefaultTtl ttl))
  | .shutdown => (.done, s.withContext s.context.shutdown)
  | .acquire => s.acquire
  | .dropAll => s.dropAll
  | .range n label =>
    let (result, s) := s.range n label
    (.ranged result, s)
  | .memo ttl task =>
    s.onCache (.memo { task with memo := { task.memo with ttl := ttl.getD s.defaultTtl } })
  | .cache step => s.onCache step

/-- One step with the work that it leaves to the background. -/
def step (s : ContextSession) (x : Step) : Answer × ContextSession :=
  let (answer, s) := s.act x
  (answer, s.withCache s.cache.background.tick)

end ContextSession

end DataTier
