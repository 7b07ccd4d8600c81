/-
**The context of an application**: its pool and its cache, built once and shut down together.

A pool that cannot be built is an error.  A cache that cannot be reached is none: the context then
runs without one.

Main definitions:

* `DataTier.Pool.ofConfig` — a pool as the settings ask for;
* `DataTier.AppContext` — the pool, the cache and the life span of cached results;
* `DataTier.AppContext.ofConfig` — a context as the settings ask for;
* `DataTier.AppContext.shutdown` — the end of both parts.
-/

import DataTier.Cache.Connect
import DataTier.Cache.Memo
import DataTier.Config
import DataTier.Pool.Basic

set_option relaxedAutoImplicit false
set_option autoImplicit false

namespace DataTier

variable {σ R : Type}

/-! ### Pools from settings -/

/-- How long a factory waits before the first of its further attempts. -/
def createRetryDelay : Duration := .ofSecs 2

/-- What became of something that was to be started, with what was logged on the way and the state
of the factory that took part in it. -/
structure Started (σ α : Type) where
  /-- What was started, or why it was not. -/
  result : Except PoolError α
  /-- What was logged. -/
  log : List Event
  /-- The state of the factory afterwards. -/
  works : σ

/-- What is reported of a worker that broke down, the number of its task apart. -/
def workerBreakdown (message : String) : String :=
  "task panicked with message " ++ Quoted.text message

/-- A pool as the settings ask for.  It is built on a worker, so a breakdown is an error. -/
def Pool.ofConfig (config : Config) (f : Factory σ R) (works : σ) : Started σ (Pool σ R) :=
  let built := Pool.build (f.retrying config.createRetries createRetryDelay) works config.poolSize
    config.acquireTimeout
  match built.result with
  | .done result => ⟨result, built.log, built.works⟩
  | .panicked message => ⟨.error (.workerFailed (workerBreakdown message)), built.log, built.works⟩

/-! ### Contexts -/

/-- The pool and the cache of an application. -/
structure AppContext (σ R : Type) where
  /-- The pool, if there is one. -/
  pool : Option (Pool σ R)
  /-- The cache. -/
  cache : Client CacheHost
  /-- How long a cached result lives unless it is told otherwise. -/
  defaultTtl : Duration := DataTier.defaultTtl
  /-- What has been logged, the newest last. -/
  log : List Event := []

namespace AppContext

/-- The context with one more event in its log. -/
def report (c : AppContext σ R) (e : Event) : AppContext σ R := { c with log := c.log ++ [e] }

/-- The context with its pool in another state; what the pool has logged goes to the context. -/
def withPool (c : AppContext σ R) (p : Pool σ R) : AppContext σ R :=
  { c with pool := some { p with log := [] }, log := c.log ++ p.log }

/-- The context with its cache in another state; what the cache has logged goes to the context. -/
def withCache (c : AppContext σ R) (cache : Client CacheHost) : AppContext σ R :=
  { c with cache := { cache with log := [] }, log := c.log ++ cache.log }

/-- A context of parts that have been built. -/
def ofParts (pool : Option (Pool σ R)) (cache : Client CacheHost) : AppContext σ R :=
  let c : AppContext σ R := { pool, cache }
  c.withCache cache

/-- The context with another life span of cached results. -/
def withDefaultTtl (c : AppContext σ R) (ttl : Duration) : AppContext σ R :=
  { c with defaultTtl := ttl }

/-- The cache that the settings ask for. -/
def cacheOfConfig (net : Network) (config : Config) : Client CacheHost :=
  match config.cacheUrl with
  | some url => Client.connect net url config.cacheOpTimeout
  | none => (Client.disabled .nowhere).report .noCacheUrl

/-- A context as the settings ask for: the pool first, and the cache only when there is a pool. -/
def ofConfig (net : Network) (config : Config) (f : Factory σ R) (works : σ) :
    Started σ (AppContext σ R) :=
  let started := Pool.ofConfig config f works
  match started.result with
  | .error e => ⟨.error e, started.log, started.works⟩
  | .ok p =>
    let c := (ofParts (some p) (cacheOfConfig net config)).withDefaultTtl config.cacheTtl
    let c := c.report (.contextReady p.size c.cache.backendName?)
    ⟨.ok { c with log := [] }, started.log ++ c.log, started.works⟩

/-- The pool, or the error that there is none. -/
def requirePool (c : AppContext σ R) : Except PoolError (Pool σ R) :=
  match c.pool with
  | some p => .ok p
  | none => .error (.notInitialized "no connection pool configured")

/-- The context with its pool shut down, on a worker. -/
def shutdownPool (c : AppContext σ R) : AppContext σ R :=
  match c.pool with
  | none => c
  | some p =>
    match p.shutdown with
    | (.done _, p) => c.withPool p
    | (.panicked message, p) =>
      (c.withPool p).report (.poolShutdownFailed (workerBreakdown message))

/-- The context shut down: first the pool, then the cache. -/
def shutdown (c : AppContext σ R) : AppContext σ R :=
  let c := c.shutdownPool
  (c.withCache c.cache.close).report .contextShutDown

end AppContext

end DataTier
