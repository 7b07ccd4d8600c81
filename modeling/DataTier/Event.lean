/-
What the data tier reports while it works.

Each event is a cause with what it is about; level, message and fields are read off it.

Main definitions:

* `DataTier.Event` — the events;
* `DataTier.Event.level`, `.message`, `.fields` — how an event is written to a log.
-/

import DataTier.Duration

set_option relaxedAutoImplicit false
set_option autoImplicit false

namespace DataTier

/-- Something worth a line in the log. -/
inductive Event where
  /-- A connection to a Redis server was made. -/
  | redisConnected (shownUrl : String)
  /-- The arguments of a memoized call have no key. -/
  | keyFailed (keyPrefix error : String)
  /-- A memoized call was answered from the cache. -/
  | cacheHit (key : String)
  /-- A memoized call found nothing in the cache. -/
  | cacheMiss (key : String)
  /-- A computed result has no JSON. -/
  | resultNotSerializable (key error : String)
  /-- The cache lives in this process. -/
  | memoryBackendUsed
  /-- No cache could be reached. -/
  | connectFailed (error : String)
  /-- A lookup failed in the backend. -/
  | getFailed (key backend error : String)
  /-- A delete failed in the backend. -/
  | deleteFailed (key backend error : String)
  /-- Stored bytes are no value of the type asked for. -/
  | undecodable (key : String)
  /-- A write failed in the backend. -/
  | setFailed (key : String) (ttl : Duration) (backend error : String)
  /-- A value to be written has no JSON. -/
  | valueNotSerializable (key error : String)
  /-- The backend was told to let go of its connections. -/
  | cacheClosed (backend : String)
  /-- A write in the background has landed. -/
  | writeBackComplete (key : String) (length : Nat) (ttl : Duration)
  /-- No cache is configured. -/
  | noCacheUrl
  /-- The application context has been built. -/
  | contextReady (poolSize : Nat) (backend : Option String)
  /-- The application context has been shut down. -/
  | contextShutDown
  /-- A resource could not be created and will be tried again. -/
  | creationRetried (attempt attempts : Nat) (delay : Duration) (error : String)
  /-- A resource could not be created. -/
  | creationFailed (index size : Nat) (error : String)
  /-- A resource of a pool that was given up could not be closed. -/
  | abortedCloseFailed (error : String)
  /-- An idle resource could not be closed at shutdown. -/
  | pooledCloseFailed (error : String)
  /-- A resource that came back after shutdown could not be closed. -/
  | lateCloseFailed (error : String)
  /-- A pool has been built. -/
  | poolInitialized (size : Nat) (timeout : Duration)
  /-- A resource was handed out. -/
  | acquired (inUse : Nat)
  /-- A resource was given back. -/
  | released
  /-- No resource came back within the bounded wait. -/
  | exhausted (size : Nat) (timeout : Duration)
  /-- A connection to a Postgres server was made. -/
  | postgresOpened (applicationName : String)
  /-- The pool was shut down with resources still handed out. -/
  | shutDownInUse (inUse : Nat)
  /-- The pool was shut down. -/
  | poolShutDown (closed : Nat)
  /-- The worker that shut the pool down failed. -/
  | poolShutdownFailed (error : String)
  deriving DecidableEq

/-- How urgent an event is. -/
inductive Level where
  /-- Of use to a developer. -/
  | debug
  /-- Of use to an operator. -/
  | info
  /-- Something failed and was worked around. -/
  | warn
  /-- Something failed. -/
  | error
  deriving DecidableEq

/-- The name of a level. -/
def Level.name : Level → String
  | .debug => "debug"
  | .info => "info"
  | .warn => "warn"
  | .error => "error"

namespace Event

/-- How urgent an event is. -/
def level : Event → Level
  | redisConnected _ => .info
  | keyFailed _ _ => .warn
  | cacheHit _ => .debug
  | cacheMiss _ => .debug
  | resultNotSerializable _ _ => .warn
  | memoryBackendUsed => .info
  | connectFailed _ => .warn
  | getFailed _ _ _ => .warn
  | deleteFailed _ _ _ => .warn
  | undecodable _ => .warn
  | setFailed _ _ _ _ => .warn
  | valueNotSerializable _ _ => .warn
  | cacheClosed _ => .info
  | writeBackComplete _ _ _ => .debug
  | noCacheUrl => .info
  | contextReady _ _ => .info
  | contextShutDown => .info
  | creationRetried _ _ _ _ => .warn
  | creationFailed _ _ _ => .error
  | abortedCloseFailed _ => .warn
  | pooledCloseFailed _ => .warn
  | lateCloseFailed _ => .warn
  | poolInitialized _ _ => .info
  | acquired _ => .debug
  | released => .debug
  | exhausted _ _ => .warn
  | postgresOpened _ => .debug
  | shutDownInUse _ => .warn
  | poolShutDown _ => .info
  | poolShutdownFailed _ => .error

/-- The sentence that an event is logged with. -/
def message : Event → String
  | redisConnected _ => "redis backend connected"
  | keyFailed _ _ => "cache key derivation failed, bypassing cache"
  | cacheHit _ => "cache hit"
  | cacheMiss _ => "cache miss"
  | resultNotSerializable _ _ => "computed value could not be serialized for caching"
  | memoryBackendUsed => "using in-process cache backend"
  | connectFailed _ => "cache connection failed, cache will be disabled"
  | getFailed _ _ _ => "cache get failed"
  | deleteFailed _ _ _ => "cache delete failed"
  | undecodable _ => "cached value could not be decoded"
  | setFailed _ _ _ _ => "cache set failed"
  | valueNotSerializable _ _ => "value could not be serialized for caching"
  | cacheClosed _ => "cache backend closed"
  | writeBackComplete _ _ _ => "cache write-back complete"
  | noCacheUrl => "no cache URL configured, cache disabled"
  | contextReady _ _ => "application context ready"
  | contextShutDown => "application context shut down"
  | creationRetried _ _ _ _ => "resource creation failed, retrying"
  | creationFailed _ _ _ => "resource creation failed"
  | abortedCloseFailed _ => "failed to close resource of aborted pool"
  | pooledCloseFailed _ => "failed to close pooled resource"
  | lateCloseFailed _ => "failed to close resource released after shutdown"
  | poolInitialized _ _ => "resource pool initialized"
  | acquired _ => "resource acquired"
  | released => "resource released"
  | exhausted _ _ => "resource pool exhausted"
  | postgresOpened _ => "postgres connection opened"
  | shutDownInUse _ => "pool shut down while resources are checked out"
  | poolShutDown _ => "resource pool shut down"
  | poolShutdownFailed _ => "pool shutdown failed"

/-- What an event is about, by field. -/
def fields : Event → List (String × String)
  | redisConnected url => [("url", url)]
  | keyFailed keyPrefix error => [("prefix", keyPrefix), ("error", error)]
  | cacheHit key => [("key", key)]
  | cacheMiss key => [("key", key)]
  | resultNotSerializable key error => [("key", key), ("error", error)]
  | memoryBackendUsed => []
  | connectFailed error => [("error", error)]
  | getFailed key backend error => [("key", key), ("backend", backend), ("error", error)]
  | deleteFailed key backend error => [("key", key), ("backend", backend), ("error", error)]
  | undecodable key => [("key", key)]
  | setFailed key ttl backend error =>
    [("key", key), ("ttl_secs", toString ttl.secs), ("backend", backend), ("error", error)]
  | valueNotSerializable key error => [("key", key), ("error", error)]
  | cacheClosed backend => [("backend", backend)]
  | writeBackComplete key length ttl =>
    [("key", key), ("bytes", toString length), ("ttl_secs", toString ttl.secs)]
  | noCacheUrl => []
  | contextReady poolSize backend =>
    [("pool_size", toString poolSize), ("cache_backend", backend.getD "disabled")]
  | contextShutDown => []
  | creationRetried attempt attempts delay error =>
    [("attempt", toString attempt), ("max_attempts", toString attempts),
      ("retry_delay_ms", toString delay.millisWord), ("error", error)]
  | creationFailed index size error =>
    [("index", toString index), ("size", toString size), ("error", error)]
  | abortedCloseFailed error => [("error", error)]
  | pooledCloseFailed error => [("error", error)]
  | lateCloseFailed error => [("error", error)]
  | poolInitialized size timeout =>
    [("size", toString size), ("acquire_timeout_ms", toString timeout.millisWord)]
  | acquired inUse => [("in_use", toString inUse)]
  | released => []
  | exhausted size timeout =>
    [("size", toString size), ("timeout_ms", toString timeout.millisWord)]
  | postgresOpened applicationName => [("application_name", applicationName)]
  | shutDownInUse inUse => [("in_use", toString inUse)]
  | poolShutDown closed => [("closed", toString closed)]
  | poolShutdownFailed error => [("error", error)]

end Event

end DataTier
