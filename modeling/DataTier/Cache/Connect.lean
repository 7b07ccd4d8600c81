/-
**From a URL to a cache client.**

One URL stands for a store in this process, every other one for a Redis server, which is asked
whether it is there.  When it cannot be reached within the timeout of one operation the client
starts without a backend: that is logged and never an error.

Main definitions:

* `DataTier.CacheHost` — the state of whatever backend a client was connected to;
* `DataTier.Network` — the server that a target leads to, if any;
* `DataTier.RedisLink.connect` — a connection, or why there is none;
* `DataTier.Client.connect` — a client for a URL.
-/

import DataTier.Cache.Client
import DataTier.Redis.Link
import DataTier.Redis.Target

set_option relaxedAutoImplicit false
set_option autoImplicit false

namespace DataTier

/-- The URL of a store in this process. -/
def memoryUrl : String := "memory://"

/-- The state of the backend that a client was connected to. -/
inductive CacheHost where
  /-- None. -/
  | nowhere
  /-- A store in this process. -/
  | memory (s : Store)
  /-- A Redis server. -/
  | redis (l : RedisLink)

namespace CacheHost

/-- What becomes of a request to a host that is none. -/
def absent {α : Type} : Reply α := .answered (.error (.unavailable "no backend"))

/-- A request that is answered by a store, with the store after it. -/
def ofStore {α : Type} (r : Reply α × Store) : Reply α × CacheHost := (r.1, .memory r.2)

/-- A request that is answered over a connection, with the connection after it. -/
def ofLink {α : Type} (r : Reply α × RedisLink) : Reply α × CacheHost := (r.1, .redis r.2)

/-- Any host as a cache backend. -/
def backend : Backend CacheHost where
  name
    | .memory s => Store.backend.name s
    | .redis l => RedisLink.backend.name l
    | .nowhere => ""
  get now key
    | .memory s => ofStore (Store.backend.get now key s)
    | .redis l => ofLink (RedisLink.backend.get now key l)
    | .nowhere => (absent, .nowhere)
  setex now key ttl value
    | .memory s => ofStore (Store.backend.setex now key ttl value s)
    | .redis l => ofLink (RedisLink.backend.setex now key ttl value l)
    | .nowhere => (absent, .nowhere)
  delete now key
    | .memory s => ofStore (Store.backend.delete now key s)
    | .redis l => ofLink (RedisLink.backend.delete now key l)
    | .nowhere => (absent, .nowhere)
  close
    | .memory s => .memory (Store.backend.close s)
    | .redis l => .redis (RedisLink.backend.close l)
    | .nowhere => .nowhere

/-- The commands that a server has received. -/
def commands : CacheHost → List RedisCommand
  | .redis l => l.server.commands
  | _ => []

/-- The host with the commands received so far forgotten. -/
def forgetCommands : CacheHost → CacheHost
  | .redis l => .redis { l with server := { l.server with commands := [] } }
  | host => host

end CacheHost

/-- The server that a target leads to, if any. -/
abbrev Network := RedisTarget → Option RedisServer

/-- Why there is no connection. -/
inductive ConnectFault where
  /-- The URL has a fault. -/
  | invalid (f : RedisFault)
  /-- Nobody answers there, however often it is tried. -/
  | unreachable

namespace RedisLink

/-- A connection for a URL. -/
def connect (net : Network) (url : String) : Except ConnectFault RedisLink :=
  let url := RedisUrl.normalize url
  match RedisTarget.ofUrl url with
  | .error f => .error (.invalid f)
  | .ok target =>
    match net target with
    | none => .error .unreachable
    | some server => .ok { url, server }

end RedisLink

namespace Client

/-- A client without a backend, for a reason that is logged. -/
def withoutBackend (host : CacheHost) (log : List Event) (e : CacheError) : Client CacheHost :=
  { disabled host with log := log ++ [.connectFailed e.message] }

/-- A client for a URL. -/
def connect (net : Network) (url : String) (opTimeout : Duration) : Client CacheHost :=
  if url = memoryUrl then
    { ofBackend CacheHost.backend (.memory .empty) opTimeout with log := [.memoryBackendUsed] }
  else
    match RedisLink.connect net url with
    | .error (.invalid f) => withoutBackend .nowhere [] f.toCacheError
    | .error .unreachable => withoutBackend .nowhere [] (.timeout opTimeout)
    | .ok link =>
      let log := [Event.redisConnected (RedisUrl.redact link.url)]
      match link.ping with
      | (.answered (.ok ()), link) =>
        { ofBackend CacheHost.backend (.redis link) opTimeout with log }
      | (.answered (.error e), link) => withoutBackend (.redis link) log e
      | (_, link) => withoutBackend (.redis link) log (.timeout opTimeout)

end Client

end DataTier
