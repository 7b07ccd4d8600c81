/-
**A Redis server and a connection to it.**

The server keeps keys without expiry and answers each command by its script: as it should, with a
given reply that leaves the data alone, not at all, or by closing the connection.  Replies arrive
in the order of their commands, so after a command that is never answered every later one waits
for a reply that is already spoken for, until the connection is closed and made again.

Main definitions:

* `DataTier.RedisCommand` — the commands that a cache sends;
* `DataTier.RedisServer`, `RedisServer.execute` — the server and what it does with a command;
* `DataTier.RedisLink` — a connection, and `RedisLink.backend`, the connection as a cache backend.
-/

import DataTier.Cache.Backend
import DataTier.Redis.Shown
import DataTier.Redis.Wire

set_option relaxedAutoImplicit false
set_option autoImplicit false

namespace DataTier

/-- A command of a cache. -/
inductive RedisCommand where
  /-- Is the server there? -/
  | ping
  /-- The value of a key. -/
  | get (key : String)
  /-- A value for a key, for some seconds. -/
  | setex (key : String) (seconds : Nat) (value : Bytes)
  /-- No value for a key any more. -/
  | del (key : String)
  deriving DecidableEq

/-- The words of a command. -/
def RedisCommand.words : RedisCommand → List Bytes
  | .ping => [Utf8.ofString "PING"]
  | .get key => [Utf8.ofString "GET", Utf8.ofString key]
  | .setex key seconds value =>
    [Utf8.ofString "SETEX", Utf8.ofString key, Utf8.encode (Nat.toDigits 10 seconds), value]
  | .del key => [Utf8.ofString "DEL", Utf8.ofString key]

/-- What a script has the server do with a command. -/
inductive RedisPlay where
  /-- Execute it. -/
  | execute
  /-- Close the connection. -/
  | drop
  /-- Never answer. -/
  | stall
  /-- Answer with these bytes. -/
  | reply (bs : Bytes)

/-- A Redis server. -/
structure RedisServer where
  /-- The values of the keys. -/
  data : List (String × Bytes) := []
  /-- What to do with the next commands; after that they are executed. -/
  script : List RedisPlay := []
  /-- The commands received, the newest last. -/
  commands : List RedisCommand := []

/-- What is heard of the server after a command. -/
inductive Heard where
  /-- A reply. -/
  | reply (w : Wire)
  /-- The end of the connection. -/
  | closed
  /-- Nothing. -/
  | silence

namespace RedisServer

/-- A command executed as it should be. -/
def obey (s : RedisServer) : RedisCommand → Wire × RedisServer
  | .ping => (.simple "PONG", s)
  | .get key =>
    match s.data.lookup key with
    | some value => (.bulk value, s)
    | none => (.nil, s)
  | .setex key _ value => (.okay, { s with data := (key, value) :: s.data.filter (·.1 ≠ key) })
  | .del key =>
    (.int (if (s.data.lookup key).isSome then 1 else 0),
      { s with data := s.data.filter (·.1 ≠ key) })

/-- What the server does with a command.  A reply that is none closes the connection. -/
def execute (s : RedisServer) (command : RedisCommand) : Heard × RedisServer :=
  let play := s.script.headD .execute
  let s := { s with script := s.script.tail, commands := s.commands ++ [command] }
  match play with
  | .execute =>
    let (w, s) := s.obey command
    (.reply w, s)
  | .drop => (.closed, s)
  | .stall => (.silence, s)
  | .reply bs =>
    match Wire.parse? bs with
    | some w => (.reply w, s)
    | none => (.closed, s)

end RedisServer

/-- A connection to a Redis server, made again whenever it has been closed. -/
structure RedisLink where
  /-- The URL it was made with. -/
  url : String
  /-- The server. -/
  server : RedisServer
  /-- Whether a reply is outstanding that nobody waits for. -/
  behind : Bool := false

namespace RedisLink

/-- The name of a Redis server as a cache backend. -/
def backendName : String := "redis"

/-- The failure of a command whose connection was closed. -/
def broken : CacheError := (RedisFault.io "broken pipe").toCacheError

/-- What is reported when the whole seconds of a life span do not fit a word of 64 bits. -/
def overflowMessage : String := "attempt to add with overflow"

/-- Sends a command and takes the reply for what `f` makes of it. -/
def send {α : Type} (l : RedisLink) (command : RedisCommand) (f : Wire → Except RedisFault α) :
    Reply α × RedisLink :=
  let (heard, server) := l.server.execute command
  match heard with
  | .closed => (.answered (.error broken), { l with server, behind := false })
  | .silence => (.stalled, { l with server, behind := true })
  | .reply w =>
    if l.behind then (.stalled, { l with server })
    else (.answered ((f w).mapError RedisFault.toCacheError), { l with server })

/-- Asks whether the server is there. -/
def ping (l : RedisLink) : Reply Unit × RedisLink :=
  l.send .ping fun w => w.text.map fun _ => ()

/-- The connection as a cache backend.  Life spans are sent in whole seconds, rounded up. -/
def backend : Backend RedisLink where
  name _ := backendName
  get _ key l := l.send (.get key) Wire.bytes
  setex _ key ttl value l :=
    match RedisUrl.ttlSeconds? ttl with
    | some seconds => l.send (.setex key seconds value) Wire.acknowledge
    | none => (.panicked overflowMessage, l)
  delete _ key l := l.send (.del key) Wire.acknowledge

end RedisLink

end DataTier
