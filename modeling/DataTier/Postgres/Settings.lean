/-
**The settings of a Postgres connection.**

A setting is a keyword with a text.  Hosts, addresses and ports are lists; several keywords of
them add up, any other keyword replaces what it said before.  The order of hosts is the order in
which they are tried.

Main definitions:

* `DataTier.PostgresSettings` — the settings;
* `DataTier.PostgresSettings.set` — one more keyword;
* `DataTier.PostgresSettings.targets` — the places that are tried, in order.
-/

import DataTier.Postgres.Fault
import DataTier.Url.Parts

set_option relaxedAutoImplicit false
set_option autoImplicit false

namespace DataTier

/-- A host of a Postgres server. -/
inductive PostgresHost where
  /-- A name or an address in the network. -/
  | name (text : String)
  /-- A directory that holds the server's socket. -/
  | directory (path : Bytes)
  deriving DecidableEq

/-- The settings of a Postgres connection. -/
structure PostgresSettings where
  /-- The name of the user. -/
  user : Option String := none
  /-- The password. -/
  password : Option Bytes := none
  /-- The name of the database. -/
  database : Option String := none
  /-- Options for the server. -/
  options : Option String := none
  /-- The name that the client goes by. -/
  applicationName : Option String := none
  /-- The hosts. -/
  hosts : List PostgresHost := []
  /-- Addresses that stand for the hosts. -/
  addresses : List String := []
  /-- The ports. -/
  ports : List Nat := []
  /-- Whether the connection has to be encrypted. -/
  encrypted : Bool := false
  /-- Whether the server has to prove that it is the one at the other end. -/
  bound : Bool := false
  deriving DecidableEq

/-- A place where a Postgres server may be. -/
structure PostgresTarget where
  /-- The directory of its socket, none for a place in the network. -/
  directory : Option Bytes
  /-- Its port. -/
  port : Nat
  deriving DecidableEq

namespace PostgresSettings

/-- The port of a server that has none of its own. -/
def defaultPort : Nat := 5432

/-- A value that its keyword does not take. -/
def invalidValue (key : String) : PostgresFault :=
  .invalidString ("invalid value for option " ++ "\x60" ++ key ++ "\x60")

/-- The host that a text names: one that begins with a slash is a directory. -/
def hostOf (cs : List Char) : PostgresHost :=
  if cs.head? = some '/' then .directory (Utf8.encode cs) else .name (String.ofList cs)

/-- The port that a text names. -/
def portOf? (cs : List Char) : Option Nat :=
  if cs.isEmpty then some defaultPort else Digits.below? Word.size16 cs

/-- Whether a text is an address in the network. -/
def isAddress (cs : List Char) : Bool := UrlParts.isIpv4 cs || UrlParts.isIpv6 cs

/-- What the value of a keyword that takes one of several words or a number has to be; none for
any other keyword. -/
def check? (key : String) : Option (List Char → Bool) :=
  let among (words : List String) (cs : List Char) : Bool := words.contains (String.ofList cs)
  let below (bound : Nat) (cs : List Char) : Bool := (Digits.below? bound cs).isSome
  match key with
  | "sslmode" => some (among ["disable", "prefer", "require"])
  | "sslnegotiation" => some (among ["postgres", "direct"])
  | "target_session_attrs" => some (among ["any", "read-write", "read-only"])
  | "channel_binding" => some (among ["disable", "prefer", "require"])
  | "load_balance_hosts" => some (among ["disable", "random"])
  | "connect_timeout" => some Digits.isInteger
  | "tcp_user_timeout" => some Digits.isInteger
  | "keepalives" => some (below Word.size)
  | "keepalives_idle" => some Digits.isInteger
  | "keepalives_interval" => some Digits.isInteger
  | "keepalives_retries" => some (below Word.size32)
  | _ => none

/-- One more keyword. -/
def set (s : PostgresSettings) (key value : String) : Except PostgresFault PostgresSettings :=
  let cs := value.toList
  let parts := Chars.splitOn ',' cs
  let invalid := invalidValue key
  match key with
  | "user" => .ok { s with user := some value }
  | "password" => .ok { s with password := some (Utf8.encode cs) }
  | "dbname" => .ok { s with database := some value }
  | "options" => .ok { s with options := some value }
  | "application_name" => .ok { s with applicationName := some value }
  | "host" => .ok { s with hosts := s.hosts ++ parts.map hostOf }
  | "hostaddr" =>
    if parts.all isAddress then .ok { s with addresses := s.addresses ++ parts.map String.ofList }
    else .error invalid
  | "port" =>
    match parts.mapM portOf? with
    | some ports => .ok { s with ports := s.ports ++ ports }
    | none => .error invalid
  | _ =>
    match check? key with
    | none => .error (.invalidString ("unknown option " ++ "\x60" ++ key ++ "\x60"))
    | some accepts =>
      if accepts cs then
        .ok { s with
          encrypted := if key = "sslmode" then value = "require" else s.encrypted
          bound := if key = "channel_binding" then value = "require" else s.bound }
      else .error invalid

/-- The place of the host of an index: an address goes before the host's name. -/
def target (s : PostgresSettings) (i : Nat) : PostgresTarget where
  directory :=
    match s.addresses[i]?, s.hosts[i]? with
    | none, some (.directory path) => some path
    | _, _ => none
  port := ((s.ports[i]?).orElse fun _ => s.ports.head?).getD defaultPort

/-- The places that are tried, in order. -/
def targets (s : PostgresSettings) : Except PostgresFault (List PostgresTarget) :=
  let hosts := s.hosts.length
  let addresses := s.addresses.length
  let places := max hosts addresses
  if places = 0 then .error (.invalidSettings "both host and hostaddr are missing")
  else if hosts ≠ 0 ∧ addresses ≠ 0 ∧ hosts ≠ addresses then
    .error (.invalidSettings ("number of hosts (" ++ toString hosts ++
      ") is different from number of hostaddrs (" ++ toString addresses ++ ")"))
  else if 1 < s.ports.length ∧ s.ports.length ≠ places then
    .error (.invalidSettings "invalid number of ports")
  else .ok ((List.range places).map s.target)

end PostgresSettings

end DataTier
