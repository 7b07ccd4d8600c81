/-
**Factories of Postgres connections.**

Main definitions:

* `DataTier.PostgresFactory` — a connection string, and the name that the clients go by;
* `DataTier.PostgresFactory.ofConfig` — the factory that the settings of the data tier ask for;
* `DataTier.PostgresFactory.factory` — the factory over a server.
-/

import DataTier.Config
import DataTier.Error
import DataTier.Pool.Factory
import DataTier.Postgres.ConnectionString
import DataTier.Postgres.Server

set_option relaxedAutoImplicit false
set_option autoImplicit false

namespace DataTier

/-- Makes connections to a Postgres server. -/
structure PostgresFactory where
  /-- The connection string. -/
  url : String
  /-- The name that the clients go by. -/
  applicationName : String := "pooled_cache"
  deriving DecidableEq

namespace PostgresFactory

/-- The factory that the settings of the data tier ask for. -/
def ofConfig (c : Config) : Except PoolError PostgresFactory :=
  match c.postgresUrl with
  | some url => .ok { url }
  | none => .error (.invalidConfig "POSTGRES_URL is not set")

/-- The factory as a developer sees it. -/
def debug (f : PostgresFactory) : String :=
  "PostgresFactory \x7b url: " ++ Quoted.text f.url ++ ", application_name: " ++
    Quoted.text f.applicationName ++ " \x7d"

/-- The settings of the connections: the factory's name goes before one in the string. -/
def settings (f : PostgresFactory) : Except PostgresFault PostgresSettings :=
  (ConnectionString.settings f.url).map fun s =>
    { s with applicationName := some f.applicationName }

/-- One more connection. -/
def connect (f : PostgresFactory) (account : String) (s : PostgresServer) :
    Except PostgresFault PostgresClient × PostgresServer :=
  match f.settings with
  | .error fault => (.error fault, s)
  | .ok settings => s.connect settings account

/-- The factory over a server, for a user who is named by default and connections that take so many
bytes. -/
def factory (f : PostgresFactory) (account : String) (bytes : Nat) :
    Factory PostgresServer PostgresClient where
  bytes := bytes
  create s :=
    match f.connect account s with
    | (.ok client, s) => ⟨.ok client, [.report (.postgresOpened f.applicationName)], s⟩
    | (.error fault, s) => ⟨.failed fault.text, [], s⟩
  close c s := (.ok (), s.disconnect c)
  discard c s := s.disconnect c

end PostgresFactory

end DataTier
