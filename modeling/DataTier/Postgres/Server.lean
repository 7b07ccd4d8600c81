/-
**A Postgres server and the clients that connect to it.**

The server has one socket.  With each connection it does what its script says, in the order in
which the connections are made: it lets the client in, asks for the password first, refuses, or
hangs up.

Main definitions:

* `DataTier.PostgresServer` — the server and what each connection has sent;
* `DataTier.PostgresClient` — a client that was let in;
* `DataTier.PostgresServer.connect` — a client for settings, or why there is none.
-/

import DataTier.Postgres.Settings
import DataTier.Text.Path

set_option relaxedAutoImplicit false
set_option autoImplicit false

namespace DataTier

/-- What a script has the server do with a connection. -/
inductive PostgresPlay where
  /-- Let the client in. -/
  | accept
  /-- Ask for the password, then let the client in. -/
  | askPassword
  /-- Refuse. -/
  | refuse
  /-- Hang up. -/
  | drop
  deriving DecidableEq

/-- A message of a client. -/
inductive PostgresMessage where
  /-- The client begins, with parameters. -/
  | startup (parameters : List (String × String))
  /-- The password. -/
  | password (bs : Bytes)
  /-- The client ends the connection. -/
  | terminate
  deriving DecidableEq

/-- A Postgres server. -/
structure PostgresServer where
  /-- The directory of its socket. -/
  directory : Bytes
  /-- Its port. -/
  port : Nat := PostgresSettings.defaultPort
  /-- What it does with the connections, in their order; after that it lets clients in. -/
  script : List PostgresPlay := []
  /-- What each connection has sent, in the order of the connections. -/
  connections : List (List PostgresMessage) := []

/-- A client that was let in. -/
structure PostgresClient where
  /-- The number of its connection. -/
  connection : Nat
  /-- Whether the connection has been closed. -/
  isClosed : Bool := false
  deriving DecidableEq

namespace PostgresServer

/-- The server after a message on a connection. -/
def receive (s : PostgresServer) (connection : Nat) (m : PostgresMessage) : PostgresServer :=
  { s with connections := s.connections.modify connection (· ++ [m]) }

/-- Whether the server is at a place. -/
def isAt (s : PostgresServer) (t : PostgresTarget) : Bool :=
  t.port == s.port &&
    match t.directory with
    | some path => Path.isSame path s.directory
    | none => false

/-- The parameters that a client begins with, for a user who is named by default. -/
def parameters (settings : PostgresSettings) (account : String) : List (String × String) :=
  let optional (name : String) (value : Option String) : List (String × String) :=
    value.toList.map fun v => (name, v)
  [("client_encoding", "UTF8"), ("user", settings.user.getD account)]
    ++ optional "database" settings.database ++ optional "options" settings.options
    ++ optional "application_name" settings.applicationName

/-- Whether a text can be sent: the character that ends texts is not in it. -/
def isSendable (s : String) : Bool := !s.toList.contains '\x00'

/-- The password that is sent when the server asks for it. -/
def passwordOf (settings : PostgresSettings) : Except PostgresFault Bytes :=
  if settings.bound then .error .unauthenticated
  else
    match settings.password with
    | none => .error (.invalidSettings "password missing")
    | some bs => if bs.contains 0 then .error .unencodable else .ok bs

/-- A client at work with a server that has taken its connection. -/
def handshake (s : PostgresServer) (settings : PostgresSettings) (account : String) :
    Except PostgresFault PostgresClient × PostgresServer :=
  let number := s.connections.length
  let play := (s.script[number]?).getD .accept
  let s := { s with connections := s.connections ++ [[]] }
  let sent := parameters settings account
  if settings.encrypted then (.error .noEncryption, s)
  else if !sent.all fun (_, value) => isSendable value then (.error .unencodable, s)
  else
    let s := s.receive number (.startup sent)
    match play with
    | .refuse => (.error (.refused "refused"), s)
    | .drop => (.error .closed, s)
    | .accept => (if settings.bound then .error .unauthenticated else .ok ⟨number, false⟩, s)
    | .askPassword =>
      match passwordOf settings with
      | .error fault => (.error fault, s)
      | .ok bs => (.ok ⟨number, false⟩, s.receive number (.password bs))

/-- Places tried in order, until a client is let in; the last fault is reported. -/
def tryAll (settings : PostgresSettings) (account : String) : PostgresFault →
    List PostgresTarget → PostgresServer → Except PostgresFault PostgresClient × PostgresServer
  | fault, [], s => (.error fault, s)
  | _, t :: rest, s =>
    if s.isAt t then
      match s.handshake settings account with
      | (.ok client, s) => (.ok client, s)
      | (.error fault, s) => tryAll settings account fault rest s
    else tryAll settings account .unreachable rest s

/-- A client for settings, or why there is none. -/
def connect (s : PostgresServer) (settings : PostgresSettings) (account : String) :
    Except PostgresFault PostgresClient × PostgresServer :=
  match settings.targets with
  | .error fault => (.error fault, s)
  | .ok targets => tryAll settings account .unreachable targets s

/-- The connection of a client ends. -/
def disconnect (s : PostgresServer) (c : PostgresClient) : PostgresServer :=
  if c.isClosed then s else s.receive c.connection .terminate

end PostgresServer

end DataTier
