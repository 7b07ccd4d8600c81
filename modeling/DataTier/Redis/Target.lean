/-
**Where a Redis URL leads.**

A URL of the schemes `redis` and `rediss` names a host, one of `unix` and `redis+unix` a socket in
the file system.  The first of these faults is reported: the URL is none, the host or the path is
missing, encryption is asked for, the database is no number, the user's name or password is no
text, the protocol is unknown.

Main definitions:

* `DataTier.RedisTarget` — a host, or a socket;
* `DataTier.RedisTarget.ofUrl` — the target of a URL, or the fault it has.
-/

import DataTier.Redis.Fault
import DataTier.Text.Digits
import DataTier.Text.Path
import DataTier.Url.Parts

set_option relaxedAutoImplicit false
set_option autoImplicit false

namespace DataTier

/-- Where a Redis URL leads. -/
inductive RedisTarget where
  /-- To a host. -/
  | host (name : List Char)
  /-- To a socket in the file system. -/
  | socket (path : Bytes)
  deriving DecidableEq

namespace RedisTarget

/-- A fault of the URL. -/
def invalid (description : String) (detail : Option String := none) : RedisFault :=
  .described "InvalidClientConfig" description detail

/-- The last value of a name. -/
def lastOf? (name : String) (pairs : List (String × String)) : Option String :=
  List.lookup name pairs.reverse

/-- Refuses a protocol that is unknown. -/
def checkProtocol (pairs : List (String × String)) : Except RedisFault Unit :=
  match lastOf? "protocol" pairs with
  | none => .ok ()
  | some p =>
    if p = "2" ∨ p = "resp2" ∨ p = "3" ∨ p = "resp3" then .ok ()
    else .error (invalid "Invalid protocol version" (some p))

/-- Refuses escapes that spell no text. -/
def checkText (cs : List Char) (description : String) : Except RedisFault Unit :=
  match Utf8.text? (Percent.decode (Utf8.encode cs)) with
  | some _ => .ok ()
  | none => .error (invalid description)

/-- The text of a path. -/
def pathText : UrlPath → List Char
  | .opaqueText cs => cs
  | .segments parts => parts.flatMap ('/' :: ·)

/-- The target of a URL with a host. -/
def ofHost (u : UrlParts) (encrypted : Bool) : Except RedisFault RedisTarget := do
  let name ← match u.host with
    | some name => .ok name
    | none => .error (invalid "Missing hostname")
  if encrypted then .error (invalid "can't connect with TLS, the feature is not enabled")
  let database := Chars.trim (· == '/') (pathText u.path)
  if !database.isEmpty && !Digits.isInteger database then .error (invalid "Invalid database number")
  checkText u.username "Username is not valid UTF-8 string"
  checkText (u.password.getD []) "Password is not valid UTF-8 string"
  checkProtocol (Percent.query (u.query.getD []))
  return .host name

/-- The target of a URL with a path in the file system. -/
def ofSocket (u : UrlParts) : Except RedisFault RedisTarget := do
  let pairs := Percent.query (u.query.getD [])
  let path ← match u.host.filter (· ≠ "localhost".toList), u.path with
    | none, .segments parts =>
      .ok (parts.flatMap fun part => 0x2F :: Percent.decode (Utf8.encode part))
    | _, _ => .error (invalid "Missing path")
  match lastOf? "db" pairs with
  | some db => if !Digits.isInteger db.toList then .error (invalid "Invalid database number")
  | none => .ok ()
  checkProtocol pairs
  return .socket path

/-- The target of a URL. -/
def ofUrl (url : String) : Except RedisFault RedisTarget :=
  match UrlParts.ofText? url with
  | none => .error (invalid "Redis URL did not parse")
  | some u =>
    match String.ofList u.scheme with
    | "redis" => ofHost u false
    | "rediss" => ofHost u true
    | "unix" => ofSocket u
    | "redis+unix" => ofSocket u
    | _ => .error (invalid "Redis URL did not parse")

/-- Whether a socket is the one at a path: a path that ends in a slash leads to no socket. -/
def leadsTo (path : Bytes) : RedisTarget → Bool
  | .host _ => false
  | .socket p => p.getLast? != some 0x2F && Path.isSame p path

end RedisTarget

end DataTier
