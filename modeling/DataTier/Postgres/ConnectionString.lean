/-
**Connection strings of Postgres.**

A connection string is a URL, or keywords with their values and blanks between them.  A value with
blanks in it stands between single quotes, and a backslash takes the meaning off the character
after it.  What follows a keyword of no characters is not read.

Main definitions:

* `DataTier.ConnectionString.settings` — the settings that a connection string stands for;
* `DataTier.ConnectionString.ofKeywords`, `ofUrl` — the two forms.
-/

import DataTier.Postgres.Settings
import DataTier.Text.Blank
import DataTier.Text.Quoted

set_option relaxedAutoImplicit false
set_option autoImplicit false

namespace DataTier.ConnectionString

open PostgresSettings (invalidValue)

/-- The end of a string in the middle of a keyword or a value. -/
def cutShort : PostgresFault := .invalidString "unexpected EOF"

/-! ### Keywords and values -/

/-- A value up to the next blank, and what stands after it. -/
def bareValue : List Char → List Char × List Char
  | '\\' :: c :: rest =>
    let (value, rest) := bareValue rest
    (c :: value, rest)
  | ['\\'] => ([], [])
  | c :: rest =>
    if Blank.isBlank c then ([], c :: rest)
    else
      let (value, rest) := bareValue rest
      (c :: value, rest)
  | [] => ([], [])

/-- A value up to a single quote, and what stands after the quote. -/
def quotedValue? : List Char → Option (List Char × List Char)
  | '\'' :: rest => some ([], rest)
  | '\\' :: c :: rest => (quotedValue? rest).map fun (value, rest) => (c :: value, rest)
  | c :: rest => (quotedValue? rest).map fun (value, rest) => (c :: value, rest)
  | [] => none

/-- A value, and what stands after it. -/
def value? : List Char → Except PostgresFault (List Char × List Char)
  | '\'' :: rest =>
    match quotedValue? rest with
    | some found => .ok found
    | none => .error (.invalidString "unterminated quoted connection parameter value")
  | cs =>
    match bareValue cs with
    | ([], _) => .error cutShort
    | found => .ok found

/-- The keywords of a string with their values; each of them takes a character at least. -/
def pairs : Nat → List Char → Except PostgresFault (List (String × String))
  | 0, _ => .ok []
  | fuel + 1, cs => do
    let cs := cs.dropWhile Blank.isBlank
    let inKey (c : Char) : Bool := !Blank.isBlank c && c != '='
    let key := cs.takeWhile inKey
    if key.isEmpty then return []
    match (cs.dropWhile inKey).dropWhile Blank.isBlank with
    | '=' :: rest =>
      let (value, rest) ← value? (rest.dropWhile Blank.isBlank)
      let more ← pairs fuel rest
      return (String.ofList key, String.ofList value) :: more
    | [] => .error cutShort
    | c :: _ =>
      .error (.invalidString ("expected '=' but got " ++ Quoted.text (String.singleton c)))

/-- The settings that keywords with their values stand for. -/
def ofKeywords (cs : List Char) : Except PostgresFault PostgresSettings := do
  let found ← pairs (cs.length + 1) cs
  found.foldlM (fun s (key, value) => s.set key value) {}

/-! ### URLs -/

/-- The text of a part of a URL, its escapes read. -/
def unescape (cs : List Char) : Except PostgresFault String :=
  match Utf8.text? (Percent.decode (Utf8.encode cs)) with
  | some s => .ok s
  | none => .error (.invalidString "invalid utf-8 sequence")

/-- The settings with one more host. -/
def addHost (s : PostgresSettings) (cs : List Char) : Except PostgresFault PostgresSettings := do
  let bs := Percent.decode (Utf8.encode cs)
  if bs.head? = some 0x2F then return { s with hosts := s.hosts ++ [.directory bs] }
  let name ← unescape cs
  return { s with hosts := s.hosts ++ [.name name] }

/-- A host with its port, none without one; a host in brackets may hold colons. -/
def hostAndPort : List Char → Except PostgresFault (List Char × Option (List Char))
  | '[' :: rest =>
    match Chars.cut ']' rest with
    | (host, some []) => .ok (host, none)
    | (host, some (':' :: port)) => .ok (host, some port)
    | _ => .error (invalidValue "host")
  | cs => .ok (Chars.cut ':' cs)

/-- The settings with one more host and its port. -/
def addHostAndPort (s : PostgresSettings) (cs : List Char) :
    Except PostgresFault PostgresSettings := do
  let (host, port) ← hostAndPort cs
  let s ← addHost s host
  let port ← match port with
    | some port => unescape port
    | none => .ok (toString PostgresSettings.defaultPort)
  s.set "port" port

/-- The settings with the user and the password before the first `@`. -/
def addCredentials (s : PostgresSettings) (cs : List Char) :
    Except PostgresFault PostgresSettings := do
  let (user, password) := Chars.cut ':' cs
  let user ← unescape user
  let password := password.map fun cs => Percent.decode (Utf8.encode cs)
  return { s with user := some user, password := password.orElse fun _ => s.password }

/-- The settings with the parameters of a query; each of them takes a character at least. -/
def addParameters : Nat → PostgresSettings → List Char → Except PostgresFault PostgresSettings
  | 0, s, _ => .ok s
  | _, s, [] => .ok s
  | fuel + 1, s, cs =>
    match Chars.cut '=' cs with
    | (_, none) => .error (.invalidString "unterminated parameter")
    | (key, some rest) => do
      let key ← unescape key
      let (value, rest) := Chars.cut '&' rest
      let s ← if key = "host" then addHost s value else do s.set key (← unescape value)
      addParameters fuel s (rest.getD [])

/-- The settings that a URL without its scheme stands for. -/
def ofUrl (cs : List Char) : Except PostgresFault PostgresSettings := do
  let (s, cs) ← match Chars.cut '@' cs with
    | (_, none) => .ok (({} : PostgresSettings), cs)
    | (credentials, some rest) => do .ok (← addCredentials {} credentials, rest)
  let inHosts (c : Char) : Bool := c != '/' && c != '?'
  let hosts := cs.takeWhile inHosts
  let s ← (if hosts.isEmpty then [] else Chars.splitOn ',' hosts).foldlM addHostAndPort s
  let (path, query) := Chars.cut '?' (cs.dropWhile inHosts)
  let s ← match path with
    | '/' :: c :: name => do .ok { s with database := some (← unescape (c :: name)) }
    | _ => .ok s
  let query := query.getD []
  addParameters (query.length + 1) s query

/-! ### Both forms -/

/-- The settings that a connection string stands for. -/
def settings (text : String) : Except PostgresFault PostgresSettings :=
  let cs := text.toList
  match (Chars.strip? "postgres://".toList cs).orElse fun _ =>
      Chars.strip? "postgresql://".toList cs with
  | some rest => ofUrl rest
  | none => ofKeywords cs

end DataTier.ConnectionString
