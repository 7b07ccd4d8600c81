/-
**Configuration from variables.**

Each setting has a variable of its own.  A number is taken from its variable when the text is an
optional plus sign and ASCII digits, blanks around them apart, and its value fits the setting's
width; a text is taken as it stands when it holds a character that is not blank.  Otherwise the
setting keeps its default, so no variable can make the configuration fail.

A process finds bytes in its environment; a variable whose bytes are no text counts as unset.

Main definitions:

* `DataTier.Config` — the settings, with their defaults;
* `DataTier.Config.ofVariables` — the settings that variables ask for;
* `DataTier.Config.ofEnvironment` — the settings that the environment of a process asks for.
-/

import DataTier.Duration
import DataTier.Text.Blank
import DataTier.Text.Digits
import DataTier.Text.Quoted
import DataTier.Text.Utf8
import DataTier.Word

set_option relaxedAutoImplicit false
set_option autoImplicit false

namespace DataTier

/-- The settings of the pool and the cache. -/
structure Config where
  /-- How many resources the pool holds; a word of 64 bits. -/
  poolSize : Nat := 4
  /-- The bounded wait for a resource, in milliseconds. -/
  acquireTimeoutMs : Nat := 5000
  /-- Where the embedded database lives. -/
  duckdbDatabase : String := ":memory:"
  /-- Where the Postgres server is, if there is one. -/
  postgresUrl : Option String := none
  /-- How often the creation of a resource is attempted; a word of 32 bits. -/
  createRetries : Nat := 5
  /-- Where the cache is, if there is one. -/
  cacheUrl : Option String := none
  /-- How long a cached result lives, in seconds. -/
  cacheDefaultTtl : Nat := 300
  /-- How long one cache operation may take, in milliseconds. -/
  cacheOpTimeoutMs : Nat := 5000
  deriving DecidableEq

namespace Config

/-- The text of each variable that is set to text. -/
abbrev Variables := String → Option String

/-- The number below `bound` that a variable holds, blanks around it apart. -/
def number? (vars : Variables) (name : String) (bound : Nat) : Option Nat :=
  (vars name).bind fun text => Digits.below? bound (Blank.trim text.toList)

/-- The text that a variable holds, unless it is blank. -/
def text? (vars : Variables) (name : String) : Option String :=
  (vars name).filter fun text => !text.toList.all Blank.isBlank

/-- The settings that the variables ask for. -/
def ofVariables (vars : Variables) : Config :=
  let defaults : Config := {}
  { poolSize := (number? vars "POOL_SIZE" Word.size).getD defaults.poolSize
    acquireTimeoutMs :=
      (number? vars "POOL_ACQUIRE_TIMEOUT_MS" Word.size).getD defaults.acquireTimeoutMs
    duckdbDatabase := (text? vars "DUCKDB_DATABASE").getD defaults.duckdbDatabase
    postgresUrl := text? vars "POSTGRES_URL"
    createRetries := (number? vars "POOL_CREATE_RETRIES" Word.size32).getD defaults.createRetries
    cacheUrl := text? vars "VALKEY_URL"
    cacheDefaultTtl := (number? vars "CACHE_DEFAULT_TTL" Word.size).getD defaults.cacheDefaultTtl
    cacheOpTimeoutMs :=
      (number? vars "CACHE_OP_TIMEOUT_MS" Word.size).getD defaults.cacheOpTimeoutMs }

/-- The bytes of each variable that is set. -/
abbrev Environment := String → Option Bytes

/-- The text of each variable that is set to text. -/
def Environment.texts (env : Environment) : Variables := fun name =>
  (env name).bind Utf8.text?

/-- The settings that an environment asks for. -/
def ofEnvironment (env : Environment) : Config := ofVariables env.texts

/-- The bounded wait for a resource. -/
def acquireTimeout (c : Config) : Duration := .ofMillis c.acquireTimeoutMs

/-- How long one cache operation may take. -/
def cacheOpTimeout (c : Config) : Duration := .ofMillis c.cacheOpTimeoutMs

/-- How long a cached result lives. -/
def cacheTtl (c : Config) : Duration := .ofSecs c.cacheDefaultTtl

/-- The settings as a developer sees them. -/
def debug (c : Config) : String :=
  "Config \x7b pool_size: " ++ toString c.poolSize ++
  ", acquire_timeout_ms: " ++ toString c.acquireTimeoutMs ++
  ", duckdb_database: " ++ Quoted.text c.duckdbDatabase ++
  ", postgres_url: " ++ Quoted.optional c.postgresUrl ++
  ", create_retries: " ++ toString c.createRetries ++
  ", cache_url: " ++ Quoted.optional c.cacheUrl ++
  ", cache_default_ttl: " ++ toString c.cacheDefaultTtl ++
  ", cache_op_timeout_ms: " ++ toString c.cacheOpTimeoutMs ++ " \x7d"

end Config

end DataTier
