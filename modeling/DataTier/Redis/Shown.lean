/-
Redis URLs as they are accepted and as they are shown.

Main definitions:

* `DataTier.RedisUrl.normalize` — the Valkey schemes as the Redis ones;
* `DataTier.RedisUrl.redact` — a URL without the user information between its scheme and its host;
* `DataTier.RedisUrl.ttlSeconds` — a life span in whole seconds, rounded up and never zero.
-/

import DataTier.Duration
import DataTier.Text.Chars

set_option relaxedAutoImplicit false
set_option autoImplicit false

namespace DataTier.RedisUrl

/-- A URL of a Valkey scheme under the Redis scheme; any other URL as it is. -/
def normalizeChars (url : List Char) : List Char :=
  match Chars.strip? "valkeys://".toList url with
  | some rest => "rediss://".toList ++ rest
  | none =>
    match Chars.strip? "valkey://".toList url with
    | some rest => "redis://".toList ++ rest
    | none => url

/-- A URL of a Valkey scheme under the Redis scheme; any other URL as it is. -/
def normalize (url : String) : String := String.ofList (normalizeChars url.toList)

/-- What stands before and after the first `://`. -/
def splitScheme? : List Char → Option (List Char × List Char)
  | [] => none
  | ':' :: '/' :: '/' :: rest => some ([], rest)
  | c :: rest => (splitScheme? rest).map fun (scheme, rest) => (c :: scheme, rest)

/-- What stands after the last `@`. -/
def afterLastAt? : List Char → Option (List Char)
  | [] => none
  | c :: rest =>
    match afterLastAt? rest with
    | some host => some host
    | none => if c = '@' then some rest else none

/-- A URL with three stars in place of all between the first `://` and the last `@` after it. -/
def redactChars (url : List Char) : List Char :=
  match splitScheme? url with
  | none => url
  | some (scheme, rest) =>
    match afterLastAt? rest with
    | none => url
    | some host => scheme ++ "://***@".toList ++ host

/-- A URL with three stars in place of all between the first `://` and the last `@` after it. -/
def redact (url : String) : String := String.ofList (redactChars url.toList)

/-- A life span in whole seconds, rounded up and at least one; none when the round-up does not fit
a word of 64 bits. -/
def ttlSeconds? (ttl : Duration) : Option Nat :=
  let secs := ttl.secs + (if ttl.subsecNanos = 0 then 0 else 1)
  if secs < Word.size then some (max secs 1) else none

end DataTier.RedisUrl
