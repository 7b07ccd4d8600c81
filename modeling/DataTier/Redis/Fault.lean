/-
What a Redis connection reports when it fails.

Main definitions:

* `DataTier.RedisFault` — a failure with its kind, its description and a detail;
* `DataTier.RedisFault.text` — its wording;
* `DataTier.RedisFault.toCacheError` — the failure as the cache client sees it.
-/

import DataTier.Error

set_option relaxedAutoImplicit false
set_option autoImplicit false

namespace DataTier

/-- A failure of a Redis connection. -/
inductive RedisFault where
  /-- The connection itself failed. -/
  | io (text : String)
  /-- A failure of a kind, with a description and possibly a detail. -/
  | described (kind description : String) (detail : Option String)
  /-- An error of the server of a code that has no kind. -/
  | server (code : String) (detail : Option String)
  deriving DecidableEq

namespace RedisFault

/-- The wording of a failure. -/
def text : RedisFault → String
  | .io text => text
  | .described kind description none => description ++ "- " ++ kind
  | .described kind description (some detail) => description ++ " - " ++ kind ++ ": " ++ detail
  | .server code none => code
  | .server code (some detail) => code ++ ": " ++ detail

/-- The failure as the cache client sees it: whatever concerns the connection makes the cache
unavailable, anything else is the backend's. -/
def toCacheError (f : RedisFault) : CacheError :=
  match f with
  | .io text => .unavailable text
  | .described "IoError" _ _ => .unavailable f.text
  | _ => .backend f.text

end RedisFault

end DataTier
