/-
What can go wrong, and how it is worded.

Main definitions:

* `DataTier.CacheError` — why a cache backend did not do its work;
* `DataTier.PoolError` — why the pool did not hand out a resource;
* `DataTier.PoolError.response` — the answer of a web service to a pool error.
-/

import DataTier.Duration
import DataTier.Json.Printer
import DataTier.Text.Quoted

set_option relaxedAutoImplicit false
set_option autoImplicit false

namespace DataTier

/-! ### Cache errors -/

/-- Why a cache backend did not do its work. -/
inductive CacheError where
  /-- It cannot be reached. -/
  | unavailable (text : String)
  /-- It did not answer within the span. -/
  | timeout (after : Duration)
  /-- A value or the arguments have no JSON. -/
  | serialization (text : String)
  /-- It refused. -/
  | backend (text : String)
  deriving DecidableEq

namespace CacheError

/-- The name of the kind of error. -/
def kind : CacheError → String
  | .unavailable _ => "Unavailable"
  | .timeout _ => "Timeout"
  | .serialization _ => "Serialization"
  | .backend _ => "Backend"

/-- The wording of the error. -/
def message : CacheError → String
  | .unavailable text => "Cache unavailable: " ++ text
  | .timeout after => "Cache operation timed out after " ++ after.text
  | .serialization text => "Serialization error: " ++ text
  | .backend text => "Backend error: " ++ text

/-- The error as a developer sees it: the kind and what it holds. -/
def debug : CacheError → String
  | .timeout after => "Timeout(" ++ after.text ++ ")"
  | .unavailable text => "Unavailable(" ++ Quoted.text text ++ ")"
  | .serialization text => "Serialization(" ++ Quoted.text text ++ ")"
  | .backend text => "Backend(" ++ Quoted.text text ++ ")"

end CacheError

/-! ### Pool errors -/

/-- Why the pool did not hand out a resource, or could not be built. -/
inductive PoolError where
  /-- There is no pool. -/
  | notInitialized (text : String)
  /-- No resource came back within the bounded wait. -/
  | exhausted (timeout : Duration)
  /-- The resource of this index could not be created. -/
  | resourceCreation (index : Nat) (source : String)
  /-- The parameters of the pool make no pool. -/
  | invalidConfig (text : String)
  /-- The pool has been shut down. -/
  | closed
  /-- The worker that ran for the caller failed. -/
  | workerFailed (text : String)
  deriving DecidableEq

namespace PoolError

/-- The name of the kind of error. -/
def kind : PoolError → String
  | .notInitialized _ => "NotInitialized"
  | .exhausted _ => "Exhausted"
  | .resourceCreation _ _ => "ResourceCreation"
  | .invalidConfig _ => "InvalidConfig"
  | .closed => "Closed"
  | .workerFailed _ => "WorkerFailed"

/-- The wording of the error. -/
def message : PoolError → String
  | .notInitialized text => "Pool not initialized: " ++ text
  | .exhausted timeout =>
    "Connection pool exhausted - no connections available after " ++ timeout.text
  | .resourceCreation index source =>
    "Failed to create resource #" ++ toString index ++ ": " ++ source
  | .invalidConfig text => "Invalid pool configuration: " ++ text
  | .closed => "Pool is shut down"
  | .workerFailed text => "Pool worker failed: " ++ text

/-- The error as a developer sees it: the kind and what it holds. -/
def debug : PoolError → String
  | .notInitialized text => "NotInitialized(" ++ Quoted.text text ++ ")"
  | .exhausted timeout => "Exhausted \x7b timeout: " ++ timeout.text ++ " \x7d"
  | .resourceCreation index source =>
    "ResourceCreation \x7b index: " ++ toString index ++ ", source: " ++ Quoted.text source ++
      " \x7d"
  | .invalidConfig text => "InvalidConfig(" ++ Quoted.text text ++ ")"
  | .closed => "Closed"
  | .workerFailed text => "WorkerFailed(" ++ Quoted.text text ++ ")"

/-- Whether the same request may succeed later. -/
def isTransient : PoolError → Bool
  | .exhausted _ => true
  | _ => false

/-- The error that this one was caused by. -/
def source? : PoolError → Option String
  | .resourceCreation _ source => some source
  | _ => none

/-- An answer over HTTP. -/
structure Response where
  /-- The status code. -/
  status : Nat
  /-- The media type of the body. -/
  contentType : String
  /-- The body. -/
  body : String

/-- The answer to a request that a pool error stopped: the service is unavailable when the pool has
nothing to give, any other error is its own. -/
def response (e : PoolError) : Response where
  status :=
    match e with
    | .exhausted _ => 503
    | .closed => 503
    | _ => 500
  contentType := "application/json"
  body := (Json.object [("error", .string e.message), ("retryable", .bool e.isTransient)]).text

end PoolError

end DataTier
