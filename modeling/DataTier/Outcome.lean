/-
Calls that return and calls that break down.

Main definitions:

* `DataTier.Outcome` — a value, or the message of a breakdown.
-/

set_option relaxedAutoImplicit false
set_option autoImplicit false

namespace DataTier

/-- What becomes of a call: a value, or a breakdown. -/
inductive Outcome (α : Type) where
  /-- The call returned. -/
  | done (value : α)
  /-- The call broke down. -/
  | panicked (message : String)
  deriving DecidableEq

end DataTier
