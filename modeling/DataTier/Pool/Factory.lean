/-
**Factories of pooled resources.**

A factory creates and closes resources; either may fail or break down, and what happens next may
depend on what happened before.  A retrying factory tries a failed creation again, a bounded
number of times, and waits twice as long before each new attempt.

Main definitions:

* `DataTier.Attempt` — what an attempt came to;
* `DataTier.Factory` — creation and closing, over states of type `σ`;
* `DataTier.Factory.retrying` — a factory that tries again;
* `DataTier.Factory.closeAll` — closes resources one after the other.
-/

import DataTier.Event
import DataTier.Outcome

set_option relaxedAutoImplicit false
set_option autoImplicit false

namespace DataTier

/-- What an attempt came to. -/
inductive Attempt (α : Type) where
  /-- It succeeded. -/
  | ok (x : α)
  /-- It failed. -/
  | failed (error : String)
  /-- It broke down. -/
  | panicked (message : String)
  deriving DecidableEq

/-- What a creation does besides creating. -/
inductive Effect where
  /-- It reports something. -/
  | report (e : Event)
  /-- It waits. -/
  | sleep (d : Duration)
  deriving DecidableEq

/-- The event that an effect reports. -/
def Effect.event? : Effect → Option Event
  | .report e => some e
  | .sleep _ => none

/-- A creation: its result, what it did on the way, and the factory's state after it. -/
structure Creation (σ R : Type) where
  /-- What it came to. -/
  result : Attempt R
  /-- What it did on the way. -/
  effects : List Effect
  /-- The state after it. -/
  state : σ

/-- Creates and closes resources of type `R`. -/
structure Factory (σ R : Type) where
  /-- How many bytes a resource takes. -/
  bytes : Nat
  /-- Creates a resource. -/
  create : σ → Creation σ R
  /-- Closes a resource. -/
  close : R → σ → Attempt Unit × σ
  /-- Lets go of a resource without closing it. -/
  discard : R → σ → σ := fun _ s => s

namespace Factory

variable {σ R : Type}

/-- A creation tried again up to `left` times after a failure, the attempts so far counted and the
wait before the next one given. -/
def retry (f : Factory σ R) (attempts : Nat) : Nat → Nat → Duration → σ → Creation σ R
  | 0, _, _, s => f.create s
  | left + 1, attempt, delay, s =>
    let first := f.create s
    match first.result with
    | .failed error =>
      let rest := retry f attempts left (attempt + 1) delay.double first.state
      { rest with
        effects := first.effects ++ .report (.creationRetried attempt attempts delay error) ::
          .sleep delay :: rest.effects }
    | _ => first

/-- A factory that makes up to `attempts` attempts at a creation, one at least. -/
def retrying (f : Factory σ R) (attempts : Nat) (delay : Duration) : Factory σ R where
  bytes := f.bytes
  create := f.retry (max attempts 1) (max attempts 1 - 1) 1 delay
  close := f.close
  discard := f.discard

@[simp] theorem bytes_retrying (f : Factory σ R) (attempts : Nat) (delay : Duration) :
    (f.retrying attempts delay).bytes = f.bytes := rfl

/-- Resources let go of one after the other. -/
def discardAll (f : Factory σ R) (rs : List R) (s : σ) : σ :=
  rs.foldl (fun s r => f.discard r s) s

/-- Resources closed one after the other.  A failure is reported; a breakdown ends it, and the
resources not yet closed are let go of. -/
def closeAll (f : Factory σ R) (onFailure : String → Event) :
    List R → σ → Outcome Unit × List Event × σ
  | [], s => (.done (), [], s)
  | r :: rs, s =>
    match f.close r s with
    | (.ok (), s) => closeAll f onFailure rs s
    | (.failed error, s) =>
      let (result, events, s) := closeAll f onFailure rs s
      (result, onFailure error :: events, s)
    | (.panicked message, s) => (.panicked message, [], f.discardAll rs s)

end Factory

end DataTier
