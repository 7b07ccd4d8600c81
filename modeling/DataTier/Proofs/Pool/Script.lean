/-
**A factory that plays a script.**

The script says what each creation and each closing comes to, one after the other and without an
end; either may succeed or fail, and none breaks down.  The factory keeps the calls that it has
had, so what others ask of it can be read off its state.

Main definitions:

* `DataTier.FactoryScript` — the outcomes still to be played, and the calls so far;
* `DataTier.FactoryScript.factory` — the factory over scripts;
* `DataTier.Factory.retries` — what is reported and waited between attempts.

Main results:

* `DataTier.FactoryScript.create_retrying` — **what one creation with retries comes to**;
* `DataTier.FactoryScript.closeAll_eq` — every resource is passed to the factory, in order.
-/

import DataTier.Pool.Factory
import Mathlib.Data.Stream.Init

set_option relaxedAutoImplicit false
set_option autoImplicit false

namespace DataTier

variable {R : Type}

/-- What an attempt that does not break down came to. -/
def Attempt.ofExcept {α : Type} : Except String α → Attempt α
  | .ok x => .ok x
  | .error error => .failed error

/-- A call that a factory has had, with what it came to. -/
inductive FactoryCall (R : Type) where
  /-- A creation. -/
  | creation (outcome : Except String R)
  /-- A resource passed to it to be closed. -/
  | closing (r : R) (outcome : Except String Unit)

/-- Outcomes still to be played, and the calls so far. -/
structure FactoryScript (R : Type) where
  /-- What the creations come to. -/
  creations : Stream' (Except String R)
  /-- What the closings come to. -/
  closings : Stream' (Except String Unit)
  /-- The calls, the newest last. -/
  calls : List (FactoryCall R) := []

namespace FactoryScript

/-- The script after some creations, with what is still to be played. -/
def created (s : FactoryScript R) (outcomes : List (Except String R))
    (rest : Stream' (Except String R)) : FactoryScript R :=
  { s with creations := rest, calls := s.calls ++ outcomes.map .creation }

/-- The script after some resources have been passed to be closed. -/
def closed (s : FactoryScript R) (rs : List R) : FactoryScript R :=
  { s with
    closings := s.closings.drop rs.length
    calls := s.calls ++ rs.zipWith .closing (s.closings.take rs.length) }

/-- The factory over scripts, of resources that take so many bytes. -/
def factory (bytes : Nat) : Factory (FactoryScript R) R where
  bytes := bytes
  create s := ⟨.ofExcept s.creations.head, [], s.created [s.creations.head] s.creations.tail⟩
  close r s := (.ofExcept s.closings.head, s.closed [r])

@[simp] theorem bytes_factory (bytes : Nat) :
    (factory bytes : Factory (FactoryScript R) R).bytes = bytes := rfl

end FactoryScript

/-- What is reported and waited between the attempts at one creation, after each failure but the
last one. -/
def Factory.retries (attempts : Nat) : Nat → Duration → List String → List Effect
  | _, _, [] => []
  | attempt, delay, error :: errors =>
    .report (.creationRetried attempt attempts delay error) :: .sleep delay ::
      retries attempts (attempt + 1) delay.double errors

namespace FactoryScript

variable {s : FactoryScript R} {errors : List String} {outcome : Except String R}
  {rest : Stream' (Except String R)} {attempts bytes : Nat}

@[simp] theorem created_created (s : FactoryScript R) (first second : List (Except String R))
    (rest rest' : Stream' (Except String R)) :
    (s.created first rest).created second rest' = s.created (first ++ second) rest' := by
  simp [created]

theorem create_eq (hs : s.creations = [outcome] ++ₛ rest) :
    (factory bytes).create s = ⟨.ofExcept outcome, [], s.created [outcome] rest⟩ := by
  simp only [factory, hs]
  rfl

/-- Attempts that fail, and one that either succeeds or is the last. -/
theorem retry_eq {left : Nat} (attempt : Nat) (delay : Duration) (hle : errors.length ≤ left)
    (hend : outcome.isOk = true ∨ errors.length = left)
    (hs : s.creations = (errors.map .error ++ [outcome]) ++ₛ rest) :
    (factory bytes).retry attempts left attempt delay s =
      ⟨.ofExcept outcome, Factory.retries attempts attempt delay errors,
        s.created (errors.map .error ++ [outcome]) rest⟩ := by
  induction errors generalizing left attempt delay s with
  | nil =>
      have hcreate : (factory bytes).create s =
          ⟨.ofExcept outcome, [], s.created [outcome] rest⟩ := create_eq hs
      cases left with
      | zero => exact hcreate
      | succ left =>
          cases outcome with
          | ok r =>
              rw [Factory.retry, hcreate]
              rfl
          | error e => simp [Except.isOk, Except.toBool] at hend
  | cons e errors ih =>
      cases left with
      | zero => cases hle
      | succ left =>
          have hcreate : (factory bytes).create s = ⟨.failed e, [], s.created [.error e]
              ((errors.map .error ++ [outcome]) ++ₛ rest)⟩ := create_eq hs
          have hrest := ih (s := s.created [.error e] ((errors.map .error ++ [outcome]) ++ₛ rest))
            (attempt + 1) delay.double (Nat.le_of_succ_le_succ hle)
            (hend.imp_right Nat.succ.inj) rfl
          rw [Factory.retry, hcreate]
          simp only [hrest, created_created]
          rfl

/-- **One creation with retries**: it comes to what the first success comes to, or else the last of
the attempts, and makes no attempt after that. -/
theorem create_retrying (bytes : Nat) (delay : Duration) (hlt : errors.length < max attempts 1)
    (hend : outcome.isOk = true ∨ errors.length + 1 = max attempts 1)
    (hs : s.creations = (errors.map .error ++ [outcome]) ++ₛ rest) :
    ((factory bytes).retrying attempts delay).create s =
      ⟨.ofExcept outcome, Factory.retries (max attempts 1) 1 delay errors,
        s.created (errors.map .error ++ [outcome]) rest⟩ :=
  retry_eq 1 delay (Nat.le_sub_one_of_lt hlt) (hend.imp_right fun h => by omega) hs

/-- The first of so many attempts may succeed, or all of them fail. -/
theorem exists_attempts (outcomes : Stream' (Except String R)) (left : Nat) :
    ∃ (errors : List String) (outcome : Except String R) (rest : Stream' (Except String R)),
      errors.length ≤ left ∧ (outcome.isOk = true ∨ errors.length = left) ∧
      outcomes = (errors.map .error ++ [outcome]) ++ₛ rest := by
  induction left generalizing outcomes with
  | zero => exact ⟨[], outcomes.head, outcomes.tail, Nat.le_refl _, .inr rfl,
      (Stream'.append_stream_head_tail outcomes).symm⟩
  | succ left ih =>
      cases hhead : outcomes.head with
      | ok r =>
          refine ⟨[], .ok r, outcomes.tail, Nat.zero_le _, .inl rfl, ?_⟩
          rw [← hhead]
          exact (Stream'.append_stream_head_tail outcomes).symm
      | error e =>
          obtain ⟨errors, outcome, rest, hle, hend, htail⟩ := ih outcomes.tail
          refine ⟨e :: errors, outcome, rest, Nat.succ_le_succ hle,
            hend.imp_right (congrArg Nat.succ), ?_⟩
          rw [List.map_cons, List.cons_append, Stream'.cons_append_stream, ← htail, ← hhead]
          exact (Stream'.append_stream_head_tail outcomes).symm

/-! ### Closing -/

theorem closed_closed (s : FactoryScript R) (r : R) (rs : List R) :
    (s.closed [r]).closed rs = s.closed (r :: rs) := by
  simp [closed, Stream'.drop_drop, Stream'.take_succ, Stream'.tail_eq_drop, Nat.add_comm]

/-- **Every resource is passed to the factory**, in order, whether the closings succeed or fail. -/
theorem closeAll_eq (f : Factory (FactoryScript R) R)
    (hf : ∀ r s, f.close r s = (.ofExcept s.closings.head, s.closed [r]))
    (onFailure : String → Event) (rs : List R) (s : FactoryScript R) :
    ∃ events, f.closeAll onFailure rs s = (.done (), events, s.closed rs) := by
  induction rs generalizing s with
  | nil => exact ⟨[], by simp [Factory.closeAll, closed]⟩
  | cons r rs ih =>
      obtain ⟨events, hrest⟩ := ih (s.closed [r])
      rw [closed_closed] at hrest
      have hclose := hf r s
      cases hhead : s.closings.head with
      | ok _ => exact ⟨events, by simp [Factory.closeAll, hclose, hhead, Attempt.ofExcept, hrest]⟩
      | error e =>
          exact ⟨onFailure e :: events,
            by simp [Factory.closeAll, hclose, hhead, Attempt.ofExcept, hrest]⟩

end FactoryScript

end DataTier
