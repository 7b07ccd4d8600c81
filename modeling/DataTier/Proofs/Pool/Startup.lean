/-
**A pool starts with all of its resources or with none.**

A slot of the pool is filled when one of the attempts at its resource succeeds; the attempts before
it have failed.  A start-up fills every slot, or it breaks off at the first slot whose attempts all
fail, and then passes what it has created to the factory again.  Which of the two it is depends on
the outcomes of the creations alone; the closings may fail as they like.  Before all that room is
made for the resources, and a pool that there can be no room for breaks down with nothing created.

Main definitions:

* `DataTier.Slot` — a filled slot, with the failures before the success;
* `DataTier.Fills`, `DataTier.BreaksOff` — how the creations of a start-up go;
* `DataTier.FactoryScript.startUp` — the pool that the settings ask for, over a script.

Main results:

* `DataTier.fills_or_breaksOff` — every script does one or the other;
* `DataTier.FactoryScript.build_of_fills`, `FactoryScript.build_of_breaksOff`,
  `FactoryScript.build_of_overflow` — what becomes of the pool;
* `DataTier.FactoryScript.startUp_workerFailed_iff` — when there can be no room for it;
* `DataTier.FactoryScript.startUp_all_or_nothing_within_room` — **a start-up is all or nothing if
  there can be room**, and a context is started exactly when its pool is.
-/

import DataTier.Context.Basic
import DataTier.Proofs.Pool.Script

set_option relaxedAutoImplicit false
set_option autoImplicit false

namespace DataTier

variable {R : Type}

/-! ### Contexts -/

namespace AppContext

variable {σ : Type} {config : Config} {f : Factory σ R} {works : σ}

/-- A context whose pool cannot be built ends with the error of the pool, before anything is asked
of a cache. -/
theorem ofConfig_of_error {e : PoolError} (net : Network)
    (h : (Pool.ofConfig config f works).result = .error e) :
    ofConfig net config f works =
      ⟨.error e, (Pool.ofConfig config f works).log, (Pool.ofConfig config f works).works⟩ := by
  simp only [ofConfig, h]

/-- A context whose pool is built is built, whatever becomes of the cache. -/
theorem ofConfig_of_ok {p : Pool σ R} (net : Network)
    (h : (Pool.ofConfig config f works).result = .ok p) :
    ∃ c, (ofConfig net config f works).result = .ok c := by
  simp only [ofConfig, h]
  exact ⟨_, rfl⟩

end AppContext

/-! ### Slots -/

/-- A slot of a pool that has been filled. -/
structure Slot (R : Type) where
  /-- What the attempts before the last one failed with. -/
  errors : List String
  /-- What the last attempt created. -/
  resource : R

/-- The outcomes of the creations that filled a slot. -/
def Slot.outcomes (slot : Slot R) : List (Except String R) :=
  slot.errors.map .error ++ [.ok slot.resource]

/-- The outcomes of the creations that filled slots one after the other. -/
def Slot.allOutcomes (slots : List (Slot R)) : List (Except String R) :=
  slots.flatMap Slot.outcomes

/-- The outcomes of the creations at a slot that is given up, the last one with `last`. -/
def Slot.givenUp (errors : List String) (last : String) : List (Except String R) :=
  errors.map .error ++ [.error last]

/-- The creations fill `size` slots, each within `attempts` attempts. -/
structure Fills (attempts size : Nat) (creations : Stream' (Except String R))
    (slots : List (Slot R)) : Prop where
  /-- There are enough slots. -/
  length_eq : slots.length = size
  /-- No slot takes more attempts than there are. -/
  within : ∀ slot ∈ slots, slot.errors.length < attempts
  /-- The creations begin with those of the slots. -/
  creations_eq : ∃ rest, creations = Slot.allOutcomes slots ++ₛ rest

/-- The creations fill too few slots: at the next one `attempts` attempts fail, the last one of
them with `last`. -/
structure BreaksOff (attempts size : Nat) (creations : Stream' (Except String R))
    (slots : List (Slot R)) (errors : List String) (last : String) : Prop where
  /-- There are too few slots. -/
  length_lt : slots.length < size
  /-- No slot takes more attempts than there are. -/
  within : ∀ slot ∈ slots, slot.errors.length < attempts
  /-- All attempts at the next slot are used up. -/
  used_up : errors.length + 1 = attempts
  /-- The creations begin with those of the slots, and then fail. -/
  creations_eq : ∃ rest,
    creations = (Slot.allOutcomes slots ++ Slot.givenUp errors last) ++ₛ rest

variable {attempts size : Nat} {creations : Stream' (Except String R)} {slots : List (Slot R)}
  {errors : List String} {last : String}

@[simp] theorem Slot.allOutcomes_nil : Slot.allOutcomes ([] : List (Slot R)) = [] := rfl

@[simp] theorem Slot.allOutcomes_cons (slot : Slot R) (slots : List (Slot R)) :
    Slot.allOutcomes (slot :: slots) = slot.outcomes ++ Slot.allOutcomes slots := rfl

theorem Fills.cons {slot : Slot R} (hslot : slot.errors.length < attempts)
    (h : Fills attempts size creations slots) :
    Fills attempts (size + 1) (slot.outcomes ++ₛ creations) (slot :: slots) where
  length_eq := by simp [h.length_eq]
  within := List.forall_mem_cons.2 ⟨hslot, h.within⟩
  creations_eq := by
    obtain ⟨rest, rfl⟩ := h.creations_eq
    exact ⟨rest, by rw [Slot.allOutcomes_cons, Stream'.append_append_stream]⟩

theorem BreaksOff.cons {slot : Slot R} (hslot : slot.errors.length < attempts)
    (h : BreaksOff attempts size creations slots errors last) :
    BreaksOff attempts (size + 1) (slot.outcomes ++ₛ creations) (slot :: slots) errors last where
  length_lt := Nat.succ_lt_succ h.length_lt
  within := List.forall_mem_cons.2 ⟨hslot, h.within⟩
  used_up := h.used_up
  creations_eq := by
    obtain ⟨rest, rfl⟩ := h.creations_eq
    exact ⟨rest, by
      rw [Slot.allOutcomes_cons, List.append_assoc, Stream'.append_append_stream slot.outcomes]⟩

/-- **Creations fill all slots or break off.** -/
theorem fills_or_breaksOff (hattempts : 0 < attempts) (size : Nat)
    (creations : Stream' (Except String R)) :
    (∃ slots, Fills attempts size creations slots) ∨
      ∃ slots errors last, BreaksOff attempts size creations slots errors last := by
  induction size generalizing creations with
  | zero => exact .inl ⟨[], rfl, by simp, creations, rfl⟩
  | succ size ih =>
      obtain ⟨errors, outcome, rest, hle, hend, rfl⟩ :=
        FactoryScript.exists_attempts creations (attempts - 1)
      cases outcome with
      | ok r =>
          -- The slot is filled; the others are up to what is left of the script.
          have hslot : (⟨errors, r⟩ : Slot R).errors.length < attempts := by simp only; omega
          obtain ⟨slots, h⟩ | ⟨slots, errors', last, h⟩ := ih rest
          · exact .inl ⟨_, h.cons hslot⟩
          · exact .inr ⟨_, errors', last, h.cons hslot⟩
      | error last =>
          have hused : errors.length = attempts - 1 :=
            hend.resolve_left (by simp [Except.isOk, Except.toBool])
          exact .inr ⟨[], errors, last, Nat.succ_pos size, by simp, by omega, rest, rfl⟩

/-! ### Creating -/

namespace FactoryScript

variable {s : FactoryScript R} {rest : Stream' (Except String R)} (bytes : Nat)

/-- A factory that tries again fills a slot. -/
theorem create_of_slot {slot : Slot R} (delay : Duration)
    (hslot : slot.errors.length < max attempts 1)
    (hs : s.creations = slot.outcomes ++ₛ rest) :
    ∃ effects, ((factory bytes).retrying attempts delay).create s =
      ⟨.ok slot.resource, effects, s.created slot.outcomes rest⟩ :=
  ⟨_, create_retrying bytes delay hslot (.inl rfl) hs⟩

/-- A factory that tries again fills slots, and goes on with what is left. -/
theorem fill_append (delay : Duration)
    (hwithin : ∀ slot ∈ slots, slot.errors.length < max attempts 1)
    (hs : s.creations = Slot.allOutcomes slots ++ₛ rest) (left : Nat) (created : List R) :
    ∃ events, ∀ filled more s',
      Pool.fill ((factory bytes).retrying attempts delay) left (created ++ slots.map Slot.resource)
        (s.created (Slot.allOutcomes slots) rest) = (filled, more, s') →
      Pool.fill ((factory bytes).retrying attempts delay) (slots.length + left) created s =
        (filled, events ++ more, s') := by
  induction slots generalizing s created with
  | nil =>
      have hcreated : s.created [] rest = s := by
        rw [Slot.allOutcomes_nil, Stream'.nil_append_stream] at hs
        simp [FactoryScript.created, ← hs]
      refine ⟨[], fun filled more s' h => ?_⟩
      simpa [hcreated] using h
  | cons slot slots ih =>
      rw [Slot.allOutcomes_cons, Stream'.append_append_stream] at hs
      obtain ⟨hslot, hwithin⟩ := List.forall_mem_cons.1 hwithin
      obtain ⟨effects, hcreate⟩ := create_of_slot bytes delay hslot hs
      obtain ⟨events, hrest⟩ := ih hwithin
        (s := s.created slot.outcomes (Slot.allOutcomes slots ++ₛ rest)) rfl
        (created ++ [slot.resource])
      refine ⟨effects.filterMap Effect.event? ++ events, fun filled more s' h => ?_⟩
      have h := hrest filled more s' (by simpa using h)
      rw [List.length_cons, Nat.add_right_comm, Pool.fill, hcreate]
      simp only [h, List.append_assoc]

/-- Creations that fill all slots give all resources. -/
theorem fill_of_fills (delay : Duration) (h : Fills (max attempts 1) size s.creations slots) :
    ∃ events rest, Pool.fill ((factory bytes).retrying attempts delay) size [] s =
      (.all (slots.map Slot.resource), events, s.created (Slot.allOutcomes slots) rest) := by
  obtain ⟨rest, hs⟩ := h.creations_eq
  obtain ⟨events, hfill⟩ := fill_append bytes delay h.within hs 0 []
  rw [Nat.add_zero, h.length_eq] at hfill
  exact ⟨_, rest, hfill _ _ _ rfl⟩

/-- Creations that break off give the resources of the slots before. -/
theorem fill_of_breaksOff (delay : Duration)
    (h : BreaksOff (max attempts 1) size s.creations slots errors last) :
    ∃ events rest, Pool.fill ((factory bytes).retrying attempts delay) size [] s =
      (.failed slots.length last (slots.map Slot.resource), events,
        s.created (Slot.allOutcomes slots ++ Slot.givenUp errors last) rest) := by
  obtain ⟨rest, hs⟩ := h.creations_eq
  obtain ⟨left, hsize⟩ := Nat.exists_eq_add_of_lt h.length_lt
  rw [Stream'.append_append_stream] at hs
  obtain ⟨events, hfill⟩ := fill_append bytes delay h.within hs (left + 1) []
  have hused : errors.length < max attempts 1 := by have := h.used_up; omega
  have hlast := create_retrying bytes delay hused (.inr h.used_up)
    (s := s.created (Slot.allOutcomes slots) (Slot.givenUp errors last ++ₛ rest)) rfl
  rw [created_created] at hlast
  have hend := hfill (.failed slots.length last (slots.map Slot.resource)) _ _ (by
    rw [Pool.fill, hlast]
    simp only [Attempt.ofExcept, List.nil_append, List.length_map]
    rfl)
  rw [← Nat.add_assoc, ← hsize] at hend
  exact ⟨_, rest, hend⟩

/-! ### Building -/

variable {bytes}

/-- A pool that there can be no room for breaks down before anything is created. -/
theorem build_of_overflow {σ : Type} {f : Factory σ R} {works : σ} (timeout : Duration)
    (hroom : Word.signedSize ≤ size * f.bytes) :
    Pool.build f works size timeout = ⟨.panicked Pool.capacityMessage, [], works⟩ := by
  have hsize : size ≠ 0 := by
    rintro rfl
    rw [Nat.zero_mul] at hroom
    exact absurd hroom (by decide)
  rw [Pool.build, if_neg hsize, if_pos hroom]

/-- **A pool whose slots are all filled** holds their resources in order; nothing is closed. -/
theorem build_of_fills (delay timeout : Duration) (hsize : 0 < size)
    (hroom : size * bytes < Word.signedSize)
    (h : Fills (max attempts 1) size s.creations slots) :
    ∃ log rest, Pool.build ((factory bytes).retrying attempts delay) s size timeout =
      ⟨.done (.ok
        { factory := (factory bytes).retrying attempts delay
          works := s.created (Slot.allOutcomes slots) rest
          size, timeout, state := { idle := slots.map Slot.resource } }), log,
        s.created (Slot.allOutcomes slots) rest⟩ := by
  obtain ⟨events, rest, hfill⟩ := fill_of_fills bytes delay h
  exact ⟨_, rest, by
    rw [Pool.build, if_neg (Nat.ne_of_gt hsize), Factory.bytes_retrying, bytes_factory,
      if_neg (Nat.not_le_of_lt hroom), hfill]⟩

/-- **A pool that breaks off** passes the resources of its slots to the factory, in order. -/
theorem build_of_breaksOff (delay timeout : Duration) (hroom : size * bytes < Word.signedSize)
    (h : BreaksOff (max attempts 1) size s.creations slots errors last) :
    ∃ log rest, Pool.build ((factory bytes).retrying attempts delay) s size timeout =
      ⟨.done (.error (.resourceCreation slots.length last)), log,
        (s.created (Slot.allOutcomes slots ++ Slot.givenUp errors last) rest).closed
          (slots.map Slot.resource)⟩ := by
  obtain ⟨events, rest, hfill⟩ := fill_of_breaksOff bytes delay h
  have hsize : size ≠ 0 := by have := h.length_lt; omega
  obtain ⟨more, hclose⟩ := closeAll_eq ((factory bytes).retrying attempts delay)
    (fun _ _ => rfl) .abortedCloseFailed (slots.map Slot.resource)
    (s.created (Slot.allOutcomes slots ++ Slot.givenUp errors last) rest)
  refine ⟨events ++ [.creationFailed slots.length size last] ++ more, rest, ?_⟩
  rw [Pool.build, if_neg hsize, Factory.bytes_retrying, bytes_factory,
    if_neg (Nat.not_le_of_lt hroom), hfill]
  simp only [hclose]

/-! ### Starting -/

/-- The pool that the settings ask for, of a factory that plays a script from its beginning and
whose resources take so many bytes. -/
def startUp (config : Config) (bytes : Nat) (creations : Stream' (Except String R))
    (closings : Stream' (Except String Unit)) :
    Started (FactoryScript R) (Pool (FactoryScript R) R) :=
  Pool.ofConfig config (factory bytes) { creations, closings }

/-- The context that the settings ask for, over such a factory. -/
def contextStartUp (net : Network) (config : Config) (bytes : Nat)
    (creations : Stream' (Except String R)) (closings : Stream' (Except String Unit)) :
    Started (FactoryScript R) (AppContext (FactoryScript R) R) :=
  AppContext.ofConfig net config (factory bytes) { creations, closings }

variable {config : Config} {closings : Stream' (Except String Unit)}

/-- A pool without slots is refused before anything is created. -/
theorem startUp_of_empty (h : config.poolSize = 0) :
    startUp config bytes creations closings =
      ⟨.error (.invalidConfig "pool size must be at least 1"), [], { creations, closings }⟩ := by
  rw [startUp, Pool.ofConfig, Pool.build, if_pos h]

/-- A pool that there can be no room for is given up with its worker, and nothing has been
created. -/
theorem startUp_of_overflow (h : Word.signedSize ≤ config.poolSize * bytes) :
    startUp config bytes creations closings =
      ⟨.error (.workerFailed (workerBreakdown Pool.capacityMessage)), [],
        { creations, closings }⟩ := by
  rw [startUp, Pool.ofConfig, build_of_overflow _ h]

/-- A pool whose slots are all filled is started with their resources in order, and the factory
has had no call but their creations. -/
theorem startUp_of_fills (hsize : 0 < config.poolSize)
    (hroom : config.poolSize * bytes < Word.signedSize)
    (h : Fills (max config.createRetries 1) config.poolSize creations slots) :
    ∃ p, (startUp config bytes creations closings).result = .ok p ∧
      p.state = { idle := slots.map Slot.resource } ∧ p.size = config.poolSize ∧
      p.timeout = config.acquireTimeout ∧
      p.works = (startUp config bytes creations closings).works ∧
      p.works.calls = (Slot.allOutcomes slots).map .creation := by
  obtain ⟨log, rest, hbuild⟩ := build_of_fills (s := { creations, closings })
    createRetryDelay config.acquireTimeout hsize hroom h
  rw [startUp, Pool.ofConfig, hbuild]
  exact ⟨_, rfl, rfl, rfl, rfl, rfl, List.nil_append _⟩

/-- A pool that breaks off is not started: the error names the slot, and what was created before
has been passed to the factory. -/
theorem startUp_of_breaksOff (hroom : config.poolSize * bytes < Word.signedSize)
    (h : BreaksOff (max config.createRetries 1) config.poolSize creations slots errors last) :
    (startUp config bytes creations closings).result =
        .error (.resourceCreation slots.length last) ∧
      (startUp config bytes creations closings).works.calls =
        (Slot.allOutcomes slots ++ Slot.givenUp errors last).map .creation ++
          (slots.map Slot.resource).zipWith .closing (closings.take slots.length) := by
  obtain ⟨log, rest, hbuild⟩ := build_of_breaksOff (s := { creations, closings })
    createRetryDelay config.acquireTimeout hroom h
  rw [startUp, Pool.ofConfig, hbuild]
  refine ⟨rfl, ?_⟩
  simp only [closed, FactoryScript.created, List.nil_append, List.length_map]

/-- The pool does not read what the settings say about the cache. -/
theorem startUp_with_cacheUrl (url : Option String) :
    startUp { config with cacheUrl := url } bytes creations closings =
      startUp config bytes creations closings := rfl

/-- **Only for want of room does a worker break down** over a factory that does not. -/
theorem startUp_workerFailed_iff {text : String} :
    (startUp config bytes creations closings).result = .error (.workerFailed text) ↔
      Word.signedSize ≤ config.poolSize * bytes ∧
        text = workerBreakdown Pool.capacityMessage := by
  rcases Nat.lt_or_ge (config.poolSize * bytes) Word.signedSize with hroom | hroom
  · refine iff_of_false (fun hfailed => ?_) fun h => absurd h.1 (Nat.not_le_of_lt hroom)
    rcases Nat.eq_zero_or_pos config.poolSize with hempty | hsize
    · rw [startUp_of_empty hempty] at hfailed
      cases hfailed
    · have hattempts : 0 < max config.createRetries 1 :=
        Nat.lt_of_lt_of_le Nat.one_pos (Nat.le_max_right ..)
      obtain ⟨slots, h⟩ | ⟨slots, errors, last, h⟩ :=
        fills_or_breaksOff hattempts config.poolSize creations
      · obtain ⟨p, hp, -⟩ : ∃ p, (startUp config bytes creations closings).result = .ok p ∧ _ :=
          startUp_of_fills hsize hroom h
        rw [hp] at hfailed
        cases hfailed
      · rw [(startUp_of_breaksOff hroom h).1] at hfailed
        cases hfailed
  · rw [startUp_of_overflow hroom]
    simp only [Except.error.injEq, PoolError.workerFailed.injEq, hroom, true_and, eq_comm]

/-- **A start-up is all or nothing if there can be room for its resources**, and otherwise it breaks
down.  Without slots it is refused with nothing created.  When a word with a sign cannot count the
bytes of the resources, and only then, the worker breaks down, with nothing created either.  When
it can and the slots are filled, the pool holds exactly their resources, in order, and nothing has
been closed.  When it can and the creations break off, the error is that of the last attempt at the
first slot that could not be filled, no creation comes after it, and each resource of the slots
before has been passed to the factory once, in order, whatever the closings come to.  Creations do
one or the other.  A context fails exactly when its pool does, and then nothing has been asked of a
cache. -/
theorem startUp_all_or_nothing_within_room (config : Config) (bytes : Nat)
    (creations : Stream' (Except String R)) (closings : Stream' (Except String Unit)) :
    (config.poolSize = 0 →
      (startUp config bytes creations closings).result =
        .error (.invalidConfig "pool size must be at least 1") ∧
      (startUp config bytes creations closings).works.calls = []) ∧
    (∀ text, (startUp config bytes creations closings).result = .error (.workerFailed text) ↔
      Word.signedSize ≤ config.poolSize * bytes ∧
        text = workerBreakdown Pool.capacityMessage) ∧
    (Word.signedSize ≤ config.poolSize * bytes →
      (startUp config bytes creations closings).works.calls = []) ∧
    (config.poolSize * bytes < Word.signedSize →
      (0 < config.poolSize → ∀ slots,
        Fills (max config.createRetries 1) config.poolSize creations slots →
        ∃ p, (startUp config bytes creations closings).result = .ok p ∧
          p.state = { idle := slots.map Slot.resource } ∧ p.size = config.poolSize ∧
          p.timeout = config.acquireTimeout ∧
          p.works = (startUp config bytes creations closings).works ∧
          p.works.calls = (Slot.allOutcomes slots).map .creation) ∧
      (∀ slots errors last,
        BreaksOff (max config.createRetries 1) config.poolSize creations slots errors last →
        (startUp config bytes creations closings).result =
          .error (.resourceCreation slots.length last) ∧
        (startUp config bytes creations closings).works.calls =
          (Slot.allOutcomes slots ++ Slot.givenUp errors last).map .creation ++
            (slots.map Slot.resource).zipWith .closing (closings.take slots.length))) ∧
    ((∃ slots, Fills (max config.createRetries 1) config.poolSize creations slots) ∨
      ∃ slots errors last,
        BreaksOff (max config.createRetries 1) config.poolSize creations slots errors last) ∧
    (∀ net url,
      (∀ e, (startUp config bytes creations closings).result = .error e →
        contextStartUp net { config with cacheUrl := url } bytes creations closings =
          ⟨.error e, (startUp config bytes creations closings).log,
            (startUp config bytes creations closings).works⟩) ∧
      (∀ p, (startUp config bytes creations closings).result = .ok p →
        ∃ c, (contextStartUp net { config with cacheUrl := url } bytes creations closings).result =
          .ok c)) := by
  refine ⟨fun hempty => ?_, fun text => startUp_workerFailed_iff, fun hroom => ?_,
    fun hroom => ⟨fun hsize slots h => startUp_of_fills hsize hroom h,
      fun slots errors last h => startUp_of_breaksOff hroom h⟩,
    fills_or_breaksOff (Nat.lt_of_lt_of_le Nat.one_pos (Nat.le_max_right ..)) _ _,
    fun net url => ?_⟩
  · rw [startUp_of_empty hempty]
    exact ⟨rfl, rfl⟩
  · rw [startUp_of_overflow hroom]
  · rw [← startUp_with_cacheUrl url]
    exact ⟨fun e => AppContext.ofConfig_of_error net, fun p => AppContext.ofConfig_of_ok net⟩

/-- Two slots, and creations that fail, succeed, fail twice and then succeed for good: with two
attempts at each slot the second one is given up, with three it is filled.  Every closing fails.
For so many slots of eight bytes that their bytes are one more than a word with a sign can count,
nothing is created. -/
theorem startUp_all_or_nothing_within_room_of_two_slots :
    let creations : Stream' (Except String Nat) :=
      [.error "a", .ok 1, .error "b", .error "c", .ok 2] ++ₛ Stream'.const (.ok 3)
    let closings : Stream' (Except String Unit) := Stream'.const (.error "stuck")
    ((startUp { poolSize := 2, createRetries := 2 } 8 creations closings).result =
        .error (.resourceCreation 1 "c") ∧
      (startUp { poolSize := 2, createRetries := 2 } 8 creations closings).works.calls =
        [.creation (.error "a"), .creation (.ok 1), .creation (.error "b"),
          .creation (.error "c"), .closing 1 (.error "stuck")]) ∧
    (∃ p, (startUp { poolSize := 2, createRetries := 3 } 8 creations closings).result = .ok p ∧
      p.state = { idle := [1, 2] } ∧
      p.works.calls = [.creation (.error "a"), .creation (.ok 1), .creation (.error "b"),
        .creation (.error "c"), .creation (.ok 2)]) ∧
    (startUp { poolSize := 1152921504606846976 } 8 creations closings).result =
        .error (.workerFailed "task panicked with message \"capacity overflow\"") ∧
      (startUp { poolSize := 1152921504606846976 } 8 creations closings).works.calls = [] := by
  intro creations closings
  obtain ⟨-, -, -, htwo, -⟩ :=
    startUp_all_or_nothing_within_room { poolSize := 2, createRetries := 2 } 8 creations closings
  obtain ⟨-, -, -, hthree, -⟩ :=
    startUp_all_or_nothing_within_room { poolSize := 2, createRetries := 3 } 8 creations closings
  obtain ⟨-, hfailed, huncalled, -⟩ :=
    startUp_all_or_nothing_within_room { poolSize := 1152921504606846976 } 8 creations closings
  have hbreaks : BreaksOff (max 2 1) 2 creations [⟨["a"], 1⟩] ["b"] "c" :=
    ⟨by decide, by simp, rfl, [.ok 2] ++ₛ Stream'.const (.ok 3), rfl⟩
  have hfills : Fills (max 3 1) 2 creations [⟨["a"], 1⟩, ⟨["b", "c"], 2⟩] :=
    ⟨rfl, by simp, Stream'.const (.ok 3), rfl⟩
  obtain ⟨p, hp, hstate, -, -, -, hcalls⟩ := (hthree (by decide)).1 (by decide) _ hfills
  exact ⟨(htwo (by decide)).2 _ _ _ hbreaks, ⟨p, hp, hstate, hcalls⟩,
    (hfailed _).2 ⟨by decide, by decide⟩, huncalled (by decide)⟩

/-- As many slots as a word can count, one attempt at each of them, and a creation that fails: the
failure is not heard of, because the worker has broken down before. -/
theorem startUp_workerFailed_of_largest_size :
    let config : Config := { poolSize := 18446744073709551615, createRetries := 1 }
    let creations : Stream' (Except String Nat) := Stream'.const (.error "refused")
    let closings : Stream' (Except String Unit) := Stream'.const (.ok ())
    BreaksOff (max config.createRetries 1) config.poolSize creations [] [] "refused" ∧
      (startUp config 8 creations closings).result =
        .error (.workerFailed (workerBreakdown Pool.capacityMessage)) ∧
      (startUp config 8 creations closings).works.calls = [] := by
  intro config creations closings
  have hrefused : creations = (Slot.allOutcomes [] ++ Slot.givenUp [] "refused") ++ₛ creations :=
    (Stream'.append_stream_head_tail creations).symm
  rw [startUp_of_overflow (by decide)]
  exact ⟨⟨by decide, by simp, rfl, creations, hrefused⟩, rfl, rfl⟩

end FactoryScript

end DataTier
