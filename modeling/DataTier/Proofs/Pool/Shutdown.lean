/-
**Shutdown is final, and accounts for every resource.**

The call whose section of the lock comes first takes out what is idle and returns how much that
was; every other call returns nothing.  From then on each section of the lock leaves the state of
the pool as it is, but for the resources that come back: these are counted, and their holders pass
them to the factory.  So all that will ever be closed is what the first call took out and what has
come back since, and once nothing is held or still to be closed that is every resource.

What the threads of a pool that is shut down have to do can always be done, without new threads,
and every call to shut down returns unless a closing breaks down.

Main definitions:

* `DataTier.SharedPool.ShutsDown` — the step of the call that comes first;
* `DataTier.SharedPool.Since` — what separates two moments of a pool that is shut down;
* `DataTier.SharedPool.Onward` — what calls to shut down are still going to return.

Main results:

* `DataTier.SharedPool.exists_since` — a run of a pool that is shut down;
* `DataTier.SharedPool.Step.onward` — a step leaves what calls are to return;
* `DataTier.SharedPool.exists_run_finished` — what is to be done can be done;
* `DataTier.SharedPool.exists_shutsDown` — a pool that is shut down has a first call;
* `DataTier.SharedPool.shutdown_final` — what holds after that call.
-/

import DataTier.Proofs.Pool.Conservation
import Mathlib.Algebra.GroupWithZero.Nat
import Mathlib.Algebra.Order.BigOperators.Group.List
import Mathlib.Algebra.Order.Group.Nat

set_option relaxedAutoImplicit false
set_option autoImplicit false

namespace DataTier

variable {σ V : Type}

/-- The resources that come back. -/
def Happening.comebacks : Happening V → List (Numbered V)
  | .cameBack r => [r]
  | _ => []

/-- What may happen in a pool that is shut down: nothing is handed out or taken out, and whoever
asks is told that the pool is closed. -/
def Happening.Late : Happening V → Prop
  | .handedOut _ => False
  | .drained _ => False
  | .refused e => e = .closed
  | _ => True

/-! ### One thread -/

namespace PoolThread

variable {timeout : Duration} {now : Instant} {s s' : PoolState (Numbered V)}
  {t t' : PoolThread V} {happened : List (Happening V)}

/-- What a call to shut down has returned or is going to return, as far as that is known: a call
that has not yet had its section of the lock will find the pool shut down. -/
def tells? : PoolThread V → Option Nat
  | .stopping => some 0
  | .announcing rs => some rs.length
  | .closingAll count (_ :: _) => some count
  | .ended (.stopped count) => some count
  | _ => none

@[simp] theorem tells?_notify (t : PoolThread V) : t.notify.tells? = t.tells? := by
  unfold notify
  split <;> rfl

@[simp] theorem tells?_closingOn (n : Nat) (rs : List (Numbered V)) :
    (closingOn n rs).tells? = some n := by
  cases rs <;> rfl

/-- What a thread does in a pool that is shut down. -/
theorem Acts.of_closed (h : Acts timeout now s t t' s' happened) (hs : s.closed = true) :
    s' = { s with
      inUse := s'.inUse
      released := s.released + (happened.flatMap Happening.comebacks).length } ∧
    t'.toClose = t.toClose ++ happened.flatMap Happening.comebacks ∧
    ∀ e ∈ happened, e.Late := by
  have hopen : ¬ s.closed = false := by simp [hs]
  cases h with
  | wake => exact ⟨rfl, rfl, List.forall_mem_nil _⟩
  | dropWaiting => exact ⟨rfl, rfl, List.forall_mem_nil _⟩
  | dropHolding => exact ⟨rfl, rfl, List.forall_mem_nil _⟩
  | refuse hw hc =>
      obtain ⟨-, rfl⟩ := PoolState.check_eq_closed_iff.1 hc
      exact ⟨rfl, rfl, List.forall_mem_singleton.2 rfl⟩
  | take hw hc => exact absurd (PoolState.check_eq_acquired_iff.1 hc).1 hopen
  | giveUp hw hc => exact absurd (PoolState.check_eq_exhausted_iff.1 hc).1 hopen
  | sleep hw hc => exact absurd (PoolState.check_eq_wait_iff.1 hc).1 hopen
  | change v => exact ⟨rfl, rfl, List.forall_mem_nil _⟩
  | giveBack hg => exact absurd (PoolState.giveBack_eq_none_iff.1 hg).1 hopen
  | giveBackLate hg =>
      obtain ⟨-, rfl, rfl⟩ := PoolState.giveBack_eq_some_iff.1 hg
      exact ⟨rfl, rfl, List.forall_mem_singleton.2 trivial⟩
  | drain hd => exact absurd (PoolState.drain_eq_some_iff.1 hd).1 hopen
  | drainAgain hd =>
      obtain ⟨-, rfl⟩ := PoolState.drain_eq_none_iff.1 hd
      exact ⟨rfl, rfl, List.forall_mem_nil _⟩

/-- A thread that does not find the pool open to shut it down leaves it open or shut, and is going
to return what it was. -/
theorem Acts.tells?_eq_or_drain (h : Acts timeout now s t t' s' happened) :
    s'.closed = s.closed ∧ t'.tells? = t.tells? ∨
    t = .stopping ∧ ∃ rs inUse, s.drain = (some (rs, inUse), s') ∧
      t' = .announcing rs ∧ happened = [.drained rs] := by
  cases h with
  | wake => exact .inl ⟨rfl, rfl⟩
  | dropWaiting => exact .inl ⟨rfl, rfl⟩
  | dropHolding => exact .inl ⟨rfl, rfl⟩
  | refuse hw hc =>
      obtain ⟨-, rfl⟩ := PoolState.check_eq_closed_iff.1 hc
      exact .inl ⟨rfl, rfl⟩
  | take hw hc =>
      obtain ⟨-, idle, -, rfl⟩ := PoolState.check_eq_acquired_iff.1 hc
      exact .inl ⟨rfl, rfl⟩
  | giveUp hw hc =>
      obtain ⟨-, -, -, rfl⟩ := PoolState.check_eq_exhausted_iff.1 hc
      exact .inl ⟨rfl, rfl⟩
  | sleep hw hc =>
      obtain ⟨-, -, -, rfl⟩ := PoolState.check_eq_wait_iff.1 hc
      exact .inl ⟨rfl, rfl⟩
  | change v => exact .inl ⟨rfl, rfl⟩
  | giveBack hg =>
      obtain ⟨-, rfl⟩ := PoolState.giveBack_eq_none_iff.1 hg
      exact .inl ⟨rfl, rfl⟩
  | giveBackLate hg =>
      obtain ⟨-, -, rfl⟩ := PoolState.giveBack_eq_some_iff.1 hg
      exact .inl ⟨rfl, rfl⟩
  | drain hd => exact .inr ⟨rfl, _, _, hd, rfl, rfl⟩
  | drainAgain hd =>
      obtain ⟨-, rfl⟩ := PoolState.drain_eq_none_iff.1 hd
      exact .inl ⟨rfl, rfl⟩

theorem Acts.tells?_eq (h : Acts timeout now s t t' s' happened) (hs : s'.closed = s.closed) :
    t'.tells? = t.tells? := by
  obtain ⟨-, heq⟩ | ⟨-, rs, inUse, hd, -⟩ := h.tells?_eq_or_drain
  · exact heq
  · obtain ⟨hopen, -, -, rfl⟩ := PoolState.drain_eq_some_iff.1 hd
    simp [hopen] at hs

/-- How many steps a thread has left at most when the pool is shut down.  A sleeper wakes before it
is refused, and a holder closes what it has given back. -/
def stepsLeft : PoolThread V → Nat
  | .waiting .asleep _ _ => 2
  | .waiting _ _ _ => 1
  | .holding _ _ => 2
  | .announcing rs => rs.length + 1
  | .closingAll _ rs => rs.length
  | .ended _ => 0
  | _ => 1

theorem stepsLeft_notify_le (t : PoolThread V) : t.notify.stepsLeft ≤ t.stepsLeft := by
  unfold notify
  split
  · exact Nat.le_succ 1
  · exact Nat.le_refl _

@[simp] theorem stepsLeft_closingOn (n : Nat) (rs : List (Numbered V)) :
    (closingOn n rs).stepsLeft = rs.length := by
  cases rs <;> rfl

/-- A thread without steps left has nothing, and has returned what it was to return. -/
theorem of_stepsLeft_eq_zero (h : t.stepsLeft = 0) :
    t.held = [] ∧ t.toClose = [] ∧ ∀ n, t.tells? = some n → t = .ended (.stopped n) := by
  cases t with
  | waiting wait purpose deadline => cases wait <;> cases h
  | closingAll count rs =>
      obtain rfl := List.length_eq_zero_iff.1 h
      exact ⟨rfl, rfl, fun n hn => by cases hn⟩
  | ended e =>
      refine ⟨rfl, rfl, ?_⟩
      intro n hn
      cases e with
      | stopped count => rw [Option.some.inj hn]
      | _ => cases hn
  | _ => cases h

end PoolThread

namespace SharedPool

variable {s s' s'' : SharedPool σ V} {later more : List (Happening V)}

/-! ### A pool that is shut down -/

/-- **What separates two moments of a pool that is shut down**: resources have come back, are
counted, and have gone to those who close them; nothing else has changed under the lock. -/
structure Since (s s' : SharedPool σ V) (later : List (Happening V)) : Prop where
  trace : s'.trace = s.trace ++ later
  late : ∀ e ∈ later, e.Late
  state : s'.state = { s.state with
    inUse := s'.state.inUse
    released := s.state.released + (later.flatMap Happening.comebacks).length }
  closes : (s'.toClose ++ s'.closed ++ s'.letGo).Perm
    (s.toClose ++ s.closed ++ s.letGo ++ later.flatMap Happening.comebacks)

theorem Since.refl (s : SharedPool σ V) : Since s s [] where
  trace := (List.append_nil _).symm
  late := List.forall_mem_nil _
  state := rfl
  closes := by simp

theorem Since.trans (h : Since s s' later) (h' : Since s' s'' more) :
    Since s s'' (later ++ more) where
  trace := by rw [h'.trace, h.trace, List.append_assoc]
  late e he := (List.mem_append.1 he).elim (h.late e) (h'.late e)
  state := by
    rw [h'.state, h.state]
    simp only [List.flatMap_append, List.length_append, Nat.add_assoc]
  closes := by
    rw [List.flatMap_append, ← List.append_assoc]
    exact h'.closes.trans (h.closes.append_right _)

theorem Since.closed_eq (h : Since s s' later) : s'.state.closed = s.state.closed := by
  rw [h.state]

theorem Closing.late {e : Happening V} (h : s.Closing e) : e.Late ∧ e.comebacks = [] := by
  obtain ⟨r, rfl⟩ | ⟨rs, rfl⟩ := h
  · exact ⟨trivial, rfl⟩
  · exact ⟨trivial, rfl⟩

/-- One step of a pool that is shut down. -/
theorem Step.since (h : Step s s') (hs : s.state.closed = true) : ∃ later, Since s s' later := by
  obtain ⟨i, t, t', state, happened, hi, ha, rfl⟩ | ⟨hstill, later, htrace, hclosing⟩ :=
    h.act_or_still
  · obtain ⟨hstate, htoClose, hlate⟩ := ha.of_closed hs
    obtain ⟨hclosed, hletGo⟩ := ha.closes_nothing
    have hmoved := perm_flatMap_set hi PoolThread.toClose t'
    exact ⟨happened, {
      trace := rfl
      late := hlate
      state := hstate
      closes := by
        classical
        rw [List.perm_iff_count] at hmoved ⊢
        intro r
        have := hmoved r
        simp only [toClose, closed, letGo, htoClose, List.flatMap_append, hclosed, hletGo,
          List.count_append, List.count_nil] at this ⊢
        omega }⟩
  · have hnone : later.flatMap Happening.comebacks = [] :=
      List.flatMap_eq_nil_iff.2 fun e he => (hclosing e he).late.2
    exact ⟨later, {
      trace := htrace
      late := fun e he => (hclosing e he).late.1
      state := by rw [hnone, hstill.state]; rfl
      closes := by rw [hnone, List.append_nil]; exact hstill.closes }⟩

/-- **A run of a pool that is shut down.** -/
theorem exists_since (h : Run s s') (hs : s.state.closed = true) : ∃ later, Since s s' later := by
  induction h with
  | refl => exact ⟨[], .refl s⟩
  | tail _ hstep ih =>
      obtain ⟨later, hlater⟩ := ih
      obtain ⟨more, hmore⟩ := hstep.since (hlater.closed_eq.trans hs)
      exact ⟨later ++ more, hlater.trans hmore⟩

/-! ### What calls return -/

/-- What the call of thread `j` to shut down has returned or is going to return, if there is one. -/
def tells? (s : SharedPool σ V) (j : Nat) : Option Nat := s.threads[j]?.bind PoolThread.tells?

theorem tells?_set {i : Nat} {t t' : PoolThread V} (hi : s.threads[i]? = some t)
    (hthreads : s'.threads = s.threads.set i t') (j : Nat) :
    s'.tells? j = if j = i then t'.tells? else s.tells? j := by
  obtain ⟨hlt, -⟩ := List.getElem?_eq_some_iff.1 hi
  unfold tells?
  rw [hthreads, List.getElem?_set]
  by_cases hj : i = j
  · simp [hj.symm, hlt]
  · simp [hj, Ne.symm hj]

theorem tells?_set_of_eq {i : Nat} {t : PoolThread V} (hi : s.threads[i]? = some t)
    (t' : PoolThread V) (hthreads : s'.threads = s.threads.set i t') (ht : t'.tells? = t.tells?)
    (j : Nat) : s'.tells? j = s.tells? j := by
  rw [tells?_set hi hthreads]
  split
  · next hj => rw [hj, tells?, hi, ht]; rfl
  · rfl

theorem tells?_spawn (s : SharedPool σ V) (t : PoolThread V) (j : Nat) :
    (s.spawn t).tells? j = if j = s.threads.length then t.tells? else s.tells? j := by
  unfold tells? spawn
  rw [List.getElem?_append]
  obtain hj | hj | hj := Nat.lt_trichotomy j s.threads.length
  · rw [if_pos hj, if_neg (Nat.ne_of_lt hj)]
  · simp [hj]
  · rw [if_neg (Nat.not_lt.2 (Nat.le_of_lt hj)), if_neg (Nat.ne_of_gt hj),
      List.getElem?_eq_none (Nat.le_of_lt hj)]
    have : 1 ≤ j - s.threads.length := by omega
    rw [List.getElem?_eq_none (by simpa using this)]

/-- **What calls to shut down are still going to return**: what they were, unless a closing breaks
down; and a new call is going to return nothing. -/
structure Onward (s s' : SharedPool σ V) : Prop where
  length_le : s.threads.length ≤ s'.threads.length
  unbroken : s'.Unbroken → s.Unbroken
  tells? : ∀ j, s'.tells? j = s.tells? j ∨ s'.tells? j = none ∧ ¬ s'.Unbroken ∨
    s.threads.length ≤ j ∧ s'.tells? j = some 0

theorem Onward.refl (s : SharedPool σ V) : Onward s s where
  length_le := Nat.le_refl _
  unbroken := id
  tells? _ := .inl rfl

theorem Onward.trans (h : Onward s s') (h' : Onward s' s'') : Onward s s'' where
  length_le := Nat.le_trans h.length_le h'.length_le
  unbroken hun := h.unbroken (h'.unbroken hun)
  tells? j := by
    obtain heq | hbroken | ⟨hle, hzero⟩ := h'.tells? j
    · rw [heq]
      obtain heq' | ⟨hnone, hun⟩ | hnew := h.tells? j
      · exact .inl heq'
      · exact .inr (.inl ⟨hnone, fun hun' => hun (h'.unbroken hun')⟩)
      · exact .inr (.inr hnew)
    · exact .inr (.inl hbroken)
    · exact .inr (.inr ⟨Nat.le_trans h.length_le hle, hzero⟩)

theorem Onward.of_trace (hlength : s.threads.length = s'.threads.length)
    (htrace : s'.trace = s.trace) (h : ∀ j, s'.tells? j = s.tells? j) : Onward s s' where
  length_le := Nat.le_of_eq hlength
  unbroken := by
    intro hun
    rwa [Unbroken, htrace] at hun
  tells? j := .inl (h j)

/-- Unless a closing breaks down, what a call is going to return is settled. -/
theorem Onward.tells?_eq (h : Onward s s') (hun : s'.Unbroken) {j : Nat}
    (hj : j < s.threads.length) : s'.tells? j = s.tells? j := by
  obtain heq | ⟨-, hbroken⟩ | ⟨hle, -⟩ := h.tells? j
  · exact heq
  · exact absurd hun hbroken
  · exact absurd hj (Nat.not_lt.2 hle)

theorem onward_spawn {t : PoolThread V} (ht : t.tells? = none ∨ t.tells? = some 0) :
    Onward s (s.spawn t) where
  length_le := by simp [spawn]
  unbroken := id
  tells? j := by
    rw [tells?_spawn]
    split
    · next hj =>
      obtain hnone | hzero := ht
      · refine .inl (hnone.trans ?_)
        rw [SharedPool.tells?, hj, List.getElem?_eq_none (Nat.le_refl _)]
        rfl
      · exact .inr (.inr ⟨Nat.le_of_eq hj.symm, hzero⟩)
    · exact .inl rfl

theorem onward_close {i : Nat} {t next : PoolThread V} {r : Numbered V} {left : List (Numbered V)}
    (hi : s.threads[i]? = some t) (hnext : next.tells? = t.tells?) :
    Onward s (s.close i r left next) := by
  unfold close
  split
  · next message works hr =>
    exact {
      length_le := by simp
      unbroken := fun hun => absurd (by simp) (hun r message)
      tells? := by
        intro j
        rw [tells?_set hi rfl]
        split
        · exact .inr (.inl ⟨rfl, fun hun => absurd (by simp) (hun r message)⟩)
        · exact .inl rfl }
  · next result works hne hr =>
    exact {
      length_le := by simp
      unbroken := fun hun q message hq => hun q message (List.mem_append_left _ hq)
      tells? := fun j => .inl (tells?_set_of_eq hi next rfl hnext j) }

/-- **A step leaves what calls are going to return**, unless it is the one that shuts the pool
down. -/
theorem Step.onward (h : Step s s') (hs : s'.state.closed = s.state.closed) : Onward s s' := by
  cases h with
  | tick d => exact .of_trace rfl rfl fun _ => rfl
  | begin purpose =>
      apply onward_spawn
      unfold acquirer
      split <;> exact .inl rfl
  | stop => exact onward_spawn (.inr rfl)
  | act hi ha =>
      exact {
        length_le := by simp
        unbroken := fun hun q message hq => hun q message (List.mem_append_left _ hq)
        tells? := fun j => .inl (tells?_set_of_eq hi _ rfl (ha.tells?_eq hs) j) }
  | @notifyOne i j purpose deadline hi hj =>
      have hne : i ≠ j := by
        rintro rfl
        simp [hi] at hj
      have hj' : (s.threads.set i (.ended .returned))[j]? =
          some (.waiting .asleep purpose deadline) := by
        rw [List.getElem?_set_ne hne, hj]
      let between : SharedPool σ V := { s with threads := s.threads.set i (.ended .returned) }
      refine .of_trace (by simp) rfl fun k => ?_
      calc _ = between.tells? k := tells?_set_of_eq hj' _ rfl (by rfl) k
        _ = s.tells? k := tells?_set_of_eq hi _ rfl (by rfl) k
  | notifyNobody hi hn => exact .of_trace (by simp) rfl (tells?_set_of_eq hi _ rfl rfl)
  | @notifyAll i drained hi =>
      let between : SharedPool σ V :=
        { s with threads := s.threads.set i (.closingOn drained.length drained) }
      refine .of_trace (by simp) rfl fun k => ?_
      calc _ = between.tells? k := by
            simp only [SharedPool.tells?, between, List.getElem?_map, Option.bind_map,
              Function.comp_def, PoolThread.tells?_notify]
        _ = s.tells? k := tells?_set_of_eq hi _ rfl (PoolThread.tells?_closingOn ..) k
  | close hi => exact onward_close hi rfl
  | closeNext hi => exact onward_close hi (PoolThread.tells?_closingOn ..)

theorem closed_of_closed (h : Run s s') (hs : s.state.closed = true) :
    s'.state.closed = true := by
  obtain ⟨later, hlater⟩ := exists_since h hs
  exact hlater.closed_eq.trans hs

/-- A run that does not shut the pool down. -/
theorem Run.onward (h : Run s s') (hs : s'.state.closed = s.state.closed) : Onward s s' := by
  induction h with
  | refl => exact .refl s
  | @tail between last hrun hstep ih =>
      -- Closing is never undone, so in between the pool is as it is at both ends.
      have hsame : between.state.closed = s.state.closed := by
        cases hlast : last.state.closed with
        | false =>
            rw [← hs, hlast]
            refine Bool.eq_false_iff.2 fun hclosed => ?_
            simp [closed_of_closed (.single hstep) hclosed] at hlast
        | true =>
            rw [← hs, hlast]
            exact closed_of_closed hrun (hs ▸ hlast)
      exact (ih hsame).trans (hstep.onward (hs.trans hsame.symm))

/-! ### The first call -/

/-- **The step of the call that shuts the pool down**: thread `i` has its section of the lock, and
finds the pool open with `rs` idle. -/
def ShutsDown (s : SharedPool σ V) (i : Nat) (rs : List (Numbered V)) (s' : SharedPool σ V) :
    Prop :=
  s.threads[i]? = some .stopping ∧ ∃ inUse state, s.state.drain = (some (rs, inUse), state) ∧
    s' = { s with
      state, threads := s.threads.set i (.announcing rs), trace := s.trace ++ [.drained rs] }

theorem ShutsDown.step {i : Nat} {rs : List (Numbered V)} (h : s.ShutsDown i rs s') :
    Step s s' := by
  obtain ⟨hi, inUse, state, hd, rfl⟩ := h
  exact .act hi (.drain hd)

/-- A step that closes an open pool is that of a call that shuts it down. -/
theorem Step.shutsDown (h : Step s s') (hs : s.state.closed = false)
    (hs' : s'.state.closed = true) : ∃ i rs, s.ShutsDown i rs s' := by
  obtain ⟨i, t, t', state, happened, hi, ha, rfl⟩ | ⟨hstill, -⟩ := h.act_or_still
  · obtain ⟨hsame, -⟩ | ⟨rfl, rs, inUse, hd, rfl, rfl⟩ := ha.tells?_eq_or_drain
    · rw [← hsame, hs'] at hs
      cases hs
    · exact ⟨i, rs, hi, inUse, state, hd, rfl⟩
  · rw [hstill.state, hs] at hs'
    cases hs'

/-- **A pool that is shut down** has been shut down by one call, before which it was open. -/
theorem exists_shutsDown (h : Run s s') (hs : s.state.closed = false)
    (hs' : s'.state.closed = true) :
    ∃ s₀ i rs s₁, Run s s₀ ∧ s₀.ShutsDown i rs s₁ ∧ Run s₁ s' := by
  induction h with
  | refl =>
      rw [hs] at hs'
      cases hs'
  | @tail between last hrun hstep ih =>
      cases hbetween : between.state.closed with
      | false =>
          obtain ⟨i, rs, hshuts⟩ := hstep.shutsDown hbetween hs'
          exact ⟨between, i, rs, last, hrun, hshuts, .refl⟩
      | true =>
          obtain ⟨s₀, i, rs, s₁, hrun₀, hshuts, hrun₁⟩ := ih hbetween
          exact ⟨s₀, i, rs, s₁, hrun₀, hshuts, hrun₁.tail hstep⟩

/-! ### What is to be done gets done -/

/-- How many steps the threads have left at most. -/
def stepsLeft (s : SharedPool σ V) : Nat := (s.threads.map PoolThread.stepsLeft).sum

/-- One thread goes and another takes its place in a sum. -/
theorem sum_map_set_add {α : Type} {l : List α} {i : Nat} {x : α} (h : l[i]? = some x)
    (f : α → Nat) (y : α) : ((l.set i y).map f).sum + f x = (l.map f).sum + f y := by
  obtain ⟨before, after, rfl, hset⟩ := exists_split_of_getElem? h
  simp only [hset, List.map_append, List.map_cons, List.sum_append, List.sum_cons]
  omega

theorem stepsLeft_set_lt {i : Nat} {t t' : PoolThread V} (hi : s.threads[i]? = some t)
    (hthreads : s'.threads = s.threads.set i t') (hlt : t'.stepsLeft < t.stepsLeft) :
    s'.stepsLeft < s.stepsLeft := by
  have hsum := sum_map_set_add hi PoolThread.stepsLeft t'
  unfold stepsLeft
  rw [hthreads]
  omega

theorem stepsLeft_close_lt {i : Nat} {t next : PoolThread V} {r : Numbered V}
    {left : List (Numbered V)} (hi : s.threads[i]? = some t)
    (hlt : next.stepsLeft < t.stepsLeft) : (s.close i r left next).stepsLeft < s.stepsLeft := by
  unfold close
  split
  · exact stepsLeft_set_lt hi rfl (Nat.zero_lt_of_lt hlt)
  · exact stepsLeft_set_lt hi rfl hlt

/-- A step of a thread that is to notify somebody. -/
theorem exists_step_of_notifying {i : Nat} (hi : s.threads[i]? = some .notifying) :
    ∃ s', Step s s' ∧ s'.stepsLeft < s.stepsLeft := by
  by_cases hn : ∀ t ∈ s.threads, t.waits .asleep = false
  · exact ⟨_, .notifyNobody hi hn, stepsLeft_set_lt hi rfl Nat.zero_lt_one⟩
  · obtain ⟨u, hu, hasleep⟩ : ∃ u ∈ s.threads, u.waits .asleep = true := by simpa using hn
    obtain ⟨j, hj⟩ := List.mem_iff_getElem?.1 hu
    cases u with
    | waiting wait purpose deadline =>
        obtain rfl : wait = .asleep := by simpa [PoolThread.waits] using hasleep
        have hne : i ≠ j := by
          rintro rfl
          simp [hi] at hj
        have hj' : (s.threads.set i (.ended .returned))[j]? =
            some (.waiting .asleep purpose deadline) := by
          rw [List.getElem?_set_ne hne, hj]
        have hends := sum_map_set_add hi PoolThread.stepsLeft (.ended .returned)
        have hwakes :=
          sum_map_set_add hj' PoolThread.stepsLeft (.waiting .notified purpose deadline)
        -- Two threads change: one ends, and the one that it wakes has a step less.
        refine ⟨_, .notifyOne hi hj, ?_⟩
        simp only [stepsLeft, PoolThread.stepsLeft] at *
        omega
    | _ => cases hasleep

/-- A step of a thread that is to notify all. -/
theorem exists_step_of_announcing {i : Nat} {drained : List (Numbered V)}
    (hi : s.threads[i]? = some (.announcing drained)) :
    ∃ s', Step s s' ∧ s'.stepsLeft < s.stepsLeft := by
  have hgoes := sum_map_set_add hi PoolThread.stepsLeft (.closingOn drained.length drained)
  rw [PoolThread.stepsLeft_closingOn] at hgoes
  refine ⟨_, .notifyAll hi, ?_⟩
  generalize s.threads.set i (.closingOn drained.length drained) = threads at *
  have hwakes : ((threads.map PoolThread.notify).map PoolThread.stepsLeft).sum ≤
      (threads.map PoolThread.stepsLeft).sum := by
    rw [List.map_map]
    exact List.sum_le_sum fun t _ => t.stepsLeft_notify_le
  simp only [stepsLeft, PoolThread.stepsLeft] at *
  omega

/-- In a pool that is shut down a thread that has steps left can make one. -/
theorem exists_step_of_closed (hs : s.state.closed = true) (hpos : 0 < s.stepsLeft) :
    ∃ s', Step s s' ∧ s'.stepsLeft < s.stepsLeft := by
  obtain ⟨n, hn, hleft⟩ := List.sum_pos_iff_exists_pos_nat.1 hpos
  obtain ⟨t, ht, rfl⟩ := List.mem_map.1 hn
  obtain ⟨i, hi⟩ := List.mem_iff_getElem?.1 ht
  cases t with
  | waiting wait purpose deadline =>
      have hc : s.state.check s.clock deadline = (.closed, s.state) :=
        PoolState.check_eq_closed_iff.2 ⟨hs, rfl⟩
      cases wait with
      | asleep => exact ⟨_, .act hi .wake, stepsLeft_set_lt hi rfl Nat.one_lt_two⟩
      | ready => exact ⟨_, .act hi (.refuse (by decide) hc), stepsLeft_set_lt hi rfl hleft⟩
      | notified => exact ⟨_, .act hi (.refuse (by decide) hc), stepsLeft_set_lt hi rfl hleft⟩
  | holding purpose r =>
      have hg := PoolState.giveBack_eq_some_iff (r := r).2 ⟨hs, rfl, rfl⟩
      exact ⟨_, .act hi (.giveBackLate hg), stepsLeft_set_lt hi rfl Nat.one_lt_two⟩
  | notifying => exact exists_step_of_notifying hi
  | closing r => exact ⟨_, .close hi, stepsLeft_close_lt hi hleft⟩
  | stopping =>
      have hd := PoolState.drain_eq_none_iff.2 ⟨hs, rfl⟩
      exact ⟨_, .act hi (.drainAgain hd), stepsLeft_set_lt hi rfl hleft⟩
  | announcing drained => exact exists_step_of_announcing hi
  | closingAll count rs =>
      cases rs with
      | nil => cases hleft
      | cons r left =>
          refine ⟨_, .closeNext hi, stepsLeft_close_lt hi ?_⟩
          rw [PoolThread.stepsLeft_closingOn]
          exact Nat.lt_succ_self _
  | ended e => cases hleft

/-- **What is to be done gets done**: from any state of a pool that is shut down there is a run
after which no thread has a step left. -/
theorem exists_run_finished (hs : s.state.closed = true) : ∃ s', Run s s' ∧ s'.stepsLeft = 0 := by
  -- On the steps that are left: each step that a thread makes leaves fewer.
  induction hn : s.stepsLeft using Nat.strongRecOn generalizing s with
  | ind n ih =>
      rcases Nat.eq_zero_or_pos s.stepsLeft with hzero | hpos
      · exact ⟨s, .refl, hzero⟩
      · obtain ⟨s', hstep, hlt⟩ := exists_step_of_closed hs hpos
        obtain ⟨s'', hrun, hzero⟩ := ih _ (hn ▸ hlt) (closed_of_closed (.single hstep) hs) rfl
        exact ⟨s'', .head hstep hrun, hzero⟩

/-- A run after which no thread has a step left has closed whatever there was to close. -/
theorem of_stepsLeft_eq_zero (h : s.stepsLeft = 0) :
    s.held = [] ∧ s.toClose = [] ∧
      ∀ j n, s.tells? j = some n → s.threads[j]? = some (.ended (.stopped n)) := by
  have hall : ∀ t ∈ s.threads, t.stepsLeft = 0 := by
    intro t ht
    exact List.sum_eq_zero_iff_forall_eq_nat.1 h _ (List.mem_map_of_mem ht)
  refine ⟨List.flatMap_eq_nil_iff.2 ?_, List.flatMap_eq_nil_iff.2 ?_, ?_⟩
  · intro t ht
    exact (PoolThread.of_stepsLeft_eq_zero (hall t ht)).1
  · intro t ht
    exact (PoolThread.of_stepsLeft_eq_zero (hall t ht)).2.1
  · intro j n hn
    obtain ⟨t, hj, ht⟩ := Option.bind_eq_some_iff.1 hn
    rw [hj, (PoolThread.of_stepsLeft_eq_zero (hall t (List.mem_of_getElem? hj))).2.2 n ht]

/-! ### Closings that do not break down -/

end SharedPool

/-- No closing breaks down; it may fail. -/
def Factory.Endures (f : Factory σ V) : Prop :=
  ∀ v works message, (f.close v works).1 ≠ .panicked message

namespace SharedPool

variable {s s' : SharedPool σ V} {size : Nat}

theorem Step.factory_eq (h : Step s s') : s'.factory = s.factory := by
  cases h with
  | close => unfold SharedPool.close; split <;> rfl
  | closeNext => unfold SharedPool.close; split <;> rfl
  | _ => rfl

theorem Step.unbroken (h : Step s s') (hend : s.factory.Endures) (hs : s.Unbroken) :
    s'.Unbroken := by
  intro r message hr
  obtain ⟨i, t, t', state, happened, hi, ha, rfl⟩ | ⟨-, later, htrace, hclosing⟩ :=
    h.act_or_still
  · obtain hold | hnew := List.mem_append.1 hr
    · exact hs r message hold
    · have hnone := List.flatMap_eq_nil_iff.1 ha.closes_nothing.1 _ hnew
      cases hnone
  · obtain hold | hnew := List.mem_append.1 (htrace ▸ hr)
    · exact hs r message hold
    · obtain ⟨q, heq⟩ | ⟨rs, heq⟩ := hclosing _ hnew
      · injection heq with _ hresult
        exact hend _ _ message hresult.symm
      · cases heq

theorem Run.unbroken (h : Run s s') (hend : s.factory.Endures) (hs : s.Unbroken) :
    s'.factory.Endures ∧ s'.Unbroken := by
  induction h with
  | refl => exact ⟨hend, hs⟩
  | tail _ hstep ih => exact ⟨hstep.factory_eq ▸ ih.1, hstep.unbroken ih.1 ih.2⟩

/-! ### What holds after a shutdown -/

section

variable {f : Factory σ V} {works : σ} {timeout : Duration} {p : Pool σ V} {clock : Instant}
  {s₀ s₁ : SharedPool σ V} {i : Nat} {rs : List (Numbered V)} {later : List (Happening V)}

/-- In an open pool no call to shut down has returned anything, or is going to. -/
theorem eq_zero_of_tells?_eq_some (hopen : (ofPool p clock).state.closed = false)
    (hrun : Run (ofPool p clock) s) (hs : s.state.closed = false) {j n : Nat}
    (h : s.tells? j = some n) : n = 0 := by
  obtain heq | ⟨hnone, -⟩ | ⟨-, hzero⟩ := (hrun.onward (hs.trans hopen.symm)).tells? j
  · rw [heq] at h
    cases h
  · rw [hnone] at h
    cases h
  · exact Option.some.inj (h.symm.trans hzero)

/-- The call that comes first returns how much it has taken out, every other call nothing. -/
theorem eq_of_tells?_eq_some (hopen : (ofPool p clock).state.closed = false)
    (hrun₀ : Run (ofPool p clock) s₀) (hshuts : s₀.ShutsDown i rs s₁) (hon : Onward s₁ s)
    {j n : Nat} (h : s.tells? j = some n) : n = if j = i then rs.length else 0 := by
  obtain ⟨hi, inUse, state, hd, rfl⟩ := hshuts
  obtain ⟨hs₀, -⟩ := PoolState.drain_eq_some_iff.1 hd
  obtain ⟨hlt, -⟩ := List.getElem?_eq_some_iff.1 hi
  obtain heq | ⟨hnone, -⟩ | ⟨hle, hzero⟩ := hon.tells? j
  · rw [heq, tells?_set hi rfl] at h
    split at h
    · next hj =>
      rw [if_pos hj]
      exact (Option.some.inj h).symm
    · next hj =>
      rw [if_neg hj]
      exact eq_zero_of_tells?_eq_some hopen hrun₀ hs₀ h
  · rw [hnone] at h
    cases h
  · rw [List.length_set] at hle
    rw [if_neg (Nat.ne_of_gt (Nat.lt_of_lt_of_le hlt hle))]
    exact Option.some.inj (h.symm.trans hzero)

/-- What has been closed since the pool was shut down, or is still to be closed: what was idle then
and what has come back since. -/
theorem ShutsDown.closes (hshuts : s₀.ShutsDown i rs s₁) (hs₀ : Accounted size s₀)
    (hs : Accounted size s) (hsince : Since s₁ s later) (hun : s.Unbroken) :
    (s.closed ++ s.toClose).Perm (rs ++ later.flatMap Happening.comebacks) := by
  obtain ⟨hi, inUse, state, hd, rfl⟩ := hshuts
  obtain ⟨hopen, -⟩ := PoolState.drain_eq_some_iff.1 hd
  obtain ⟨htoClose, hclosed⟩ := hs₀.of_open hopen
  have hun₀ : s₀.Unbroken := by
    intro r message hr
    refine hun r message ?_
    rw [hsince.trace]
    exact List.mem_append_left _ (List.mem_append_left _ hr)
  have hletGo := hs₀.unbroken hun₀
  -- What was idle moves to the first call, and from there on only what comes back is added.
  have hmoved := perm_flatMap_set hi PoolThread.toClose (.announcing rs)
  have hcloses := hsince.closes
  rw [hs.unbroken hun] at hcloses
  classical
  rw [List.perm_iff_count] at hmoved hcloses ⊢
  intro r
  have hmoved := hmoved r
  have hcloses := hcloses r
  simp only [toClose, closed, letGo] at htoClose hclosed hletGo
  simp only [toClose, closed, letGo, PoolThread.toClose, Happening.closings, Happening.losses,
    htoClose, hclosed, hletGo, List.flatMap_append, List.flatMap_cons, List.flatMap_nil,
    List.count_append, List.count_nil] at hmoved hcloses ⊢
  omega

/-- Of what has been closed or is still to be, each is there once; with nothing else left it is all
that was created. -/
theorem Accounted.of_closes (hs : Accounted size s) (hun : s.Unbroken) (hidle : s.state.idle = [])
    (hcloses : (s.closed ++ s.toClose).Perm rs) :
    (places (s.closed ++ s.toClose)).Nodup ∧
      (s.held = [] → s.toClose = [] →
        rs.length = size ∧ (places s.closed).Perm (List.range size)) := by
  have hall := hs.whereabouts
  rw [SharedPool.whereabouts, hs.unbroken hun, hidle, List.nil_append, List.append_nil] at hall
  have hnodup := hall.nodup_iff.2 List.nodup_range
  constructor
  · rw [List.append_assoc, places_append] at hnodup
    have hapart := (List.nodup_append.1 hnodup).2.1
    rwa [places_append, List.perm_append_comm.nodup_iff, ← places_append] at hapart
  · intro hheld htoClose
    rw [hheld, htoClose, List.nil_append, List.nil_append] at hall
    rw [htoClose, List.append_nil] at hcloses
    refine ⟨?_, hall⟩
    calc rs.length = s.closed.length := hcloses.length_eq.symm
      _ = (places s.closed).length := (length_places _).symm
      _ = size := by rw [hall.length_eq, List.length_range]

/-- **What is to be done can be done, and every call returns** unless a closing breaks down. -/
theorem exists_run_returned (hs : s.state.closed = true) :
    ∃ s', Run s s' ∧ Onward s s' ∧ s'.held = [] ∧ s'.toClose = [] ∧
      (s'.Unbroken →
        ∀ j n, s.tells? j = some n → s'.threads[j]? = some (.ended (.stopped n))) := by
  obtain ⟨s', hrun, hnone⟩ := exists_run_finished hs
  obtain ⟨hheld, htoClose, hended⟩ := of_stepsLeft_eq_zero hnone
  have hon : Onward s s' := hrun.onward ((closed_of_closed hrun hs).trans hs.symm)
  refine ⟨s', hrun, hon, hheld, htoClose, ?_⟩
  intro hun j n hj
  obtain ⟨t, ht, -⟩ := Option.bind_eq_some_iff.1 hj
  have hlt := (List.getElem?_eq_some_iff.1 ht).1
  exact hended j n ((hon.tells?_eq hun hlt).trans hj)

/-- **Shutdown is final and accounts for every resource.**  Take any run of the threads of a pool
that was built up to the call whose section of the lock comes first, and any run from there.  That
call returns how many resources were idle then, every other call returns nothing.  Since then no
acquisition has found a resource or has given up on one: a check finds the pool closed
whatever its deadline, nothing is idle, and only the resources that come back are counted.  Unless
a closing breaks down, the resources that were idle and those that have come back have been passed
to the factory or are still to be, each once; when nothing is held and nothing is still to be
closed these are all that were created, and each of them has been closed once.  That point can
always be reached, and then every call has returned unless a closing has broken down. -/
theorem shutdown_final (hbuilt : (Pool.build f works size timeout).result = .done (.ok p))
    (hrun₀ : Run (ofPool p clock) s₀) (hshuts : s₀.ShutsDown i rs s₁) (hrun : Run s₁ s) :
    rs = s₀.state.idle ∧
    (∀ j n : Nat, s.threads[j]? = some (.ended (.stopped n)) → n = if j = i then rs.length else 0) ∧
    (∃ later, s.trace = s₁.trace ++ later ∧ (∀ e ∈ later, e.Late) ∧
      (∀ now deadline, s.state.check now deadline = (.closed, s.state)) ∧
      s.state.idle = [] ∧ s.state.acquired = s₀.state.acquired ∧
      s.state.exhausted = s₀.state.exhausted ∧
      s.state.released = s₀.state.released + (later.flatMap Happening.comebacks).length ∧
      (s.Unbroken →
        (s.closed ++ s.toClose).Perm (rs ++ later.flatMap Happening.comebacks) ∧
        (places (s.closed ++ s.toClose)).Nodup ∧
        (s.held = [] → s.toClose = [] →
          rs.length + (later.flatMap Happening.comebacks).length = size ∧
          (places s.closed).Perm (List.range size)))) ∧
    ∃ s', Run s s' ∧ s'.held = [] ∧ s'.toClose = [] ∧ (f.Endures → s'.Unbroken) ∧
      (s'.Unbroken → s'.threads[i]? = some (.ended (.stopped rs.length)) ∧
        ∀ j : Nat, s.threads[j]? = some .stopping →
          s'.threads[j]? = some (.ended (.stopped 0))) := by
  obtain ⟨hfactory, -, hstate⟩ := Pool.state_of_build hbuilt
  have hopen : (ofPool p clock).state.closed = false := by rw [ofPool, hstate]
  have hbegin := accounted_ofPool hbuilt clock
  have hs₀ := hbegin.run hrun₀
  have hs := (hs₀.step hshuts.step).run hrun
  have hshuts' := hshuts
  obtain ⟨hi, inUse, state, hd, hs₁⟩ := hshuts'
  obtain ⟨hopen₀, hidle, -, hstate₁⟩ := PoolState.drain_eq_some_iff.1 hd
  have hclosed₁ : s₁.state.closed = true := by rw [hs₁, hstate₁]
  obtain ⟨later, hsince⟩ := exists_since hrun hclosed₁
  have hclosed : s.state.closed = true := hsince.closed_eq.trans hclosed₁
  have hon : Onward s₁ s := hrun.onward hsince.closed_eq
  have hnow := hsince.state
  rw [hs₁, hstate₁] at hnow
  refine ⟨hidle, ?_, ⟨later, hsince.trace, hsince.late, ?_, ?_, ?_, ?_, ?_, ?_⟩, ?_⟩
  · intro j n hj
    exact eq_of_tells?_eq_some hopen hrun₀ hshuts hon (by rw [tells?, hj]; rfl)
  · intro now deadline
    exact PoolState.check_eq_closed_iff.2 ⟨hclosed, rfl⟩
  · rw [hnow]
  · rw [hnow]
  · rw [hnow]
  · rw [hnow]
  · intro hun
    have hcloses := hshuts.closes hs₀ hs hsince hun
    have hall := hs.of_closes hun (by rw [hnow]) hcloses
    rw [List.length_append] at hall
    exact ⟨hcloses, hall⟩
  · obtain ⟨s', hrun', hon', hheld, htoClose, hreturned⟩ := exists_run_returned hclosed
    refine ⟨s', hrun', hheld, htoClose, ?_, ?_⟩
    · intro hend
      have hsound : p.factory.Endures := hfactory ▸ hend
      have hnothing : (ofPool p clock).Unbroken := by simp [Unbroken, ofPool]
      have hall := ((hrun₀.tail hshuts.step).trans hrun).trans hrun'
      exact (Run.unbroken hall hsound hnothing).2
    · intro hun
      have hlt : i < s₁.threads.length := by
        rw [hs₁, List.length_set]
        exact (List.getElem?_eq_some_iff.1 hi).1
      refine ⟨hreturned hun i _ ?_, ?_⟩
      · rw [hon.tells?_eq (hon'.unbroken hun) hlt, hs₁, tells?_set hi rfl, if_pos rfl]
        rfl
      · intro j hj
        exact hreturned hun j 0 (by rw [tells?, hj]; rfl)

end

/-- Two calls shut a pool of two resources down while one of them is held.  The first call closes
the other resource, though not well, and returns one; the second returns nothing; and the resource
that comes back is closed. -/
theorem shutdown_final_of_late_return :
    ∃ s₀ s₁ s : SharedPool Workshop Specimen,
      (Pool.build Workshop.factory { closings := [.failed "busy"] } 2 (.ofSecs 1)).result =
        .done (.ok twoSpecimens) ∧
      Run (ofPool twoSpecimens 0) s₀ ∧ s₀.ShutsDown 1 [⟨1, ⟨1, ""⟩⟩] s₁ ∧ Run s₁ s ∧
      s.threads =
        [.ended .returned, .ended (.stopped 1), .ended (.stopped 0)] ∧
      [(⟨1, ⟨1, ""⟩⟩ : Numbered Specimen)] = s₀.state.idle ∧
      (places s.closed).Perm (List.range 2) := by
  obtain ⟨s₀, s₁, s, hrun₀, hshuts, hrun, hthreads, htrace⟩ :
      ∃ s₀ s₁ s, Run (ofPool twoSpecimens 0) s₀ ∧ s₀.ShutsDown 1 [⟨1, ⟨1, ""⟩⟩] s₁ ∧ Run s₁ s ∧
        s.threads = [.ended .returned, .ended (.stopped 1), .ended (.stopped 0)] ∧
        s.trace = [.handedOut ⟨0, ⟨0, ""⟩⟩, .drained [⟨1, ⟨1, ""⟩⟩],
          .closed ⟨1, ⟨1, ""⟩⟩ (.failed "busy"), .cameBack ⟨0, ⟨0, ""⟩⟩,
          .closed ⟨0, ⟨0, ""⟩⟩ (.ok ())] := by
    refine ⟨_, _, _, Relation.ReflTransGen.refl
      |>.tail (.begin .caller)
      |>.tail (.act (i := 0) rfl (.take (by decide) rfl))
      |>.tail .stop
      |>.tail .stop, ⟨rfl, _, _, rfl, rfl⟩, Relation.ReflTransGen.refl
      |>.tail (.act (i := 2) rfl (.drainAgain rfl))
      |>.tail (.notifyAll (i := 1) rfl)
      |>.tail (.closeNext (i := 1) rfl)
      |>.tail (.act (i := 0) rfl (.giveBackLate rfl))
      |>.tail (.close (i := 0) rfl), rfl, rfl⟩
  have hbuilt : (Pool.build Workshop.factory { closings := [.failed "busy"] } 2
      (.ofSecs 1)).result = .done (.ok twoSpecimens) := rfl
  obtain ⟨hidle, -, ⟨later, -, -, -, -, -, -, -, hall⟩, -⟩ :=
    shutdown_final hbuilt hrun₀ hshuts hrun
  obtain ⟨-, -, hevery⟩ := hall (by simp [Unbroken, htrace])
  have hheld : s.held = [] := by rw [held, hthreads]; rfl
  have htoClose : s.toClose = [] := by rw [toClose, hthreads]; rfl
  exact ⟨s₀, s₁, s, hbuilt, hrun₀, hshuts, hrun, hthreads, hidle, (hevery hheld htoClose).2⟩

end SharedPool

end DataTier
