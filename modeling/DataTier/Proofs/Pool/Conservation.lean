/-
**No resource of a shared pool is lost or duplicated.**

However the steps of the threads follow each other, every resource that was created is in exactly
one place: it is idle, or one thread holds it, or one thread has taken it out and is to close it,
or it has been passed to the factory.  The counters of the pool agree with that.

A step moves resources between the threads and the state of the pool one thread at a time, so
what is shown of a thread that acts by itself (`PoolThread.Acts.keeps`, `Acts.counts`) carries over
to a step of the pool, and from there to runs.

Main definitions:

* `DataTier.SharedPool.whereabouts` — all resources, wherever they are;
* `DataTier.SharedPool.Accounted` — the invariant.

Main results:

* `DataTier.SharedPool.Step.conserves` — a step permutes the resources;
* `DataTier.SharedPool.Accounted.step` — a step keeps the invariant;
* `DataTier.SharedPool.resources_partitioned` — what holds after any run of a pool that was built.
-/

import DataTier.Pool.Scripted
import DataTier.Proofs.Pool.Threads
import Mathlib.Data.List.Nodup
import Mathlib.Data.List.Perm.Basic

set_option relaxedAutoImplicit false
set_option autoImplicit false

namespace DataTier

variable {σ V : Type}

/-! ### One thread -/

namespace PoolThread

variable {timeout : Duration} {now : Instant} {s s' : PoolState (Numbered V)}
  {t t' : PoolThread V} {happened : List (Happening V)}

/-- A thread that acts by itself moves resources between itself and the idle ones. -/
theorem Acts.keeps (h : Acts timeout now s t t' s' happened) :
    (places (s'.idle ++ t'.held ++ t'.toClose)).Perm (places (s.idle ++ t.held ++ t.toClose)) := by
  cases h with
  | wake => exact .rfl
  | dropWaiting => exact .rfl
  | dropHolding => exact .rfl
  | refuse hw hc =>
      obtain ⟨-, rfl⟩ := PoolState.check_eq_closed_iff.1 hc
      exact .rfl
  | @take wait purpose deadline r s' hw hc =>
      obtain ⟨-, idle, hidle, rfl⟩ := PoolState.check_eq_acquired_iff.1 hc
      simp only [held, toClose, hidle, List.append_nil, places_append, places_cons, places_nil]
      exact List.perm_append_singleton ..
  | giveUp hw hc =>
      obtain ⟨-, -, -, rfl⟩ := PoolState.check_eq_exhausted_iff.1 hc
      exact .rfl
  | sleep hw hc =>
      obtain ⟨-, -, -, rfl⟩ := PoolState.check_eq_wait_iff.1 hc
      exact .rfl
  | change v => simp [held, toClose]
  | giveBack hg =>
      obtain ⟨-, rfl⟩ := PoolState.giveBack_eq_none_iff.1 hg
      simp [held, toClose]
  | giveBackLate hg =>
      obtain ⟨-, rfl, rfl⟩ := PoolState.giveBack_eq_some_iff.1 hg
      simp [held, toClose]
  | drain hd =>
      obtain ⟨-, rfl, -, rfl⟩ := PoolState.drain_eq_some_iff.1 hd
      simp [held, toClose]
  | drainAgain hd =>
      obtain ⟨-, rfl⟩ := PoolState.drain_eq_none_iff.1 hd
      exact .rfl

/-- A thread that acts by itself closes nothing and lets go of nothing. -/
theorem Acts.closes_nothing (h : Acts timeout now s t t' s' happened) :
    happened.flatMap Happening.closings = [] ∧ happened.flatMap Happening.losses = [] := by
  cases h <;> exact ⟨rfl, rfl⟩

/-- The counters follow what a thread holds. -/
theorem Acts.counts (h : Acts timeout now s t t' s' happened) (hin : t.held.length ≤ s.inUse) :
    s'.inUse + t.held.length = s.inUse + t'.held.length ∧
      s'.acquired + s.released + t.held.length = s.acquired + s'.released + t'.held.length := by
  cases h with
  | wake => exact ⟨rfl, rfl⟩
  | dropWaiting => exact ⟨rfl, rfl⟩
  | dropHolding => exact ⟨rfl, rfl⟩
  | refuse hw hc =>
      obtain ⟨-, rfl⟩ := PoolState.check_eq_closed_iff.1 hc
      exact ⟨rfl, rfl⟩
  | take hw hc =>
      obtain ⟨-, idle, -, rfl⟩ := PoolState.check_eq_acquired_iff.1 hc
      refine ⟨rfl, ?_⟩
      simp only [held, List.length_nil, List.length_singleton]
      omega
  | giveUp hw hc =>
      obtain ⟨-, -, -, rfl⟩ := PoolState.check_eq_exhausted_iff.1 hc
      exact ⟨rfl, rfl⟩
  | sleep hw hc =>
      obtain ⟨-, -, -, rfl⟩ := PoolState.check_eq_wait_iff.1 hc
      exact ⟨rfl, rfl⟩
  | change v => exact ⟨rfl, rfl⟩
  | giveBack hg =>
      obtain ⟨-, rfl⟩ := PoolState.giveBack_eq_none_iff.1 hg
      simp only [held, List.length_nil, List.length_singleton] at hin ⊢
      omega
  | giveBackLate hg =>
      obtain ⟨-, -, rfl⟩ := PoolState.giveBack_eq_some_iff.1 hg
      simp only [held, List.length_nil, List.length_singleton] at hin ⊢
      omega
  | drain hd =>
      obtain ⟨-, -, -, rfl⟩ := PoolState.drain_eq_some_iff.1 hd
      exact ⟨rfl, rfl⟩
  | drainAgain hd =>
      obtain ⟨-, rfl⟩ := PoolState.drain_eq_none_iff.1 hd
      exact ⟨rfl, rfl⟩

/-- In a pool that stays open no thread takes out a resource to close it. -/
theorem Acts.of_open (h : Acts timeout now s t t' s' happened) (hs : s'.closed = false) :
    s.closed = false ∧ t'.toClose = t.toClose := by
  cases h with
  | wake => exact ⟨hs, rfl⟩
  | dropWaiting => exact ⟨hs, rfl⟩
  | dropHolding => exact ⟨hs, rfl⟩
  | refuse hw hc =>
      obtain ⟨-, rfl⟩ := PoolState.check_eq_closed_iff.1 hc
      exact ⟨hs, rfl⟩
  | take hw hc => exact ⟨(PoolState.check_eq_acquired_iff.1 hc).1, rfl⟩
  | giveUp hw hc => exact ⟨(PoolState.check_eq_exhausted_iff.1 hc).1, rfl⟩
  | sleep hw hc => exact ⟨(PoolState.check_eq_wait_iff.1 hc).1, rfl⟩
  | change v => exact ⟨hs, rfl⟩
  | giveBack hg => exact ⟨(PoolState.giveBack_eq_none_iff.1 hg).1, rfl⟩
  | giveBackLate hg =>
      obtain ⟨hclosed, -, rfl⟩ := PoolState.giveBack_eq_some_iff.1 hg
      simp [hclosed] at hs
  | drain hd =>
      obtain ⟨-, -, -, rfl⟩ := PoolState.drain_eq_some_iff.1 hd
      simp at hs
  | drainAgain hd =>
      obtain ⟨-, rfl⟩ := PoolState.drain_eq_none_iff.1 hd
      exact ⟨hs, rfl⟩

@[simp] theorem toClose_ended (e : Ending) : (ended e : PoolThread V).toClose = [] := rfl

@[simp] theorem held_closingOn (n : Nat) (rs : List (Numbered V)) : (closingOn n rs).held = [] := by
  cases rs <;> rfl

@[simp] theorem toClose_closingOn (n : Nat) (rs : List (Numbered V)) :
    (closingOn n rs).toClose = rs := by
  cases rs <;> rfl

@[simp] theorem held_notify (t : PoolThread V) : t.notify.held = t.held := by
  unfold notify
  split <;> rfl

@[simp] theorem toClose_notify (t : PoolThread V) : t.notify.toClose = t.toClose := by
  unfold notify
  split <;> rfl

end PoolThread

/-! ### One thread among others -/

theorem places_perm {rs qs : List (Numbered V)} (h : rs.Perm qs) : (places rs).Perm (places qs) :=
  h.map _

/-- What a thread had goes, and what takes its place comes. -/
theorem perm_flatMap_set {α β : Type} {l : List α} {i : Nat} {x : α} (h : l[i]? = some x)
    (f : α → List β) (y : α) : ((l.set i y).flatMap f ++ f x).Perm (l.flatMap f ++ f y) := by
  classical
  obtain ⟨before, after, rfl, hset⟩ := exists_split_of_getElem? h
  rw [hset, List.perm_iff_count]
  intro b
  simp only [List.flatMap_append, List.flatMap_cons, List.count_append]
  omega

theorem flatMap_set_of_eq {α β : Type} {l : List α} {i : Nat} {x y : α} (h : l[i]? = some x)
    {f : α → List β} (hf : f y = f x) : (l.set i y).flatMap f = l.flatMap f := by
  obtain ⟨before, after, rfl, hset⟩ := exists_split_of_getElem? h
  simp only [hset, List.flatMap_append, List.flatMap_cons, hf]

/-! ### Steps of the pool -/

namespace SharedPool

variable {s s' : SharedPool σ V} {size : Nat}

/-- All resources: idle, held, to be closed, passed to the factory, and let go of. -/
def whereabouts (s : SharedPool σ V) : List (Numbered V) :=
  s.state.idle ++ s.held ++ s.toClose ++ s.closed ++ s.letGo

/-- No closing has broken down. -/
def Unbroken (s : SharedPool σ V) : Prop :=
  ∀ r message, Happening.closed r (.panicked message) ∉ s.trace

/-- Nobody takes or gives back a resource, and what is closed or let go of was to be closed. -/
structure Still (s s' : SharedPool σ V) : Prop where
  state : s'.state = s.state
  held : s'.held = s.held
  closes : (s'.toClose ++ s'.closed ++ s'.letGo).Perm (s.toClose ++ s.closed ++ s.letGo)
  of_nothing : s.toClose = [] → s'.toClose = [] ∧ s'.closed = s.closed
  unbroken : s'.Unbroken → s.Unbroken ∧ s'.letGo = s.letGo

theorem Still.of_eq (hstate : s'.state = s.state) (hheld : s'.held = s.held)
    (htoClose : s'.toClose = s.toClose) (htrace : s'.trace = s.trace) : Still s s' where
  state := hstate
  held := hheld
  closes := by rw [htoClose, closed, letGo, htrace, closed, letGo]
  of_nothing h := ⟨htoClose.trans h, by rw [closed, htrace, closed]⟩
  unbroken h := ⟨by rwa [Unbroken, htrace] at h, by rw [letGo, htrace, letGo]⟩

theorem still_spawn {t : PoolThread V} (hheld : t.held = []) (htoClose : t.toClose = []) :
    Still s (s.spawn t) := by
  refine .of_eq rfl ?_ ?_ rfl
  · simp [held, spawn, hheld]
  · simp [toClose, spawn, htoClose]

/-- A thread that closes `r` and has `left` still to close goes on with `left`, or lets go of it. -/
theorem still_close {i : Nat} {t next : PoolThread V} {r : Numbered V} {left : List (Numbered V)}
    (hi : s.threads[i]? = some t) (hheld : t.held = []) (htoClose : t.toClose = r :: left)
    (hheld' : next.held = []) (htoClose' : next.toClose = left) :
    Still s (s.close i r left next) := by
  have hmem : r ∈ s.toClose :=
    List.mem_flatMap.2 ⟨t, List.mem_of_getElem? hi, by simp [htoClose]⟩
  have hsome : s.toClose ≠ [] := List.ne_nil_of_mem hmem
  unfold close
  split
  -- A closing that breaks down ends the thread, which lets go of what it has left.
  · next message works hr =>
    exact {
      state := rfl
      held := flatMap_set_of_eq hi (hheld.symm ▸ rfl)
      closes := by
        have hmoved := perm_flatMap_set hi PoolThread.toClose (.ended (.broken message))
        classical
        rw [List.perm_iff_count] at hmoved ⊢
        intro x
        have := hmoved x
        simp only [htoClose, toClose, closed, letGo, PoolThread.toClose_ended,
          List.flatMap_append, List.flatMap_cons, List.flatMap_nil, Happening.closings,
          Happening.losses, List.count_append, List.count_cons, List.count_nil] at this ⊢
        omega
      of_nothing := fun h => absurd h hsome
      unbroken := fun h => absurd (by simp) (h r message) }
  · next result works hr hne =>
    exact {
      state := rfl
      held := flatMap_set_of_eq hi (hheld'.trans hheld.symm)
      closes := by
        have hmoved := perm_flatMap_set hi PoolThread.toClose next
        classical
        rw [List.perm_iff_count] at hmoved ⊢
        intro x
        have := hmoved x
        simp only [htoClose, htoClose', toClose, closed, letGo, List.flatMap_append,
          List.flatMap_cons, List.flatMap_nil, Happening.closings, Happening.losses,
          List.count_append, List.count_cons, List.count_nil] at this ⊢
        omega
      of_nothing := fun h => absurd h hsome
      unbroken := fun h =>
        ⟨fun q message hq => h q message (List.mem_append_left _ hq),
          by simp [letGo, Happening.losses]⟩ }

/-- What is added to the trace when a resource is closed. -/
def Closing (s : SharedPool σ V) (e : Happening V) : Prop :=
  (∃ r, e = .closed r (s.factory.close r.value s.works).1) ∨ ∃ rs, e = .letGo rs

theorem trace_close (s : SharedPool σ V) (i : Nat) (r : Numbered V) (left : List (Numbered V))
    (next : PoolThread V) :
    ∃ later, (s.close i r left next).trace = s.trace ++ later ∧ ∀ e ∈ later, s.Closing e := by
  unfold close
  split
  · next message works hr =>
    refine ⟨_, rfl, ?_⟩
    intro e he
    rcases List.mem_pair.1 he with rfl | rfl
    · exact .inl ⟨r, by rw [hr]⟩
    · exact .inr ⟨left, rfl⟩
  · next result works hne hr =>
    refine ⟨_, rfl, ?_⟩
    intro e he
    obtain rfl := List.mem_singleton.1 he
    exact .inl ⟨r, by rw [hr]⟩

/-- A step is either an act of one thread, or leaves the resources where they are apart from what
is closed. -/
theorem Step.act_or_still (h : Step s s') :
    (∃ i t t' state happened, s.threads[i]? = some t ∧
      t.Acts s.timeout s.clock s.state t' state happened ∧
      s' = { s with state, threads := s.threads.set i t', trace := s.trace ++ happened }) ∨
    Still s s' ∧ ∃ later, s'.trace = s.trace ++ later ∧ ∀ e ∈ later, s.Closing e := by
  have hnothing : ∃ later, s.trace = s.trace ++ later ∧ ∀ e ∈ later, s.Closing e :=
    ⟨[], (List.append_nil _).symm, List.forall_mem_nil _⟩
  cases h with
  | tick d => exact .inr ⟨.of_eq rfl rfl rfl rfl, hnothing⟩
  | begin purpose =>
      refine .inr ⟨?_, hnothing⟩
      apply still_spawn
      · unfold acquirer
        split <;> rfl
      · unfold acquirer
        split <;> rfl
  | stop => exact .inr ⟨still_spawn rfl rfl, hnothing⟩
  | @act i t t' state happened hi ha => exact .inl ⟨i, t, t', state, happened, hi, ha, rfl⟩
  | @notifyOne i j purpose deadline hi hj =>
      have hne : i ≠ j := by
        rintro rfl
        simp [hi] at hj
      have hj' : (s.threads.set i (.ended .returned))[j]? =
          some (.waiting .asleep purpose deadline) := by
        rw [List.getElem?_set_ne hne, hj]
      refine .inr ⟨.of_eq rfl ?_ ?_ rfl, hnothing⟩
      · exact (flatMap_set_of_eq hj' (by rfl)).trans (flatMap_set_of_eq hi (by rfl))
      · exact (flatMap_set_of_eq hj' (by rfl)).trans (flatMap_set_of_eq hi (by rfl))
  | notifyNobody hi hn =>
      refine .inr ⟨.of_eq rfl ?_ ?_ rfl, hnothing⟩
      · exact flatMap_set_of_eq hi (by rfl)
      · exact flatMap_set_of_eq hi (by rfl)
  | notifyAll hi =>
      refine .inr ⟨.of_eq rfl ?_ ?_ rfl, hnothing⟩
      · simp only [held, List.flatMap_map, PoolThread.held_notify]
        exact flatMap_set_of_eq hi (PoolThread.held_closingOn ..)
      · simp only [toClose, List.flatMap_map, PoolThread.toClose_notify]
        exact flatMap_set_of_eq hi (PoolThread.toClose_closingOn ..)
  | close hi => exact .inr ⟨still_close hi rfl rfl rfl rfl, trace_close ..⟩
  | closeNext hi => exact .inr ⟨still_close hi rfl rfl (by simp) (by simp), trace_close ..⟩

/-- **A step conserves the resources**: it moves them, and neither loses one nor adds one. -/
theorem Step.conserves (h : Step s s') :
    (places s'.whereabouts).Perm (places s.whereabouts) := by
  obtain ⟨i, t, t', state, happened, hi, ha, rfl⟩ | ⟨hstill, -⟩ := h.act_or_still
  · have hkeeps := ha.keeps
    have hheld := places_perm (perm_flatMap_set hi PoolThread.held t')
    have htoClose := places_perm (perm_flatMap_set hi PoolThread.toClose t')
    obtain ⟨hclosed, hletGo⟩ := ha.closes_nothing
    simp only [whereabouts, held, toClose, closed, letGo, List.flatMap_append, hclosed, hletGo]
    -- Each resource by itself: where it goes to it has come from, so its counts add up.
    rw [List.perm_iff_count] at hkeeps hheld htoClose ⊢
    intro n
    have hkeeps := hkeeps n
    have hheld := hheld n
    have htoClose := htoClose n
    simp only [places_append, places_nil, List.count_append, List.count_nil] at *
    omega
  · simp only [whereabouts, hstill.state, hstill.held, List.append_assoc]
    have hcloses := hstill.closes
    simp only [List.append_assoc] at hcloses
    exact places_perm ((hcloses.append_left _).append_left _)

/-! ### The invariant -/

/-- **The invariant**: every resource is in one place, the counters agree with what is held,
nothing leaves an open pool but to be held, and nothing is let go of unless a closing breaks
down. -/
structure Accounted (size : Nat) (s : SharedPool σ V) : Prop where
  whereabouts : (places s.whereabouts).Perm (List.range size)
  inUse : s.state.inUse = s.held.length
  acquired : s.state.acquired = s.state.released + s.held.length
  of_open : s.state.closed = false → s.toClose = [] ∧ s.closed = []
  unbroken : s.Unbroken → s.letGo = []

theorem accounted_ofPool {f : Factory σ V} {works : σ} {timeout : Duration} {p : Pool σ V}
    (h : (Pool.build f works size timeout).result = .done (.ok p)) (clock : Instant) :
    Accounted size (ofPool p clock) := by
  obtain ⟨-, hsize, hstate⟩ := Pool.state_of_build h
  exact {
    whereabouts := by simp [whereabouts, held, toClose, closed, letGo, ofPool, hsize]
    inUse := by rw [ofPool, hstate]; rfl
    acquired := by rw [ofPool, hstate]; rfl
    of_open := fun _ => ⟨rfl, rfl⟩
    unbroken := fun _ => rfl }

theorem length_held_le {i : Nat} {t : PoolThread V} (hi : s.threads[i]? = some t) :
    t.held.length ≤ s.held.length := by
  obtain ⟨before, after, hsplit, -⟩ := exists_split_of_getElem? hi
  simp only [held, hsplit, List.flatMap_append, List.flatMap_cons, List.length_append]
  omega

/-- **A step keeps the invariant.** -/
theorem Accounted.step (hs : Accounted size s) (h : Step s s') : Accounted size s' := by
  have hwhere := h.conserves.trans hs.whereabouts
  obtain ⟨i, t, t', state, happened, hi, ha, rfl⟩ | ⟨hstill, -⟩ := h.act_or_still
  · obtain ⟨hclosed, hletGo⟩ := ha.closes_nothing
    have hmoved := (perm_flatMap_set hi PoolThread.held t').length_eq
    have hinUse := hs.inUse
    have hacquired := hs.acquired
    -- A thread that gives a resource back is counted, so the subtraction does not saturate.
    obtain ⟨hcount, hcount'⟩ := ha.counts (hinUse ▸ length_held_le hi)
    simp only [held, List.length_append] at hmoved hinUse hacquired
    exact {
      whereabouts := hwhere
      inUse := by simp only [held]; omega
      acquired := by simp only [held]; omega
      of_open := by
        intro hopen
        obtain ⟨hopen', hsame⟩ := ha.of_open hopen
        obtain ⟨htoClose, hnothing⟩ := hs.of_open hopen'
        refine ⟨(flatMap_set_of_eq hi hsame).trans htoClose, ?_⟩
        simpa only [closed, List.flatMap_append, hclosed, List.append_nil] using hnothing
      unbroken := by
        intro hun
        have := hs.unbroken fun r message hr => hun r message (List.mem_append_left _ hr)
        simpa only [letGo, List.flatMap_append, hletGo, List.append_nil] using this }
  · exact {
      whereabouts := hwhere
      inUse := by rw [hstill.state, hstill.held, hs.inUse]
      acquired := by rw [hstill.state, hstill.held, hs.acquired]
      of_open := by
        intro hopen
        obtain ⟨htoClose, hclosed⟩ := hs.of_open (hstill.state ▸ hopen)
        obtain ⟨htoClose', hclosed'⟩ := hstill.of_nothing htoClose
        exact ⟨htoClose', hclosed'.trans hclosed⟩
      unbroken := by
        intro hun
        obtain ⟨hun', hsame⟩ := hstill.unbroken hun
        exact hsame.trans (hs.unbroken hun') }

theorem Accounted.run (hs : Accounted size s) (h : Run s s') : Accounted size s' := by
  induction h with
  | refl => exact hs
  | tail _ hstep ih => exact ih.step hstep

/-- What is passed to the factory is passed once, and is not idle. -/
theorem Accounted.closed_once (hs : Accounted size s) {q : Numbered V} {x : Attempt Unit}
    (hq : .closed q x ∈ s.trace) :
    (places s.closed).count q.place = 1 ∧ q.place ∉ places s.state.idle := by
  have hmem : q.place ∈ places s.closed :=
    List.mem_map_of_mem (List.mem_flatMap.2 ⟨_, hq, List.mem_singleton_self q⟩)
  have hnodup := hs.whereabouts.nodup_iff.2 List.nodup_range
  simp only [SharedPool.whereabouts, places_append, List.append_assoc, List.nodup_append] at hnodup
  obtain ⟨-, ⟨-, ⟨-, ⟨hclosed, -⟩, -⟩, -⟩, hapart⟩ := hnodup
  refine ⟨List.count_eq_one_of_mem hclosed hmem, fun hidle => ?_⟩
  exact hapart _ hidle _ (by simp [hmem]) rfl

/-- When nobody holds a resource, all that were acquired have been released, and an open pool is
full. -/
theorem Accounted.balanced (hs : Accounted size s) (hnone : s.held = []) :
    s.state.acquired = s.state.released ∧ (s.state.closed = false → s.state.idle.length = size) := by
  refine ⟨?_, ?_⟩
  · rw [hs.acquired, hnone, List.length_nil, Nat.add_zero]
  · intro hopen
    obtain ⟨htoClose, hclosed⟩ := hs.of_open hopen
    have hun : s.Unbroken := by
      intro r message hr
      have hmem : r ∈ s.closed := List.mem_flatMap.2 ⟨_, hr, List.mem_singleton_self r⟩
      rw [hclosed] at hmem
      cases hmem
    have hlength := hs.whereabouts.length_eq
    simpa [SharedPool.whereabouts, hnone, htoClose, hclosed, hs.unbroken hun] using hlength

/-- **Conservation and exclusivity.**  After any run of the threads of a pool that was built, in
which no closing breaks down, the resources that were created are idle, held, to be closed, or
passed to the factory, each in one of these ways and once; what is closed stays closed and is not
held.  As many are in use as are held, which is as many as were acquired and not released, so that
a holder always finds itself counted.  An open pool has the rest of its resources idle. -/
theorem resources_partitioned {f : Factory σ V} {works : σ} {timeout : Duration} {p : Pool σ V}
    (hbuilt : (Pool.build f works size timeout).result = .done (.ok p)) {clock : Instant}
    (hrun : Run (ofPool p clock) s) (hun : s.Unbroken) :
    (places (s.state.idle ++ s.held ++ s.toClose ++ s.closed)).Perm (List.range size) ∧
      (places s.closed).Nodup ∧ (places s.held).Nodup ∧
      (places s.held).Disjoint (places s.closed) ∧
      s.state.inUse = s.held.length ∧
      s.state.acquired = s.state.released + s.state.inUse ∧
      (∀ (i : Nat) purpose r, s.threads[i]? = some (.holding purpose r) → 0 < s.state.inUse) ∧
      (s.state.closed = false →
        (s.state.stats size).available + (s.state.stats size).inUse = size ∧
          s.closed = [] ∧ s.toClose = []) := by
  have hs := (accounted_ofPool hbuilt clock).run hrun
  have hall := hs.whereabouts
  -- Nothing is let go of, so four places are left.
  rw [whereabouts, hs.unbroken hun, List.append_nil] at hall
  have hnodup := hall.nodup_iff.2 List.nodup_range
  simp only [places_append, List.nodup_append] at hnodup
  obtain ⟨⟨⟨-, hheld, -⟩, -, -⟩, hclosed, hapart⟩ := hnodup
  refine ⟨hall, hclosed, hheld, ?_, hs.inUse, ?_, ?_, ?_⟩
  · intro n hn hn'
    exact hapart n (List.mem_append_left _ (List.mem_append_right _ hn)) n hn' rfl
  · rw [hs.acquired, hs.inUse]
  · intro i purpose r hi
    have := length_held_le hi
    rw [hs.inUse]
    exact this
  · intro hopen
    obtain ⟨htoClose, hnothing⟩ := hs.of_open hopen
    refine ⟨?_, hnothing, htoClose⟩
    have hlength := hall.length_eq
    simp only [htoClose, hnothing, List.append_nil, length_places, List.length_append,
      List.length_range] at hlength
    rw [PoolState.stats, hs.inUse, hlength]

/-- A pool of two resources; the first one to be closed is not closed well. -/
def twoSpecimens : Pool Workshop Specimen where
  factory := Workshop.factory
  works :=
    { closings := [.failed "busy"], nextId := 2, journal := [.created 0, .created 1] }
  size := 2
  timeout := .ofSecs 1
  state := { idle := [⟨0, ""⟩, ⟨1, ""⟩] }

/-- One of two resources is handed out, the pool is shut down, the other resource is closed, and
so is the first one when it comes back. -/
theorem resources_partitioned_after_shutdown :
    ∃ s : SharedPool Workshop Specimen,
      (Pool.build Workshop.factory { closings := [.failed "busy"] } 2 (.ofSecs 1)).result =
        .done (.ok twoSpecimens) ∧
      Run (ofPool twoSpecimens 0) s ∧ s.Unbroken ∧ places s.closed = [1, 0] ∧
      (places (s.state.idle ++ s.held ++ s.toClose ++ s.closed)).Perm (List.range 2) := by
  obtain ⟨s, hrun, htrace⟩ : ∃ s, Run (ofPool twoSpecimens 0) s ∧ s.trace =
      [.handedOut ⟨0, ⟨0, ""⟩⟩, .drained [⟨1, ⟨1, ""⟩⟩], .closed ⟨1, ⟨1, ""⟩⟩ (.failed "busy"),
        .cameBack ⟨0, ⟨0, ""⟩⟩, .closed ⟨0, ⟨0, ""⟩⟩ (.ok ())] := by
    refine ⟨_, Relation.ReflTransGen.refl
      |>.tail (.begin .caller)
      |>.tail (.act (i := 0) rfl (.take (by decide) rfl))
      |>.tail .stop
      |>.tail (.act (i := 1) rfl (.drain rfl))
      |>.tail (.notifyAll (i := 1) rfl)
      |>.tail (.closeNext (i := 1) rfl)
      |>.tail (.act (i := 0) rfl (.giveBackLate rfl))
      |>.tail (.close (i := 0) rfl), rfl⟩
  have hbuilt : (Pool.build Workshop.factory { closings := [.failed "busy"] } 2
      (.ofSecs 1)).result = .done (.ok twoSpecimens) := rfl
  have hun : s.Unbroken := by simp [Unbroken, htrace]
  exact ⟨s, hbuilt, hrun, hun, by simp [closed, htrace, Happening.closings],
    (resources_partitioned hbuilt hrun hun).1⟩

end SharedPool

end DataTier
