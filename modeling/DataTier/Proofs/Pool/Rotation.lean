/-
**Resources rotate: what has been idle longest is handed out first.**

A resource becomes idle when the pool is built, and again whenever it comes back.  In the order in
which resources become idle they are handed out, whoever asks for them and whoever returns them
meanwhile.  One equation says so for a whole history: what has been handed out so far and then what
is idle is what was created and then what has come back so far.

Shutdown takes out what is idle, so the equation holds as long as the pool is open; what had been
handed out by then was handed out in this order all the same.

Main definitions:

* `DataTier.Factory.creations` — what the next creations of a factory come to;
* `DataTier.SharedPool.handouts`, `SharedPool.comebacks` — what has been handed out, and what has
  come back, in the order of the sections of the lock;
* `DataTier.SharedPool.InTurn` — the invariant.

Main results:

* `DataTier.Pool.creations_of_build` — a new pool holds what its factory has created, in order;
* `DataTier.PoolThread.Acts.rotates` — one thread takes from the front and gives back at the end;
* `DataTier.SharedPool.InTurn.step` — a step keeps the invariant;
* `DataTier.SharedPool.resources_rotate` — **who gets which resource**, in any run of a pool.
-/

import DataTier.Proofs.Pool.Acquisition
import DataTier.Proofs.Pool.Scoped
import DataTier.Proofs.Pool.Shutdown

set_option relaxedAutoImplicit false
set_option autoImplicit false

namespace DataTier

variable {σ V R : Type}

/-! ### New pools -/

/-- What the next `n` creations of a factory come to, one after the other. -/
def Factory.creations (f : Factory σ R) : Nat → σ → List (Attempt R)
  | 0, _ => []
  | n + 1, s => (f.create s).result :: f.creations n (f.create s).state

namespace Pool

theorem creations_of_fill {f : Factory σ R} {left : Nat} {created rs : List R} {s : σ}
    (h : (fill f left created s).1 = .all rs) :
    ∃ new, rs = created ++ new ∧ f.creations left s = new.map .ok := by
  induction left generalizing created s with
  | zero =>
      rw [fill, Filled.all.injEq] at h
      exact ⟨[], by rw [h, List.append_nil], rfl⟩
  | succ left ih =>
      simp only [fill] at h
      cases hr : (f.create s).result with
      | ok r =>
          simp only [hr] at h
          obtain ⟨new, hrs, hnew⟩ := ih h
          refine ⟨r :: new, by rw [hrs, List.append_assoc, List.singleton_append], ?_⟩
          rw [Factory.creations, hr, hnew, List.map_cons]
      | failed error => simp [hr] at h
      | panicked message => simp [hr] at h

/-- **A new pool holds what its factory has created**, in the order of the creations. -/
theorem creations_of_build {f : Factory σ R} {works : σ} {size : Nat} {timeout : Duration}
    {p : Pool σ R} (h : (build f works size timeout).result = .done (.ok p)) :
    f.creations size works = p.state.idle.map .ok := by
  obtain ⟨rs, events, s', hf, rfl⟩ := fill_of_build h
  obtain ⟨new, hrs, hnew⟩ := creations_of_fill (congrArg Prod.fst hf)
  rw [hrs, hnew, List.nil_append]

end Pool

/-! ### One thread -/

/-- The resources that are handed out. -/
def Happening.handouts : Happening V → List (Numbered V)
  | .handedOut r => [r]
  | _ => []

theorem length_flatMap_of_toNat {α β : Type} {f : α → List β} {p : α → Bool}
    (h : ∀ a, (f a).length = (p a).toNat) (as : List α) :
    (as.flatMap f).length = as.countP p := by
  induction as with
  | nil => rfl
  | cons a as ih =>
      rw [List.flatMap_cons, List.length_append, ih, h, List.countP_cons, Nat.add_comm]
      cases p a <;> rfl

theorem length_handouts (es : List (Happening V)) :
    (es.flatMap Happening.handouts).length = es.countP Happening.isHandedOut :=
  length_flatMap_of_toNat (fun e => by cases e <;> rfl) es

theorem length_comebacks (es : List (Happening V)) :
    (es.flatMap Happening.comebacks).length = es.countP Happening.isComeback :=
  length_flatMap_of_toNat (fun e => by cases e <;> rfl) es

/-- **A thread takes from the front and gives back at the end** of what has become idle and is
still to be handed out, `rest`, which is what is idle as long as the pool is open. -/
theorem PoolThread.Acts.rotates {timeout : Duration} {now : Instant}
    {s s' : PoolState (Numbered V)} {t t' : PoolThread V} {happened : List (Happening V)}
    (h : Acts timeout now s t t' s' happened) {rest : List (Numbered V)}
    (hrest : s.closed = false → s.idle = rest) :
    ∃ rest', happened.flatMap Happening.handouts ++ rest' =
        rest ++ happened.flatMap Happening.comebacks ∧
      (s'.closed = false → s'.idle = rest') := by
  have hsame : ([] : List (Numbered V)) ++ rest = rest ++ [] := (List.append_nil rest).symm
  cases h with
  | wake => exact ⟨rest, hsame, hrest⟩
  | dropWaiting => exact ⟨rest, hsame, hrest⟩
  | dropHolding => exact ⟨rest, hsame, hrest⟩
  | refuse hw hc =>
      obtain ⟨-, rfl⟩ := PoolState.check_eq_closed_iff.1 hc
      exact ⟨rest, hsame, hrest⟩
  | @take _ _ _ r _ hw hc =>
      obtain ⟨hopen, idle, hidle, rfl⟩ := PoolState.check_eq_acquired_iff.1 hc
      refine ⟨idle, ?_, fun _ => rfl⟩
      rw [← hrest hopen, hidle]
      exact (List.append_nil (r :: idle)).symm
  | giveUp hw hc =>
      obtain ⟨-, -, -, rfl⟩ := PoolState.check_eq_exhausted_iff.1 hc
      exact ⟨rest, hsame, hrest⟩
  | sleep hw hc =>
      obtain ⟨-, -, -, rfl⟩ := PoolState.check_eq_wait_iff.1 hc
      exact ⟨rest, hsame, hrest⟩
  | change v => exact ⟨rest, hsame, hrest⟩
  | @giveBack _ r _ hg =>
      obtain ⟨hopen, rfl⟩ := PoolState.giveBack_eq_none_iff.1 hg
      exact ⟨rest ++ [r], rfl, fun _ => congrArg (· ++ [r]) (hrest hopen)⟩
  | @giveBackLate _ r _ _ hg =>
      obtain ⟨hclosed, -, rfl⟩ := PoolState.giveBack_eq_some_iff.1 hg
      exact ⟨rest ++ [r], rfl, fun hopen => nomatch hclosed.symm.trans hopen⟩
  | drain hd =>
      obtain ⟨-, -, -, rfl⟩ := PoolState.drain_eq_some_iff.1 hd
      exact ⟨rest, hsame, nofun⟩
  | drainAgain hd =>
      obtain ⟨-, rfl⟩ := PoolState.drain_eq_none_iff.1 hd
      exact ⟨rest, hsame, hrest⟩

/-! ### The pool -/

namespace SharedPool

variable {s s' a b : SharedPool σ V} {first : List (Numbered V)} {later : List (Happening V)}

/-- The resources that have been handed out, in order. -/
def handouts (s : SharedPool σ V) : List (Numbered V) := s.trace.flatMap Happening.handouts

/-- The resources that have come back, in order. -/
def comebacks (s : SharedPool σ V) : List (Numbered V) := s.trace.flatMap Happening.comebacks

theorem handouts_of_trace (h : s'.trace = s.trace ++ later) :
    s'.handouts = s.handouts ++ later.flatMap Happening.handouts := by
  rw [handouts, h, List.flatMap_append, handouts]

theorem comebacks_of_trace (h : s'.trace = s.trace ++ later) :
    s'.comebacks = s.comebacks ++ later.flatMap Happening.comebacks := by
  rw [comebacks, h, List.flatMap_append, comebacks]

theorem getElem?_of_prefix {α : Type} {xs ys : List α} (h : xs <+: ys) {k : Nat} {x : α}
    (hk : xs[k]? = some x) : ys[k]? = some x := by
  obtain ⟨zs, rfl⟩ := h
  rw [List.getElem?_append_left (List.getElem?_eq_some_iff.1 hk).1, hk]

/-- **The invariant** of a pool that began with `first` idle: what has become idle has been handed
out in that order, up to a rest, which is what is idle as long as the pool is open.  The counters
count the hand-outs and the returns. -/
structure InTurn (first : List (Numbered V)) (s : SharedPool σ V) : Prop where
  rotates : ∃ rest, s.handouts ++ rest = first ++ s.comebacks ∧
    (s.state.closed = false → s.state.idle = rest)
  acquired : s.handouts.length = s.state.acquired
  released : s.comebacks.length = s.state.released

theorem InTurn.of_open (hs : InTurn first s) (hopen : s.state.closed = false) :
    s.handouts ++ s.state.idle = first ++ s.comebacks := by
  obtain ⟨rest, hturn, hidle⟩ := hs.rotates
  rw [hidle hopen, hturn]

/-- What is handed out is the beginning of what has become idle. -/
theorem InTurn.handouts_prefix (hs : InTurn first s) : s.handouts <+: first ++ s.comebacks := by
  obtain ⟨rest, hturn, -⟩ := hs.rotates
  exact ⟨rest, hturn⟩

theorem inTurn_ofPool {f : Factory σ V} {works : σ} {size : Nat} {timeout : Duration}
    {p : Pool σ V} (h : (Pool.build f works size timeout).result = .done (.ok p))
    (clock : Instant) : InTurn (number p.state.idle) (ofPool p clock) := by
  obtain ⟨-, -, hstate⟩ := Pool.state_of_build h
  refine ⟨⟨number p.state.idle, (List.append_nil _).symm, fun _ => rfl⟩, ?_, ?_⟩
  · rw [ofPool, hstate]
    rfl
  · rw [ofPool, hstate]
    rfl

theorem Closing.handouts_eq {e : Happening V} (h : s.Closing e) : e.handouts = [] := by
  obtain ⟨r, rfl⟩ | ⟨rs, rfl⟩ := h <;> rfl

/-- A step adds to the trace, and rotates the resources. -/
theorem Step.rotates (h : Step s s') {rest : List (Numbered V)}
    (hrest : s.state.closed = false → s.state.idle = rest) :
    ∃ later rest', s'.trace = s.trace ++ later ∧
      later.flatMap Happening.handouts ++ rest' = rest ++ later.flatMap Happening.comebacks ∧
      (s'.state.closed = false → s'.state.idle = rest') := by
  obtain ⟨i, t, t', state, happened, -, ha, rfl⟩ | ⟨hstill, later, htrace, hclosing⟩ :=
    h.act_or_still
  · obtain ⟨rest', hturn, hidle⟩ := ha.rotates hrest
    exact ⟨happened, rest', rfl, hturn, hidle⟩
  · have hout : later.flatMap Happening.handouts = [] :=
      List.flatMap_eq_nil_iff.2 fun e he => (hclosing e he).handouts_eq
    have hback : later.flatMap Happening.comebacks = [] :=
      List.flatMap_eq_nil_iff.2 fun e he => (hclosing e he).late.2
    refine ⟨later, rest, htrace, by rw [hout, hback, List.append_nil, List.nil_append], ?_⟩
    rw [hstill.state]
    exact hrest

/-- **A step keeps the invariant.** -/
theorem InTurn.step (hs : InTurn first s) (h : Step s s') : InTurn first s' := by
  obtain ⟨rest, hturn, hrest⟩ := hs.rotates
  obtain ⟨later, rest', htrace, hmoved, hrest'⟩ := h.rotates hrest
  obtain ⟨hacquired, hreleased⟩ := h.counted htrace
  refine ⟨⟨rest', ?_, hrest'⟩, ?_, ?_⟩
  · calc s'.handouts ++ rest'
        = s.handouts ++ (later.flatMap Happening.handouts ++ rest') := by
          rw [handouts_of_trace htrace, List.append_assoc]
      _ = (s.handouts ++ rest) ++ later.flatMap Happening.comebacks := by
          rw [hmoved, List.append_assoc]
      _ = first ++ s'.comebacks := by
          rw [hturn, comebacks_of_trace htrace, List.append_assoc]
  · rw [handouts_of_trace htrace, List.length_append, hs.acquired, length_handouts, hacquired]
  · rw [comebacks_of_trace htrace, List.length_append, hs.released, length_comebacks, hreleased]

theorem InTurn.run (hs : InTurn first s) (h : Run s s') : InTurn first s' := by
  induction h with
  | refl => exact hs
  | tail _ hstep ih => exact ih.step hstep

/-- What has been handed out stays handed out. -/
theorem Run.handouts_prefix (h : Run s s') : s.handouts <+: s'.handouts := by
  induction h with
  | refl => exact List.prefix_refl _
  | @tail b c _ hstep ih =>
      have hidle : b.state.closed = false → b.state.idle = b.state.idle := fun _ => rfl
      obtain ⟨later, -, htrace, -, -⟩ := hstep.rotates hidle
      rw [handouts_of_trace htrace]
      exact ih.trans (List.prefix_append ..)

/-- A thread that waits before a step and holds a resource after it has taken the first idle one
of an open pool. -/
theorem Step.takes {i : Nat} {wait : Wait} {purpose purpose' : Purpose} {deadline : Instant}
    {r : Numbered V} (h : Step a b) (ha : a.threads[i]? = some (.waiting wait purpose deadline))
    (hb : b.threads[i]? = some (.holding purpose' r)) :
    a.state.closed = false ∧ (∃ idle, a.state.idle = r :: idle) ∧
      b.trace = a.trace ++ [.handedOut r] := by
  obtain ⟨wait', purpose'', hwaiting⟩ | hlast := h.awaits_or_lastCheck ⟨wait, purpose, ha⟩
  · rw [hwaiting] at hb
    cases hb
  · have hlt := hlast.lt_length
    cases hlast with
    | @acquired _ _ q idle hi hawake hopen hidle =>
        rw [List.getElem?_set_self hlt] at hb
        obtain ⟨-, rfl⟩ := PoolThread.holding.inj (Option.some.inj hb)
        exact ⟨hopen, ⟨idle, hidle⟩, rfl⟩
    | exhausted hi hawake hopen hidle hlate =>
        rw [List.getElem?_set_self hlt] at hb
        cases hb
    | closed hi hawake hclosed =>
        rw [List.getElem?_set_self hlt] at hb
        cases hb

/-- **Resources rotate.**  A pool begins with what its factory has created, in the order of the
creations.  However the steps of its threads follow each other, what has been handed out and then
what is idle is, as long as the pool is open, what was created and then what has come back, and
there have been as many hand-outs and returns as are counted.  So the acquisition that succeeds
when `k` others have succeeded gets number `k` of those that were created and those that came back,
and it gets it when all that became idle before has been handed out already. -/
theorem resources_rotate {f : Factory σ V} {works : σ} {size : Nat} {timeout : Duration}
    {p : Pool σ V} (hbuilt : (Pool.build f works size timeout).result = .done (.ok p))
    {clock : Instant} (hrun : Run (ofPool p clock) s) :
    f.creations size works = p.state.idle.map .ok ∧
    (s.state.closed = false →
      s.handouts ++ s.state.idle = number p.state.idle ++ s.comebacks) ∧
    s.handouts.length = s.state.acquired ∧ s.comebacks.length = s.state.released ∧
    (∀ (k : Nat) r, s.handouts[k]? = some r →
      (number p.state.idle ++ s.comebacks)[k]? = some r) ∧
    (∀ a b (i : Nat) wait purpose purpose' deadline r, Run (ofPool p clock) a → Step a b →
      Run b s → a.threads[i]? = some (.waiting wait purpose deadline) →
      b.threads[i]? = some (.holding purpose' r) →
      s.handouts[a.state.acquired]? = some r ∧
        ∃ rest, number p.state.idle ++ a.comebacks = a.handouts ++ r :: rest) := by
  have hstart := inTurn_ofPool hbuilt clock
  have hs := hstart.run hrun
  refine ⟨Pool.creations_of_build hbuilt, hs.of_open, hs.acquired, hs.released, ?_, ?_⟩
  · intro k r hk
    exact getElem?_of_prefix hs.handouts_prefix hk
  · intro a b i wait purpose purpose' deadline r hbefore hstep hafter hwaits hholds
    have ha := hstart.run hbefore
    obtain ⟨hopen, ⟨idle, hidle⟩, htrace⟩ := hstep.takes hwaits hholds
    refine ⟨?_, idle, ?_⟩
    · have hb : b.handouts = a.handouts ++ [r] := handouts_of_trace htrace
      refine getElem?_of_prefix hafter.handouts_prefix ?_
      rw [hb, ← ha.acquired, List.getElem?_concat_length]
    · rw [← ha.of_open hopen, hidle]

/-- Of two resources the first one is used, marked and given back; the next acquisition gets the
other one all the same, and the one after that the first one again, with its mark. -/
theorem resources_rotate_of_reuse :
    ∃ a b : SharedPool Workshop Specimen,
      (Pool.build Workshop.factory { closings := [.failed "busy"] } 2 (.ofSecs 1)).result =
        .done (.ok twoSpecimens) ∧
      Run (ofPool twoSpecimens 0) a ∧ Step a b ∧ a.state.acquired = 2 ∧ b.state.closed = false ∧
      b.comebacks = [⟨0, ⟨0, "used"⟩⟩] ∧ b.handouts[2]? = some ⟨0, ⟨0, "used"⟩⟩ ∧
      b.handouts ++ b.state.idle = [⟨0, ⟨0, ""⟩⟩, ⟨1, ⟨1, ""⟩⟩, ⟨0, ⟨0, "used"⟩⟩] := by
  have hbuilt : (Pool.build Workshop.factory { closings := [.failed "busy"] } 2
      (.ofSecs 1)).result = .done (.ok twoSpecimens) := rfl
  have hdeadline : (0 : Instant).after? (.ofSecs 1) = some nanosPerSecond :=
    Instant.after?_eq_some_iff.2 ⟨by decide, rfl⟩
  obtain ⟨a, b, hrun, hstep, hacquired, hopen, hwaits, hholds, hback⟩ :
      ∃ a b : SharedPool Workshop Specimen, Run (ofPool twoSpecimens 0) a ∧ Step a b ∧
        a.state.acquired = 2 ∧ b.state.closed = false ∧
        a.threads[2]? = some (.waiting .ready .scoped nanosPerSecond) ∧
        b.threads[2]? = some (.holding .scoped ⟨0, ⟨0, "used"⟩⟩) ∧
        b.comebacks = [⟨0, ⟨0, "used"⟩⟩] := by
    refine ⟨_, _, Relation.ReflTransGen.refl
      |>.tail (.begin_of_after? hdeadline .caller)
      |>.tail (.act (i := 0) rfl (.take (by decide) rfl))
      |>.tail (.act (i := 0) rfl (.change ⟨0, "used"⟩))
      |>.tail (.act (i := 0) rfl (.giveBack rfl))
      |>.tail (.begin_of_after? hdeadline (.future false))
      |>.tail (.act (i := 1) rfl (.take (by decide) rfl))
      |>.tail (.begin_of_after? hdeadline .scoped),
      .act (i := 2) rfl (.take (by decide) rfl), rfl, rfl, rfl, rfl, rfl⟩
  obtain ⟨-, hrotates, -, -, -, hnext⟩ := resources_rotate hbuilt (hrun.tail hstep)
  obtain ⟨hgot, -⟩ := hnext a b 2 _ _ _ _ _ hrun hstep .refl hwaits hholds
  rw [hacquired] at hgot
  refine ⟨a, b, hbuilt, hrun, hstep, hacquired, hopen, hback, hgot, ?_⟩
  rw [hrotates hopen, hback]
  rfl

end SharedPool

end DataTier
