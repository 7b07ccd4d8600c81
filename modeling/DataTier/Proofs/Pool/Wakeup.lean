/-
**No wake-up is lost.**

A resource that comes back is put among the idle ones under the lock, and somebody is woken for it
later; in between, the woken thread may find that another one has taken the resource, or a sleeper
may have woken by itself.  What keeps this right is a count: as long as somebody sleeps without
having been notified, there are at most as many idle resources as threads that have been notified
and are to check again or that are still to notify somebody.  In a pool that is shut down somebody
is then still to notify all.

Main definitions:

* `DataTier.SharedPool.Attended` — the invariant;
* `DataTier.SharedPool.Settled` — nobody is still to notify, or to check after a notification.

Main results:

* `DataTier.PoolThread.Acts.attends` — what one thread does to the counts;
* `DataTier.SharedPool.Attended.step` — a step keeps the invariant;
* `DataTier.SharedPool.exists_run_settled` — what is pending can be done;
* `DataTier.SharedPool.no_lost_wakeup` — what holds after any run.
-/

import DataTier.Pool.Scripted
import DataTier.Proofs.Pool.Threads

set_option relaxedAutoImplicit false
set_option autoImplicit false

namespace DataTier

variable {σ V : Type}

/-! ### One thread -/

namespace PoolThread

variable {timeout : Duration} {now : Instant} {s s' : PoolState (Numbered V)}
  {t t' : PoolThread V} {happened : List (Happening V)}

/-- How much a thread counts as pending. -/
def pending (t : PoolThread V) : Nat := (t.waits .notified).toNat + t.isNotifying.toNat

/-- What one thread may do to the counts, turning into `t'` and the state into `s'`.  An idle
resource that is added makes the thread pending, and a thread that is no longer pending has taken
one or has found none; a thread falls asleep only beside an open pool without idle resources, and
shuts a pool down only to notify all. -/
structure Attends (s : PoolState (Numbered V)) (t : PoolThread V) (s' : PoolState (Numbered V))
    (t' : PoolThread V) : Prop where
  drained : s'.closed = true → s'.idle = []
  idle : s'.idle = [] ∨ s'.idle.length + t.pending ≤ s.idle.length + t'.pending
  asleep : s'.idle = [] ∧ s'.closed = false ∨
    (t'.waits .asleep).toNat ≤ (t.waits .asleep).toNat
  announced : s'.closed = true →
    s.closed = true ∧ t'.isAnnouncing = t.isAnnouncing ∨ t'.isAnnouncing = true

theorem Acts.attends (h : Acts timeout now s t t' s' happened)
    (hd : s.closed = true → s.idle = []) : Attends s t s' t' := by
  cases h with
  | wake => exact ⟨hd, .inr (Nat.le_refl _), .inr (Nat.zero_le _), fun h => .inl ⟨h, rfl⟩⟩
  | dropWaiting => exact ⟨hd, .inr (Nat.le_refl _), .inr (Nat.le_refl _), fun h => .inl ⟨h, rfl⟩⟩
  | dropHolding => exact ⟨hd, .inr (Nat.le_refl _), .inr (Nat.le_refl _), fun h => .inl ⟨h, rfl⟩⟩
  | refuse hw hc =>
      obtain ⟨hclosed, rfl⟩ := PoolState.check_eq_closed_iff.1 hc
      exact ⟨hd, .inl (hd hclosed), .inr (Nat.zero_le _), fun h => .inl ⟨h, rfl⟩⟩
  | @take wait purpose deadline r s' hw hc =>
      obtain ⟨hopen, idle, hidle, rfl⟩ := PoolState.check_eq_acquired_iff.1 hc
      -- It may have been notified or not; it makes up for at most one idle resource.
      have hone := Bool.toNat_le (wait == .notified)
      refine ⟨by simp [hopen], .inr ?_, .inr (Nat.zero_le _), by simp [hopen]⟩
      simp only [hidle, List.length_cons, pending, waits, isNotifying, Bool.toNat_false]
      omega
  | giveUp hw hc =>
      obtain ⟨hopen, hidle, -, rfl⟩ := PoolState.check_eq_exhausted_iff.1 hc
      exact ⟨hd, .inl hidle, .inr (Nat.zero_le _), by simp [hopen]⟩
  | sleep hw hc =>
      obtain ⟨hopen, hidle, -, rfl⟩ := PoolState.check_eq_wait_iff.1 hc
      exact ⟨hd, .inl hidle, .inl ⟨hidle, hopen⟩, by simp [hopen]⟩
  | change v => exact ⟨hd, .inr (Nat.le_refl _), .inr (Nat.le_refl _), fun h => .inl ⟨h, rfl⟩⟩
  | giveBack hg =>
      obtain ⟨hopen, rfl⟩ := PoolState.giveBack_eq_none_iff.1 hg
      refine ⟨by simp [hopen], .inr ?_, .inr (Nat.le_refl _), by simp [hopen]⟩
      simp [pending, waits, isNotifying]
  | giveBackLate hg =>
      obtain ⟨hclosed, -, rfl⟩ := PoolState.giveBack_eq_some_iff.1 hg
      exact ⟨hd, .inl (hd hclosed), .inr (Nat.le_refl _), fun h => .inl ⟨h, rfl⟩⟩
  | drain hd' =>
      obtain ⟨-, -, -, rfl⟩ := PoolState.drain_eq_some_iff.1 hd'
      exact ⟨fun _ => rfl, .inl rfl, .inr (Nat.le_refl _), fun _ => .inr rfl⟩
  | drainAgain hd' =>
      obtain ⟨-, rfl⟩ := PoolState.drain_eq_none_iff.1 hd'
      exact ⟨hd, .inr (Nat.le_refl _), .inr (Nat.le_refl _), fun h => .inl ⟨h, rfl⟩⟩

@[simp] theorem waits_notify (t : PoolThread V) : t.notify.waits .asleep = false := by
  cases t with
  | waiting wait purpose deadline => cases wait <;> rfl
  | _ => rfl

@[simp] theorem isNotifying_notify (t : PoolThread V) : t.notify.isNotifying = t.isNotifying := by
  unfold notify
  split <;> rfl

@[simp] theorem isAnnouncing_notify (t : PoolThread V) :
    t.notify.isAnnouncing = t.isAnnouncing := by
  unfold notify
  split <;> rfl

@[simp] theorem isNotifying_closingOn (n : Nat) (rs : List (Numbered V)) :
    (closingOn n rs).isNotifying = false := by
  cases rs <;> rfl

@[simp] theorem isAnnouncing_closingOn (n : Nat) (rs : List (Numbered V)) :
    (closingOn n rs).isAnnouncing = false := by
  cases rs <;> rfl

@[simp] theorem waits_closingOn (w : Wait) (n : Nat) (rs : List (Numbered V)) :
    (closingOn n rs).waits w = false := by
  cases rs <;> rfl

/-- A thread that is not asleep can check. -/
theorem exists_acts_of_waiting (timeout : Duration) (now : Instant) (s : PoolState (Numbered V))
    {wait : Wait} (hw : wait ≠ .asleep) (purpose : Purpose) (deadline : Instant) :
    ∃ t' s' happened, Acts timeout now s (.waiting wait purpose deadline) t' s' happened ∧
      t'.pending = 0 ∧ t'.isAnnouncing = false := by
  rcases hc : s.check now deadline with ⟨found, s'⟩
  cases found with
  | closed => exact ⟨_, _, _, .refuse hw hc, rfl, rfl⟩
  | acquired r => exact ⟨_, _, _, .take hw hc, rfl, rfl⟩
  | exhausted => exact ⟨_, _, _, .giveUp hw hc, rfl, rfl⟩
  | wait => exact ⟨_, _, _, .sleep hw hc, rfl, rfl⟩

end PoolThread

/-! ### The invariant -/

/-- One thread goes and another takes its place in a count. -/
theorem countP_set_add {α : Type} {l : List α} {i : Nat} {x : α} (h : l[i]? = some x)
    (p : α → Bool) (y : α) : (l.set i y).countP p + (p x).toNat = l.countP p + (p y).toNat := by
  obtain ⟨before, after, rfl, hset⟩ := exists_split_of_getElem? h
  rw [hset]
  simp only [List.countP_append, List.countP_cons]
  cases p x <;> cases p y <;> simp <;> omega

namespace SharedPool

variable {s s' : SharedPool σ V}

/-- How many threads sleep and have not been notified. -/
def asleep (s : SharedPool σ V) : Nat := s.threads.countP (PoolThread.waits .asleep)

/-- How many threads have been notified and are to check again. -/
def notified (s : SharedPool σ V) : Nat := s.threads.countP (PoolThread.waits .notified)

/-- How many threads have given a resource back and are to notify somebody. -/
def notifying (s : SharedPool σ V) : Nat := s.threads.countP PoolThread.isNotifying

/-- How many threads have shut the pool down and are to notify all. -/
def announcing (s : SharedPool σ V) : Nat := s.threads.countP PoolThread.isAnnouncing

/-- **The invariant.** -/
structure Attended (s : SharedPool σ V) : Prop where
  drained : s.state.closed = true → s.state.idle = []
  idle : 0 < s.asleep → s.state.idle.length ≤ s.notified + s.notifying
  announced : 0 < s.asleep → s.state.closed = true → 0 < s.announcing

theorem Attended.of_attends (hs : Attended s) {i : Nat} {t t' : PoolThread V}
    (hi : s.threads[i]? = some t) (hthreads : s'.threads = s.threads.set i t')
    (h : t.Attends s.state s'.state t') : Attended s' := by
  have hasleep := countP_set_add hi (PoolThread.waits .asleep) t'
  have hnotified := countP_set_add hi (PoolThread.waits .notified) t'
  have hnotifying := countP_set_add hi PoolThread.isNotifying t'
  have hannouncing := countP_set_add hi PoolThread.isAnnouncing t'
  -- All four counts change by what this one thread counted for and now counts for.
  simp only [← hthreads] at hasleep hnotified hnotifying hannouncing
  exact {
    drained := h.drained
    idle := by
      intro hsome
      obtain hnone | hidle := h.idle
      · simp [hnone]
      obtain ⟨hnone, -⟩ | hle := h.asleep
      · simp [hnone]
      have := hs.idle (by unfold asleep at *; omega)
      simp only [notified, notifying, PoolThread.pending] at *
      omega
    announced := by
      intro hsome hclosed
      obtain ⟨-, hopen⟩ | hle := h.asleep
      · simp [hopen] at hclosed
      obtain ⟨hclosed', hsame⟩ | hnew := h.announced hclosed
      · have := hs.announced (by unfold asleep at *; omega) hclosed'
        rw [hsame] at hannouncing
        unfold announcing at *
        omega
      · have hlt := (List.getElem?_eq_some_iff.1 hi).1
        exact List.countP_pos_iff.2 ⟨t', hthreads ▸ List.mem_set hlt t', hnew⟩ }

theorem Attended.spawn (hs : Attended s) {t : PoolThread V} (ht : t.waits .asleep = false) :
    Attended (s.spawn t) := by
  have hasleep : (s.spawn t).asleep = s.asleep := by
    simp [asleep, SharedPool.spawn, ht]
  exact {
    drained := hs.drained
    idle := by
      intro hsome
      have := hs.idle (hasleep ▸ hsome)
      simp only [SharedPool.spawn, notified, notifying, List.countP_append] at *
      omega
    announced := by
      intro hsome hclosed
      have := hs.announced (hasleep ▸ hsome) hclosed
      simp only [SharedPool.spawn, announcing, List.countP_append] at *
      omega }

/-- A thread that closes a resource, and neither notifies nor waits. -/
theorem Attended.close (hs : Attended s) {i : Nat} {t next : PoolThread V} {r : Numbered V}
    {left : List (Numbered V)} (hi : s.threads[i]? = some t) (hpending : t.pending = 0)
    (hannouncing : t.isAnnouncing = false) (hasleep : next.waits .asleep = false)
    (hnext : next.isAnnouncing = false) : Attended (s.close i r left next) := by
  unfold SharedPool.close
  split
  · refine hs.of_attends hi rfl ⟨hs.drained, .inr ?_, .inr (Nat.zero_le _), ?_⟩
    · rw [hpending]
      exact Nat.le_add_right ..
    · exact fun h => .inl ⟨h, hannouncing.symm⟩
  · refine hs.of_attends hi rfl ⟨hs.drained, .inr ?_, .inr ?_, ?_⟩
    · rw [hpending]
      exact Nat.le_add_right ..
    · rw [hasleep]
      exact Nat.zero_le _
    · exact fun h => .inl ⟨h, hnext.trans hannouncing.symm⟩

theorem attended_of_no_sleeper (hd : s.state.closed = true → s.state.idle = [])
    (h : s.asleep = 0) : Attended s where
  drained := hd
  idle hsome := absurd h (Nat.ne_of_gt hsome)
  announced hsome := absurd h (Nat.ne_of_gt hsome)

/-- A thread that notifies ends, and a sleeper becomes one that is to check. -/
theorem countP_notifyOne {i j : Nat} {purpose : Purpose} {deadline : Instant}
    (hi : s.threads[i]? = some .notifying)
    (hj : s.threads[j]? = some (.waiting .asleep purpose deadline)) (p : PoolThread V → Bool) :
    ((s.threads.set i (.ended .returned)).set j (.waiting .notified purpose deadline)).countP p +
        (p .notifying).toNat + (p (.waiting .asleep purpose deadline)).toNat =
      s.threads.countP p + (p (.ended .returned)).toNat +
        (p (.waiting .notified purpose deadline)).toNat := by
  have hne : i ≠ j := by
    rintro rfl
    simp [hi] at hj
  have hj' : (s.threads.set i (.ended .returned))[j]? =
      some (.waiting .asleep purpose deadline) := by
    rw [List.getElem?_set_ne hne, hj]
  have hgoes := countP_set_add hi p (.ended .returned)
  have hwakes := countP_set_add hj' p (.waiting .notified purpose deadline)
  omega

/-- **A step keeps the invariant.** -/
theorem Attended.step (hs : Attended s) (h : Step s s') : Attended s' := by
  cases h with
  | tick d => exact ⟨hs.drained, hs.idle, hs.announced⟩
  | begin purpose =>
      apply hs.spawn
      unfold acquirer
      split <;> rfl
  | stop => exact hs.spawn rfl
  | act hi ha => exact hs.of_attends hi rfl (ha.attends hs.drained)
  | @notifyOne i j purpose deadline hi hj =>
      have hcount := countP_notifyOne hi hj
      generalize (s.threads.set i (.ended .returned)).set j
        (.waiting .notified purpose deadline) = threads at *
      -- What the thread that notifies counted for now counts the one that it has woken.
      have hasleep : threads.countP (PoolThread.waits .asleep) + 0 + 1 = s.asleep + 0 + 0 :=
        hcount _
      have hnotified : threads.countP (PoolThread.waits .notified) + 0 + 0 = s.notified + 0 + 1 :=
        hcount _
      have hnotifying : threads.countP PoolThread.isNotifying + 1 + 0 = s.notifying + 0 + 0 :=
        hcount _
      have hannouncing : threads.countP PoolThread.isAnnouncing + 0 + 0 = s.announcing + 0 + 0 :=
        hcount _
      have hsleeper : 0 < s.asleep := by omega
      exact {
        drained := hs.drained
        idle := by
          intro _
          have := hs.idle hsleeper
          simp only [notified, notifying] at *
          omega
        announced := by
          intro _ hclosed
          have := hs.announced hsleeper hclosed
          simp only [announcing] at *
          omega }
  | @notifyNobody i hi hn =>
      -- A notification is lost only when nobody sleeps.
      refine attended_of_no_sleeper hs.drained ?_
      have hcount := countP_set_add hi (PoolThread.waits .asleep) (.ended .returned)
      have hnone : s.threads.countP (PoolThread.waits .asleep) = 0 := by
        simpa using hn
      simpa only [asleep, hnone, PoolThread.waits, Bool.toNat_false, Nat.add_zero] using hcount
  | notifyAll hi =>
      refine attended_of_no_sleeper hs.drained (List.countP_eq_zero.2 ?_)
      intro t ht
      obtain ⟨t, -, rfl⟩ := List.mem_map.1 ht
      simp
  | close hi => exact hs.close hi rfl rfl rfl rfl
  | @closeNext i count r left hi => exact hs.close hi rfl rfl (by simp) (by simp)

theorem attended_ofPool {f : Factory σ V} {works : σ} {size : Nat} {timeout : Duration}
    {p : Pool σ V} (h : (Pool.build f works size timeout).result = .done (.ok p))
    (clock : Instant) : Attended (ofPool p clock) := by
  obtain ⟨-, -, hstate⟩ := Pool.state_of_build h
  refine attended_of_no_sleeper ?_ rfl
  rw [ofPool, hstate]
  simp

theorem Attended.run (hs : Attended s) (h : Run s s') : Attended s' := by
  induction h with
  | refl => exact hs
  | tail _ hstep ih => exact ih.step hstep

/-! ### What is pending gets done -/

/-- Nobody is still to notify, or to check again after a notification. -/
structure Settled (s : SharedPool σ V) : Prop where
  notified : s.notified = 0
  notifying : s.notifying = 0
  announcing : s.announcing = 0

theorem Attended.of_settled (hs : Attended s) (hsome : 0 < s.asleep) (hset : s.Settled) :
    s.state.idle = [] ∧ s.state.closed = false := by
  constructor
  · have := hs.idle hsome
    rw [hset.notified, hset.notifying] at this
    exact List.length_eq_zero_iff.1 (Nat.le_zero.1 this)
  · cases hclosed : s.state.closed with
    | false => rfl
    | true =>
        have := hs.announced hsome hclosed
        rw [hset.announcing] at this
        exact absurd this (Nat.lt_irrefl _)

/-- A bound on how many steps what is pending takes. -/
def work (s : SharedPool σ V) : Nat :=
  -- Announcing may wake every thread; notifying wakes one, which then has to check.
  (s.threads.length + 1) * s.announcing + (2 * s.notifying + s.notified)

theorem work_lt (hlength : s'.threads.length = s.threads.length)
    (h : s'.announcing < s.announcing ∧ s'.notifying ≤ s.notifying ∨
      s'.announcing = s.announcing ∧
        2 * s'.notifying + s'.notified < 2 * s.notifying + s.notified) : s'.work < s.work := by
  have hnotified : s'.notified ≤ s.threads.length := hlength ▸ List.countP_le_length
  simp only [work, hlength]
  obtain ⟨hlt, hle⟩ | ⟨heq, hlt⟩ := h
  · have := Nat.mul_le_mul_left (s.threads.length + 1) hlt
    rw [Nat.mul_succ] at this
    omega
  · rw [heq]
    omega

/-- A step that does some of what is pending, without new threads. -/
def Eases (s s' : SharedPool σ V) : Prop :=
  Step s s' ∧ s'.threads.length = s.threads.length ∧ s'.work < s.work

theorem exists_of_countP_pos {α : Type} {l : List α} {p : α → Bool} (h : 0 < l.countP p) :
    ∃ (i : Nat) (x : α), l[i]? = some x ∧ p x = true := by
  obtain ⟨x, hx, hp⟩ := List.countP_pos_iff.1 h
  obtain ⟨i, hi⟩ := List.mem_iff_getElem?.1 hx
  exact ⟨i, x, hi, hp⟩

theorem exists_eases_of_announcing (h : 0 < s.announcing) : ∃ s', Eases s s' := by
  obtain ⟨i, t, hi, ht⟩ := exists_of_countP_pos h
  cases t with
  | announcing drained =>
      refine ⟨_, .notifyAll hi, by simp, work_lt (by simp) (.inl ?_)⟩
      have hnotifying :=
        countP_set_add hi PoolThread.isNotifying (.closingOn drained.length drained)
      have hannouncing :=
        countP_set_add hi PoolThread.isAnnouncing (.closingOn drained.length drained)
      -- Sleepers that are woken neither notify nor announce, so these counts see one thread change.
      have hsame : PoolThread.isNotifying ∘ PoolThread.notify (V := V) = PoolThread.isNotifying :=
        funext PoolThread.isNotifying_notify
      have hsame' : PoolThread.isAnnouncing ∘ PoolThread.notify (V := V) =
          PoolThread.isAnnouncing := funext PoolThread.isAnnouncing_notify
      rw [PoolThread.isNotifying_closingOn] at hnotifying
      rw [PoolThread.isAnnouncing_closingOn, ht, Bool.toNat_true] at hannouncing
      simp only [notifying, announcing, List.countP_map, hsame, hsame', Bool.toNat_false] at *
      omega
  | _ => cases ht

theorem exists_eases_of_notifying (h : 0 < s.notifying) : ∃ s', Eases s s' := by
  obtain ⟨i, t, hi, ht⟩ := exists_of_countP_pos h
  cases t with
  | notifying =>
      rcases Nat.eq_zero_or_pos s.asleep with hnone | hsome
      · refine ⟨_, .notifyNobody hi (by simpa using List.countP_eq_zero.1 hnone), by simp,
          work_lt (by simp) (.inr ⟨?_, ?_⟩)⟩
        · exact countP_set_add hi PoolThread.isAnnouncing (.ended .returned)
        · have hnotifying := countP_set_add hi PoolThread.isNotifying (.ended .returned)
          have hnotified := countP_set_add hi (PoolThread.waits .notified) (.ended .returned)
          simp only [notifying, notified, PoolThread.waits, PoolThread.isNotifying,
            Bool.toNat_true, Bool.toNat_false] at *
          omega
      · obtain ⟨j, u, hj, hu⟩ := exists_of_countP_pos hsome
        cases u with
        | waiting wait purpose deadline =>
            have hw : wait = .asleep := by simpa [PoolThread.waits] using hu
            subst hw
            have hcount := countP_notifyOne hi hj
            refine ⟨_, .notifyOne hi hj, by simp, work_lt (by simp) (.inr ⟨?_, ?_⟩)⟩
            · exact hcount PoolThread.isAnnouncing
            · have hnotifying := hcount PoolThread.isNotifying
              have hnotified := hcount (PoolThread.waits .notified)
              simp only [notifying, notified, PoolThread.waits, PoolThread.isNotifying,
                Bool.toNat_true, Bool.toNat_false, beq_self_eq_true] at *
              omega
        | _ => cases hu
  | _ => cases ht

theorem exists_eases_of_notified (h : 0 < s.notified) : ∃ s', Eases s s' := by
  obtain ⟨i, t, hi, ht⟩ := exists_of_countP_pos h
  cases t with
  | waiting wait purpose deadline =>
      have hw : wait = .notified := by simpa [PoolThread.waits] using ht
      subst hw
      obtain ⟨t', state, happened, ha, hpending, hannouncing⟩ :=
        PoolThread.exists_acts_of_waiting s.timeout s.clock s.state
          (show Wait.notified ≠ .asleep by decide) purpose deadline
      have hless := countP_set_add hi (PoolThread.waits .notified) t'
      have hless' := countP_set_add hi PoolThread.isNotifying t'
      have hsame := countP_set_add hi PoolThread.isAnnouncing t'
      refine ⟨_, .act hi ha, by simp, work_lt (by simp) (.inr ⟨?_, ?_⟩)⟩
      · rw [hannouncing] at hsame
        exact hsame
      · rw [ht] at hless
        simp only [notifying, notified, PoolThread.pending, PoolThread.isNotifying,
          Bool.toNat_true, Bool.toNat_false] at *
        omega
  | _ => cases ht

/-- **What is pending gets done**: from any state there is a run without new threads after which
nobody is still to notify, or to check again. -/
theorem exists_run_settled (s : SharedPool σ V) :
    ∃ s', Run s s' ∧ s'.threads.length = s.threads.length ∧ s'.Settled := by
  induction hn : s.work using Nat.strongRecOn generalizing s with
  | ind n ih =>
      have hstep : s.Settled ∨ ∃ s', Eases s s' := by
        rcases Nat.eq_zero_or_pos s.announcing with h₁ | h₁
        · rcases Nat.eq_zero_or_pos s.notifying with h₂ | h₂
          · rcases Nat.eq_zero_or_pos s.notified with h₃ | h₃
            · exact .inl ⟨h₃, h₂, h₁⟩
            · exact .inr (exists_eases_of_notified h₃)
          · exact .inr (exists_eases_of_notifying h₂)
        · exact .inr (exists_eases_of_announcing h₁)
      obtain hsettled | ⟨s', hs', hlength, hlt⟩ := hstep
      · exact ⟨s, .refl, rfl, hsettled⟩
      · obtain ⟨s'', hrun, hlength', hsettled⟩ := ih s'.work (hn ▸ hlt) s' rfl
        exact ⟨s'', .head hs' hrun, hlength'.trans hlength, hsettled⟩

/-- **No wake-up is lost.**  After any run of the threads of a pool that was built, as long as a
thread sleeps that has not been notified, there are at most as many idle resources as threads that
have been notified and have not checked again and threads that have given a resource back and have
not notified yet; and if the pool is shut down, somebody is still to notify all.  So when nothing
of this is pending a sleeper is beside an open pool without idle resources; and what is pending can
always be done. -/
theorem no_lost_wakeup {f : Factory σ V} {works : σ} {size : Nat} {timeout : Duration}
    {p : Pool σ V} (hbuilt : (Pool.build f works size timeout).result = .done (.ok p))
    {clock : Instant} (hrun : Run (ofPool p clock) s) :
    (∀ purpose deadline, PoolThread.waiting .asleep purpose deadline ∈ s.threads →
      s.state.idle.length ≤ s.notified + s.notifying ∧
      (s.state.closed = true → 0 < s.announcing) ∧
      (s.Settled → s.state.idle = [] ∧ s.state.closed = false)) ∧
    ∃ s', Run s s' ∧ s'.threads.length = s.threads.length ∧ s'.Settled ∧
      ∀ purpose deadline, PoolThread.waiting .asleep purpose deadline ∈ s'.threads →
        s'.state.idle = [] ∧ s'.state.closed = false := by
  have hinit := attended_ofPool hbuilt clock
  have hs := hinit.run hrun
  constructor
  · intro purpose deadline hmem
    have hsome : 0 < s.asleep := List.countP_pos_iff.2 ⟨_, hmem, rfl⟩
    exact ⟨hs.idle hsome, hs.announced hsome, hs.of_settled hsome⟩
  · obtain ⟨s', hrun', hlength, hset⟩ := exists_run_settled s
    refine ⟨s', hrun', hlength, hset, ?_⟩
    intro purpose deadline hmem
    exact (hs.run hrun').of_settled (List.countP_pos_iff.2 ⟨_, hmem, rfl⟩) hset

/-- A pool of one resource. -/
def oneSpecimen : Pool Workshop Specimen where
  factory := Workshop.factory
  works := { nextId := 1, journal := [.created 0] }
  size := 1
  timeout := .ofSecs 1
  state := { idle := [⟨0, ""⟩] }

/-- A thread sleeps while the only resource is held; when that has come back and nobody has been
notified yet, it is the one that gives it back that counts. -/
theorem no_lost_wakeup_of_give_back :
    ∃ s : SharedPool Workshop Specimen,
      (Pool.build Workshop.factory {} 1 (.ofSecs 1)).result = .done (.ok oneSpecimen) ∧
      Run (ofPool oneSpecimen 0) s ∧ s.state.idle.length = 1 ∧ s.notified = 0 ∧
      s.notifying = 1 ∧ s.state.idle.length ≤ s.notified + s.notifying := by
  have hbuilt : (Pool.build Workshop.factory {} 1 (.ofSecs 1)).result = .done (.ok oneSpecimen) :=
    rfl
  obtain ⟨s, hrun, hthreads, hidle⟩ : ∃ s, Run (ofPool oneSpecimen 0) s ∧ s.threads =
      [.notifying, .waiting .asleep (.future false) (Duration.ofSecs 1).nanos] ∧
      s.state.idle.length = 1 := by
    refine ⟨_, Relation.ReflTransGen.refl
      |>.tail (.begin .caller)
      |>.tail (.begin (.future false))
      |>.tail (.act (i := 0) rfl (.take (by decide) rfl))
      |>.tail (.act (i := 1) rfl (.sleep (by decide) rfl))
      |>.tail (.act (i := 0) rfl (.giveBack rfl)), rfl, rfl⟩
  refine ⟨s, hbuilt, hrun, hidle, by rw [notified, hthreads]; rfl, by rw [notifying, hthreads]; rfl,
    ((no_lost_wakeup hbuilt hrun).1 (.future false) (Duration.ofSecs 1).nanos ?_).1⟩
  rw [hthreads]
  exact List.mem_cons_of_mem _ List.mem_cons_self

end SharedPool

end DataTier
