/-
**Runs of a store.**

A history is a list of requests with the times at which the store serves them; running it is a
fold.  What one request keeps, a run keeps: no key is stored twice, and the capacity stays.

Main definitions:

* `DataTier.StoreRequest`, `DataTier.History` — requests, and requests with times;
* `DataTier.Store.serve`, `Store.run` — one request, and a whole history;
* `DataTier.History.Ordered`, `History.Shown` — times that do not go back, and deadlines that the
  clock can show.

Main results:

* `DataTier.Store.distinct_run`, `Store.capacity_run` — what every run keeps;
* `DataTier.Store.get_serve_of_reads` — asking changes nothing that is visible.
-/

import DataTier.Proofs.Store.Lookup

set_option relaxedAutoImplicit false
set_option autoImplicit false

namespace DataTier

/-- A request to a store. -/
inductive StoreRequest where
  /-- Stores a value for a while. -/
  | setex (key : String) (ttl : Duration) (value : Bytes)
  /-- Looks a key up. -/
  | get (key : String)
  /-- Removes a key. -/
  | delete (key : String)
  /-- Asks whether a key is visible. -/
  | contains (key : String)
  /-- Drops the expired entries. -/
  | purge
  deriving DecidableEq

namespace StoreRequest

/-- The key that a request writes or removes. -/
def writes? : StoreRequest → Option String
  | .setex key _ _ => some key
  | .delete key => some key
  | _ => none

end StoreRequest

/-- Requests with their times, the oldest first. -/
abbrev History := List (Instant × StoreRequest)

namespace History

/-- Times do not go back. -/
def Ordered (h : History) : Prop := (h.map Prod.fst).Pairwise (· ≤ ·)

/-- Every deadline can be shown by the clock. -/
def Shown (h : History) : Prop :=
  ∀ t key ttl value, (t, StoreRequest.setex key ttl value) ∈ h → (t.after? ttl).isSome

theorem Ordered.of_append {h : History} {x : Instant × StoreRequest} (hh : Ordered (h ++ [x])) :
    Ordered h ∧ ∀ y ∈ h, y.1 ≤ x.1 := by
  rw [Ordered, List.map_append, List.pairwise_append] at hh
  obtain ⟨hordered, -, hle⟩ := hh
  exact ⟨hordered, fun y hy => hle _ (List.mem_map_of_mem hy) _ (by simp)⟩

theorem Shown.of_append {h : History} {x : Instant × StoreRequest} (hh : Shown (h ++ [x])) :
    Shown h ∧ Shown [x] :=
  ⟨fun t key ttl value hmem => hh t key ttl value (List.mem_append_left _ hmem),
    fun t key ttl value hmem => hh t key ttl value (List.mem_append_right _ hmem)⟩

end History

namespace Store

/-- The store after one request. -/
def serve (s : Store) (now : Instant) : StoreRequest → Store
  | .setex key ttl value => (s.setex now key ttl value).2
  | .get key => (s.get now key).2
  | .delete key => s.delete key
  | .contains _ => s
  | .purge => (s.purge now).2

/-- The store after a history. -/
def run (s : Store) (h : History) : Store := h.foldl (fun s x => s.serve x.1 x.2) s

@[simp] theorem run_nil (s : Store) : s.run [] = s := rfl

@[simp] theorem run_append (s : Store) (h h' : History) : s.run (h ++ h') = (s.run h).run h' :=
  List.foldl_append

@[simp] theorem run_singleton (s : Store) (x : Instant × StoreRequest) :
    s.run [x] = s.serve x.1 x.2 := rfl

/-- What every request keeps, every run keeps. -/
theorem run_induction {p : Store → Prop} (hstep : ∀ s now r, p s → p (s.serve now r)) {s : Store}
    (hs : p s) (h : History) : p (s.run h) := by
  induction h generalizing s with
  | nil => exact hs
  | cons x h ih => exact ih (hstep s x.1 x.2 hs)

variable {s : Store} {now : Instant} {key : String}

theorem Distinct.serve (hs : s.Distinct) (now : Instant) (r : StoreRequest) :
    (s.serve now r).Distinct := by
  cases r with
  | setex key ttl value =>
      have hroom := hs.of_sublist (makeRoom_sublist s now key)
      simp only [Store.serve, setex]
      split
      · exact hroom.put key _
      · exact hroom
  | get key =>
      rw [Store.serve, get_snd]
      exact hs.of_sublist (dropExpired_sublist s now key)
  | delete key => exact hs.delete key
  | contains key => exact hs
  | purge => exact hs.of_sublist (retainLive_sublist s now)

theorem distinct_run (capacity : Nat) (h : History) : ((empty capacity).run h).Distinct :=
  run_induction (fun _ now r hs => hs.serve now r) (distinct_empty capacity) h

theorem capacity_serve (s : Store) (now : Instant) (r : StoreRequest) :
    (s.serve now r).capacity = s.capacity := by
  cases r with
  | setex key ttl value =>
      simp only [serve, setex]
      split <;> simp
  | get key => rw [serve, get_snd, capacity_dropExpired]
  | delete key => rfl
  | contains key => rfl
  | purge => rfl

theorem capacity_run (s : Store) (h : History) : (s.run h).capacity = s.capacity :=
  run_induction (p := fun s' => s'.capacity = s.capacity)
    (fun s' now r hs => (capacity_serve s' now r).trans hs) rfl h

/-- Nothing is visible of an entry from its deadline on. -/
theorem valueAt_filter (found : Option Entry) {now later : Instant} (h : now ≤ later) :
    (found.filter fun e => !e.isExpired now).bind (·.valueAt later) =
      found.bind (·.valueAt later) := by
  cases found with
  | none => rfl
  | some e =>
      by_cases hlive : now < e.expiresAt
      · simp [Option.filter_some, Entry.isExpired_eq_false_iff.2 hlive]
      · have hle : e.expiresAt ≤ now := Nat.le_of_not_lt hlive
        have hgone : e.valueAt later = none := if_neg (Nat.not_lt.2 (Nat.le_trans hle h))
        simp [Option.filter_some, (e.isExpired_iff now).2 hle, hgone]

/-- **Asking changes nothing that is visible**, then or later: neither which keys are visible nor
their values. -/
theorem get_serve_of_reads (hs : s.Distinct) {r : StoreRequest} (hr : r.writes? = none)
    {later : Instant} (h : now ≤ later) (key : String) :
    ((s.serve now r).get later key).1 = (s.get later key).1 := by
  rw [get_fst, get_fst]
  cases r with
  | setex key ttl value => cases hr
  | get asked =>
      rw [serve, get_snd, find?_dropExpired]
      split
      · rw [valueAt_filter _ h]
      · rfl
  | delete key => cases hr
  | contains key => rfl
  | purge =>
      rw [serve, purge, hs.find?_retainLive, valueAt_filter _ h]

end Store

end DataTier
