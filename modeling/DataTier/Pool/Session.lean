/-
**Pools at work.**

A session holds several pools, handles to them and guards of handed-out resources, each numbered
as it was made.  Several handles may belong to one pool.  A guard whose resource has gone back
stays in its place and answers that it is gone.

Main definitions:

* `DataTier.PoolSession` — pools, handles and guards;
* `DataTier.PoolSession.Step`, `PoolSession.Answer` — what can be asked and what is answered;
* `DataTier.PoolSession.step` — one step;
* `DataTier.PoolSession.finish` — guards and pools let go of in order.
-/

import DataTier.Pool.Basic
import DataTier.Pool.Scripted

set_option relaxedAutoImplicit false
set_option autoImplicit false

namespace DataTier

/-- A handed-out resource: the pool it belongs to, and the resource until it has gone back. -/
structure PoolGuard where
  /-- The number of the pool. -/
  pool : Nat
  /-- The resource, none once it has gone back. -/
  resource : Option Specimen

/-- The guard of a resource as a developer sees it. -/
def Specimen.guardDebug (r : Specimen) : String := "PooledResource(Some(" ++ r.debug ++ "))"

/-- Pools at work. -/
structure PoolSession where
  /-- The pools. -/
  pools : List (Pool Workshop Specimen) := []
  /-- The pool of each handle. -/
  handles : List Nat := []
  /-- The guards. -/
  guards : List PoolGuard := []
  /-- Journal lines since the last step. -/
  journal : List JournalLine := []
  /-- Events since the last step. -/
  log : List Event := []

namespace PoolSession

/-- A scripted factory, and how often it tries. -/
structure Plan where
  /-- The script. -/
  workshop : Workshop
  /-- Attempts and first wait, for a factory that tries again. -/
  retry : Option (Nat × Duration)

/-- The factory of a plan. -/
def Plan.factory (p : Plan) : Factory Workshop Specimen :=
  match p.retry with
  | some (attempts, delay) => Workshop.factory.retrying attempts delay
  | none => Workshop.factory

/-- What a resource is used for within one call. -/
inductive Use where
  /-- Its number is read. -/
  | readId
  /-- Its tag is read. -/
  | readTag
  /-- Something is added to its tag. -/
  | append (tag : String)
  /-- A query on it fails. -/
  | fail
  /-- The use breaks down. -/
  | panic

/-- What a use of a resource gives. -/
inductive Used where
  /-- A number. -/
  | number (n : Nat)
  /-- A text. -/
  | text (s : String)
  /-- An error of the query. -/
  | error (message : String)

/-- A use of a resource, which may change it. -/
def Use.run (u : Use) (r : Specimen) : Outcome Used × Specimen :=
  match u with
  | .readId => (.done (.number r.id), r)
  | .readTag => (.done (.text r.tag), r)
  | .append tag => (.done (.text (r.tag ++ tag)), { r with tag := r.tag ++ tag })
  | .fail => (.done (.error ("query on " ++ toString r.id ++ " failed")), r)
  | .panic => (.panicked "use panicked", r)

/-- What frees a resource, or the pool, while somebody waits. -/
inductive Freeing where
  /-- A guard is dropped. -/
  | drop (guard : Nat)
  /-- The pool is shut down. -/
  | shutdown
  /-- Nothing is. -/
  | nothing

/-- A call on a runtime that has shut down. -/
inductive LateCall where
  /-- An acquisition, or a scoped use. -/
  | acquire
  /-- A release of a guard. -/
  | release (guard : Nat)

/-- What can be asked of pools. -/
inductive Step where
  /-- A pool is built. -/
  | build (plan : Plan) (size : Nat) (timeout : Duration)
  /-- A resource is acquired on this thread. -/
  | acquire (handle : Nat)
  /-- A resource is acquired on a worker. -/
  | acquireOnWorker (handle : Nat)
  /-- A guard is dropped. -/
  | drop (guard : Nat)
  /-- A guard is dropped on a worker. -/
  | release (handle guard : Nat)
  /-- A resource is looked at. -/
  | read (guard : Nat)
  /-- A resource's tag is written. -/
  | write (guard : Nat) (tag : String)
  /-- A resource is used within one call. -/
  | use (handle : Nat) (use : Use)
  /-- A thread breaks down while it holds a resource. -/
  | panicHolding (handle : Nat)
  /-- A thread waits while something is freed. -/
  | wait (handle : Nat) (freeing : Freeing)
  /-- An acquisition on a worker is given up. -/
  | cancel (handle : Nat)
  /-- Many acquisitions, each given back at once. -/
  | contend (handle times : Nat)
  /-- A call on a runtime that has shut down. -/
  | late (handle : Nat) (call : LateCall)
  /-- Another handle is made. -/
  | clone (handle : Nat)
  /-- The pool is shut down. -/
  | shutdown (handle : Nat)
  /-- The pool says what it is. -/
  | info (handle : Nat)

/-- What pools answer. -/
inductive Answer where
  /-- The number of a new handle. -/
  | handle (n : Nat)
  /-- The number of a new guard, and of its resource. -/
  | guarded (n id : Nat)
  /-- An error of the pool. -/
  | failed (e : PoolError)
  /-- The worker is gone; why has no stable wording. -/
  | workerGone
  /-- The guard is dropped. -/
  | dropped
  /-- The guard is released. -/
  | released
  /-- The guard's resource has gone back before. -/
  | alreadyGone
  /-- A resource as it is. -/
  | seen (r : Specimen)
  /-- The tag is written. -/
  | written
  /-- What a use gave. -/
  | used (result : Used)
  /-- The thread broke down while it held a resource. -/
  | panickedHolding
  /-- What was freed, and what the waiting thread got. -/
  | waited (freed : Option Answer) (waiter : Answer)
  /-- The acquisition is given up. -/
  | cancelled
  /-- How many acquisitions succeeded; the pool never held more than its size. -/
  | contended (succeeded : Nat)
  /-- How many. -/
  | count (n : Nat)
  /-- The pool speaks for itself. -/
  | info (p : Pool Workshop Specimen)
  /-- There is no pool of that number. -/
  | noPool
  /-- The call broke down. -/
  | broken (message : String)

/-! ### Pools and guards -/

/-- Something done with a pool; its journal and log go to the session's. -/
def onPool {α : Type} (s : PoolSession) (n : Nat) (missing : α)
    (f : Pool Workshop Specimen → α × Pool Workshop Specimen) : α × PoolSession :=
  match s.pools[n]? with
  | none => (missing, s)
  | some p =>
    let (x, p) := f p
    let quiet := { p with log := [], works := { p.works with journal := [] } }
    (x, { s with
      pools := s.pools.set n quiet
      journal := s.journal ++ p.works.journal
      log := s.log ++ p.log })

/-- A guard for a resource that was handed out. -/
def guardFor (s : PoolSession) (pool : Nat) : Outcome (Except PoolError Specimen) →
    Answer × PoolSession
  | .panicked message => (.broken message, s)
  | .done (.error e) => (.failed e, s)
  | .done (.ok r) =>
    (.guarded s.guards.length r.id, { s with guards := s.guards ++ [⟨pool, some r⟩] })

/-- When every acquisition of a session begins: nothing depends on it. -/
def start : Instant := 0

/-- A resource acquired. -/
def acquire (s : PoolSession) (pool : Nat) : Outcome (Except PoolError Specimen) × PoolSession :=
  s.onPool pool (.done (.error .closed)) fun p => p.acquire start

/-- A resource given back to its pool. -/
def giveBack (s : PoolSession) (pool : Nat) (r : Specimen) : Outcome Unit × PoolSession :=
  s.onPool pool (.done ()) fun p => p.giveBack r

/-- A guard's resource, if it has not gone back. -/
def held? (s : PoolSession) (guard : Nat) : Option (Nat × Specimen) :=
  (s.guards[guard]?).bind fun g => g.resource.map fun r => (g.pool, r)

/-- A guard's resource given back, none if it has gone before. -/
def dropGuard (s : PoolSession) (guard : Nat) : Option (Outcome Unit) × PoolSession :=
  match s.held? guard with
  | none => (none, s)
  | some (pool, r) =>
    let s := { s with guards := s.guards.set guard ⟨pool, none⟩ }
    let (result, s) := s.giveBack pool r
    (some result, s)

/-! ### Steps -/

/-- A guard dropped on this thread. -/
def drop (s : PoolSession) (guard : Nat) : Answer × PoolSession :=
  match s.dropGuard guard with
  | (none, s) => (.alreadyGone, s)
  | (some (.done ()), s) => (.dropped, s)
  | (some (.panicked message), s) => (.broken message, s)

/-- A guard dropped on a worker. -/
def release (s : PoolSession) (guard : Nat) : Answer × PoolSession :=
  match s.dropGuard guard with
  | (none, s) => (.alreadyGone, s)
  | (some (.done ()), s) => (.released, s)
  | (some (.panicked _), s) => (.failed .workerPanicked, s)

/-- A pool shut down. -/
def shutdown (s : PoolSession) (pool : Nat) : Answer × PoolSession :=
  match s.onPool pool (.done 0) Pool.shutdown with
  | (.done n, s) => (.count n, s)
  | (.panicked message, s) => (.broken message, s)

/-- How long after a waiting thread something is freed. -/
def freeingDelay : Duration := .ofMillis 8

/-- Something freed. -/
def free (s : PoolSession) (pool : Nat) : Freeing → Option Answer × PoolSession
  | .nothing => (none, s)
  | .drop guard =>
    let (answer, s) := s.drop guard
    (some answer, s)
  | .shutdown =>
    let (answer, s) := s.shutdown pool
    (some answer, s)

/-- One check of an acquirer. -/
def attempt (s : PoolSession) (pool : Nat) (now deadline : Instant) :
    Option (Except PoolError Specimen) × PoolSession :=
  s.onPool pool none fun p =>
    let (found, p) := p.attempt now deadline
    (p.answer? found, p)

/-- A thread that waits: it checks, then something is freed, then it checks again, and for the last
time at its deadline.  Whatever is freed after its deadline comes too late for it. -/
def wait (s : PoolSession) (pool : Nat) (freeing : Freeing) : Answer × PoolSession :=
  match s.pools[pool]?.bind fun p => start.after? p.timeout with
  | none =>
    let (freed, s) := s.free pool freeing
    (.waited freed (.broken Instant.overflowMessage), s)
  | some deadline =>
    let freedAt := start + freeingDelay.nanos
    let early (s : PoolSession) (result : Except PoolError Specimen) :=
      let (freed, s) := s.free pool freeing
      let (waiter, s) := s.guardFor pool (.done result)
      (Answer.waited freed waiter, s)
    match s.attempt pool start deadline with
    | (some result, s) => early s result
    | (none, s) =>
      match (if deadline ≤ freedAt then s.attempt pool deadline deadline else (none, s)) with
      | (some result, s) => early s result
      | (none, s) =>
        let (freed, s) := s.free pool freeing
        let (result, s) := match s.attempt pool freedAt deadline with
          | (some result, s) => (some result, s)
          | (none, s) => s.attempt pool deadline deadline
        let (waiter, s) := s.guardFor pool (.done (result.getD (.error .closed)))
        (.waited freed waiter, s)

/-- Acquisitions, each given back at once: how many succeeded. -/
def contend (pool : Nat) : Nat → PoolSession → Nat × PoolSession
  | 0, s => (0, s)
  | times + 1, s =>
    match s.acquire pool with
    | (.done (.ok r), s) =>
      let (n, s) := contend pool times (s.giveBack pool r).2
      (n + 1, s)
    | (_, s) => contend pool times s

/-- A pool built, with a handle to it if that succeeds. -/
def build (s : PoolSession) (plan : Plan) (size : Nat) (timeout : Duration) :
    Answer × PoolSession :=
  let built := Pool.build plan.factory plan.workshop size timeout
  let s := { s with journal := s.journal ++ built.works.journal, log := s.log ++ built.log }
  match built.result with
  | .panicked message => (.broken message, s)
  | .done (.error e) => (.failed e, s)
  | .done (.ok p) =>
    let quiet := { p with works := { p.works with journal := [] } }
    (.handle s.handles.length,
      { s with pools := s.pools ++ [quiet], handles := s.handles ++ [s.pools.length] })

/-- A step on the pool of a handle. -/
def onHandle (s : PoolSession) (handle : Nat) (f : Nat → Answer × PoolSession) :
    Answer × PoolSession :=
  match s.handles[handle]? with
  | some pool => f pool
  | none => (.noPool, s)

/-- One step. -/
def step (s : PoolSession) : Step → Answer × PoolSession
  | .build plan size timeout => s.build plan size timeout
  | .acquire handle => s.onHandle handle fun pool =>
    let (result, s) := s.acquire pool
    s.guardFor pool result
  | .acquireOnWorker handle => s.onHandle handle fun pool =>
    let (result, s) := s.acquire pool
    s.guardFor pool (.done (Pool.ofWorker result))
  | .drop guard => s.drop guard
  | .release handle guard => s.onHandle handle fun _ => s.release guard
  | .read guard => (((s.held? guard).map fun g => Answer.seen g.2).getD .alreadyGone, s)
  | .write guard tag =>
    match s.held? guard with
    | none => (.alreadyGone, s)
    | some (pool, r) =>
      (.written, { s with guards := s.guards.set guard ⟨pool, some { r with tag }⟩ })
  | .use handle use => s.onHandle handle fun pool =>
    let (result, s) := s.onPool pool (.error .closed) fun p => p.withResource start use.run
    match result with
    | .ok x => (.used x, s)
    | .error e => (.failed e, s)
  | .panicHolding handle => s.onHandle handle fun pool =>
    match s.acquire pool with
    | (.done (.ok r), s) => (.panickedHolding, (s.giveBack pool r).2)
    | (result, s) => s.guardFor pool result
  | .wait handle freeing => s.onHandle handle fun pool => s.wait pool freeing
  | .cancel handle => s.onHandle handle fun pool =>
    match s.acquire pool with
    | (.done (.ok r), s) => (.cancelled, (s.giveBack pool r).2)
    | (_, s) => (.cancelled, s)
  | .contend handle times => s.onHandle handle fun pool =>
    let (n, s) := contend pool times s
    (.contended n, s)
  | .late handle call => s.onHandle handle fun _ =>
    match call with
    | .acquire => (.workerGone, s)
    | .release guard =>
      match s.dropGuard guard with
      | (none, s) => (.alreadyGone, s)
      | (some _, s) => (.workerGone, s)
  | .clone handle => s.onHandle handle fun pool =>
    (.handle s.handles.length, { s with handles := s.handles ++ [pool] })
  | .shutdown handle => s.onHandle handle s.shutdown
  | .info handle => s.onHandle handle fun pool =>
    (((s.pools[pool]?).map Answer.info).getD .noPool, s)

/-- Snapshots of the pool of every handle. -/
def stats (s : PoolSession) : List PoolStats :=
  s.handles.filterMap fun pool => (s.pools[pool]?).map Pool.stats

/-- The session with the journal and the log taken out. -/
def quiet (s : PoolSession) : PoolSession := { s with journal := [], log := [] }

/-- Handles let go of one after the other; a pool goes with its last handle. -/
def dropHandles : List Nat → PoolSession → PoolSession
  | [], s => s
  | pool :: rest, s =>
    let s := if pool ∈ rest then s else (s.onPool pool () fun p => ((), p.abandon)).2
    dropHandles rest s

/-- All guards let go of in order, then all handles. -/
def finish (s : PoolSession) : PoolSession :=
  let s := (List.range s.guards.length).foldl (fun s guard => (s.dropGuard guard).2) s
  dropHandles s.handles s

end PoolSession

end DataTier
