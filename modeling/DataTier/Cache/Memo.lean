/-
**Memoized computations.**

A memoized call looks its key up, and on a miss runs the computation and leaves a write of the
result to the background.  The three steps are separate, since other calls may run in between and
since two calls that miss on one key both compute.

Main definitions:

* `DataTier.Memo` — a key prefix, a life span and a codec;
* `DataTier.Memo.keyFor` — the key of given arguments;
* `DataTier.Memo.Lookup`, `Memo.afterLookup` — what the lookup leaves to be done;
* `DataTier.Memo.Write`, `Memo.afterCompute` — what the computation leaves to be written;
* `DataTier.Memo.call` — lookup and computation at one moment.
-/

import DataTier.Cache.Client
import DataTier.Cache.Envelope
import DataTier.Cache.Key

set_option relaxedAutoImplicit false
set_option autoImplicit false

namespace DataTier

/-- How long a cached result lives unless it is told otherwise. -/
def defaultTtl : Duration := .ofSecs 300

/-- How the results of one computation are cached. -/
structure Memo (R : Type) where
  /-- What the keys begin with. -/
  keyPrefix : String
  /-- How long a result lives. -/
  ttl : Duration
  /-- How a result is stored. -/
  codec : Codec R

namespace Memo

variable {σ R : Type}

/-- The key of given arguments. -/
def keyFor (m : Memo R) (args : Datum) : Except Datum.Fault String :=
  (CallArgs.ofDatum args).map (deriveKey m.keyPrefix)

/-- What a call does before it computes. -/
inductive Plan where
  /-- It asks the cache for a key. -/
  | look (key : String)
  /-- It leaves the cache alone. -/
  | bypass
  deriving DecidableEq

/-- The plan of a call: the cache is left alone when there is none, and when the arguments have no
key, which is logged. -/
def plan (m : Memo R) (c : Client σ) (args : Datum) : Plan × Client σ :=
  if c.isEnabled then
    match m.keyFor args with
    | .ok key => (.look key, c)
    | .error fault =>
      (.bypass, c.report (.keyFailed m.keyPrefix (CacheError.serialization fault.message).message))
  else (.bypass, c)

/-- What the lookup leaves to be done. -/
inductive Lookup (R : Type) where
  /-- Nothing, the data were there. -/
  | hit (key : String) (data : R)
  /-- To compute, and to write the data under the key. -/
  | miss (key : String)
  /-- To compute. -/
  | bypass

/-- The end of a lookup, which is logged. -/
def afterLookup (m : Memo R) (c : Client σ) (key : String)
    (result : Except CacheError (Option Bytes)) : Lookup R × Client σ :=
  match c.finishGetJson m.codec key result with
  | (some data, c) => (.hit key data, c.report (.cacheHit key))
  | (none, c) => (.miss key, c.report (.cacheMiss key))

/-- What a computation came to. -/
inductive Computed (R : Type) where
  /-- Data. -/
  | ok (data : R)
  /-- An error, which is the caller's. -/
  | failed (error : String)
  /-- A breakdown. -/
  | panicked (message : String)

/-- A write that is left to the background. -/
structure Write where
  /-- The key. -/
  key : String
  /-- How long the value lives. -/
  ttl : Duration
  /-- The value. -/
  value : Bytes
  deriving DecidableEq

/-- The end of a computation on a miss: its data are to be written, unless they have no JSON,
which is logged. -/
def afterCompute (m : Memo R) (c : Client σ) (key : String) (data : R) :
    Option Write × Client σ :=
  match m.codec.encode data with
  | .ok value => (some ⟨key, m.ttl, value⟩, c)
  | .error fault => (none, c.report (.resultNotSerializable key fault.message))

/-- What a call came to. -/
inductive Answer (R : Type) where
  /-- Data with their provenance; the key tells that the cache was asked. -/
  | ok (key : Option String) (envelope : Envelope R)
  /-- The error of the computation. -/
  | failed (error : String)
  /-- A breakdown of the backend or the computation. -/
  | panicked (message : String)

/-- The end of a call that had to compute: its answer, and the write it leaves. -/
def conclude (m : Memo R) (c : Client σ) (key : Option String) (elapsed : Double) :
    Computed R → Answer R × Option Write × Client σ
  | .failed error => (.failed error, none, c)
  | .panicked message => (.panicked message, none, c)
  | .ok data =>
    match key with
    | none => (.ok none (.computed data Binary.zero), none, c)
    | some key =>
      let (write, c) := m.afterCompute c key data
      (.ok (some key) (.computed data elapsed), write, c)

/-- The lookup of a call at one moment, none when the backend broke down. -/
def lookup (m : Memo R) (c : Client σ) (now : Instant) (args : Datum) :
    Outcome (Lookup R) × Client σ :=
  match m.plan c args with
  | (.bypass, c) => (.done .bypass, c)
  | (.look key, c) =>
    c.run (fun b => b.get now key) (fun c => (.bypass, c)) fun c result =>
      m.afterLookup c key result

/-- A whole call at one moment: its answer, and the write it leaves.  The computation is asked for
only when the cache has no data. -/
def call (m : Memo R) (c : Client σ) (now : Instant) (args : Datum) (elapsed : Double)
    (compute : Unit → Computed R) : Answer R × Option Write × Client σ :=
  match m.lookup c now args with
  | (.panicked message, c) => (.panicked message, none, c)
  | (.done (.hit key data), c) => (.ok (some key) (.hit data elapsed), none, c)
  | (.done (.miss key), c) => m.conclude c (some key) elapsed (compute ())
  | (.done .bypass, c) => m.conclude c none elapsed (compute ())

end Memo

end DataTier
