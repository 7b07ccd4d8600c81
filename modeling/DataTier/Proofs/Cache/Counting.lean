/-
**What the counters of a cache client count.**

The operations of one client run beside each other.  One that has sent a request waits; when the
reply comes it counts and logs in one go, or, if it is a lookup, in up to three: the reply is
absorbed, what was found is read, and the lookup is counted.  Between any two of these other
operations count too.  An error is counted before the lookup that met it has ended, so while
lookups are under way the client has counted errors that are still **owed** an end.

Main definitions:

* `DataTier.CacheOp`, `DataTier.Ended` — an operation, and one that has run to its end with the
  reply and the answer;
* `DataTier.Traffic`, `Traffic.Step`, `Traffic.Run` — operations that share a client, and what they
  do;
* `DataTier.Books` — the counters have gone up by what has ended and what is owed.

Main results:

* `DataTier.Traffic.runsTo_get`, `runsTo_getJson`, `runsTo_set`, `runsTo_setJson`,
  `runsTo_writeBack`, `runsTo_delete` — operations at one moment are runs;
* `DataTier.Traffic.Balanced.step` — every step keeps the books;
* `DataTier.Traffic.exact_counts` — **when no operation is under way, each counter is the number of
  operations that have ended in its way**.
-/

import DataTier.Proofs.Cache.Client
import Mathlib.Data.Multiset.AddSub
import Mathlib.Logic.Relation

set_option relaxedAutoImplicit false
set_option autoImplicit false

namespace DataTier

/-! ### Operations -/

/-- How a write comes to be made. -/
inductive WriteWay where
  /-- Of bytes, by a caller who waits. -/
  | direct
  /-- Of a value, by a caller who waits. -/
  | json
  /-- Of bytes, in the background. -/
  | detached
  deriving DecidableEq

/-- An operation on a cache, with what it asks for. -/
inductive CacheOp (R : Type) where
  | get (key : String)
  | getJson (key : String) (codec : Codec R)
  | set (way : WriteWay) (write : Memo.Write)
  | delete (key : String)

/-- An operation that has run to its end: the reply to its request, none if it has sent none, and
the answer. -/
inductive Ended (R : Type) where
  | get (key : String) (reply : Option (Except CacheError (Option Bytes))) (answer : Option Bytes)
  | getJson (key : String) (codec : Codec R) (reply : Option (Except CacheError (Option Bytes)))
      (answer : Option R)
  | set (way : WriteWay) (write : Memo.Write) (reply : Option (Except CacheError Unit))
      (landed : Bool)
  /-- A write of a value that has no JSON, which is answered with a no. -/
  | refused (key : String) (fault : Datum.Fault)
  | delete (key : String) (reply : Option (Except CacheError Unit)) (confirmed : Bool)

/-- The bytes in the reply to a lookup. -/
def foundIn : Option (Except CacheError (Option Bytes)) → Option Bytes
  | some (.ok found) => found
  | _ => none

/-- Whether the reply to another request is a good one. -/
def confirmedBy : Option (Except CacheError Unit) → Bool
  | some (.ok ()) => true
  | _ => false

namespace Ended

variable {R : Type}

/-- A lookup that was answered with something. -/
@[simp] def isHit : Ended R → Bool
  | .get _ _ answer => answer.isSome
  | .getJson _ _ _ answer => answer.isSome
  | _ => false

/-- A lookup that was answered with nothing. -/
@[simp] def isMiss : Ended R → Bool
  | .get _ _ answer => answer.isNone
  | .getJson _ _ _ answer => answer.isNone
  | _ => false

/-- A lookup whose request failed or timed out. -/
@[simp] def lookupFailed : Ended R → Bool
  | .get _ (some (.error _)) _ => true
  | .getJson _ _ (some (.error _)) _ => true
  | _ => false

/-- A lookup that found bytes which are no value. -/
@[simp] def undecoded : Ended R → Bool
  | .getJson _ codec (some (.ok (some bs))) _ => (codec.decode? bs).isNone
  | _ => false

/-- A delete whose request failed or timed out. -/
@[simp] def deleteFailed : Ended R → Bool
  | .delete _ (some (.error _)) _ => true
  | _ => false

/-- A write that was requested and answered with a yes. -/
@[simp] def hasWritten : Ended R → Bool
  | .set _ _ (some _) landed => landed
  | _ => false

/-- A write that was requested, failed or timed out, and was answered with a no. -/
@[simp] def writeFailed : Ended R → Bool
  | .set _ _ (some (.error _)) landed => !landed
  | _ => false

/-- The answer is what the reply says, and without a request that nothing is there and nothing has
been done. -/
def Told : Ended R → Prop
  | .get _ reply answer => answer = foundIn reply
  | .getJson _ codec reply answer => answer = (foundIn reply).bind codec.decode?
  | .set _ _ reply landed => landed = confirmedBy reply
  | .refused _ _ => True
  | .delete _ reply confirmed => confirmed = confirmedBy reply

/-- A lookup that met an error has met one, and is a miss. -/
theorem Told.isMiss_of_error {e : Ended R} (h : e.Told)
    (herror : (e.lookupFailed || e.undecoded) = true) :
    e.isMiss = true ∧ (e.lookupFailed && e.undecoded) = false := by
  cases e with
  | get key reply answer =>
      simp only [Told] at h
      rcases reply with _ | (_ | _) <;> simp_all [lookupFailed, undecoded, isMiss, foundIn]
  | getJson key codec reply answer =>
      simp only [Told] at h
      rcases reply with _ | (_ | (_ | _)) <;> simp_all [lookupFailed, undecoded, isMiss, foundIn]
  | _ => exact absurd herror nofun

end Ended

/-- How far an operation has come. -/
inductive Stage (R : Type) where
  /-- It waits for the reply to its request. -/
  | waiting
  /-- It is a lookup whose reply has been absorbed. -/
  | absorbed (reply : Except CacheError (Option Bytes)) (found : Option Bytes)
  /-- It is a lookup for a value, and what it has found has been read. -/
  | decoded (reply : Except CacheError (Option Bytes)) (value : Option R)

/-- Whether an operation has counted an error. -/
def Stage.owes {R : Type} : Stage R → Bool
  | .waiting => false
  | .absorbed (.error _) _ => true
  | .absorbed (.ok _) _ => false
  | .decoded (.error _) _ => true
  | .decoded (.ok none) _ => false
  | .decoded (.ok (some _)) value => value.isNone

/-- An operation under way. -/
structure Flying (R : Type) where
  op : CacheOp R
  stage : Stage R

/-- What an operation has got hold of is what the reply says. -/
def Flying.Coherent {R : Type} (f : Flying R) : Prop :=
  match f.stage with
  | .waiting => True
  | .absorbed reply found => found = foundIn (some reply)
  | .decoded reply value =>
    ∀ key codec, f.op = .getJson key codec → value = (foundIn (some reply)).bind codec.decode?

/-- Operations that share a client. -/
structure Traffic (σ R : Type) where
  client : Client σ
  flying : Multiset (Flying R) := 0
  /-- The operations that have run to their end, the latest last. -/
  trace : List (Ended R) := []

/-- The end of an operation on a client without a backend. -/
def CacheOp.skipped {σ R : Type} (op : CacheOp R) (c : Client σ) : Ended R × Client σ :=
  match op with
  | .get key => (.get key none none, c.count .miss)
  | .getJson key codec => (.getJson key codec none none, c.count .miss)
  | .set way w => (.set way w none false, c)
  | .delete key => (.delete key none false, c)

/-- The end of a write of any kind. -/
def Client.finishWrite {σ : Type} (c : Client σ) (way : WriteWay) (w : Memo.Write)
    (result : Except CacheError Unit) : Bool × Client σ :=
  match way with
  | .detached =>
    ((c.finishSet w.key w.ttl result).1, c.finishWriteBack w.key w.ttl w.value.length result)
  | _ => c.finishSet w.key w.ttl result

theorem Client.absorb_fst {σ : Type} (c : Client σ) (key : String)
    (reply : Except CacheError (Option Bytes)) :
    (c.absorb key reply).1 = foundIn (some reply) := by
  cases reply <;> rfl

theorem Client.decodeFound_fst {σ R : Type} (c : Client σ) (codec : Codec R) (key : String)
    (found : Option Bytes) : (c.decodeFound codec key found).1 = found.bind codec.decode? := by
  cases found with
  | none => rfl
  | some bs =>
      simp only [Client.decodeFound, Option.bind_some]
      cases codec.decode? bs <;> rfl

theorem Client.finishWrite_fst {σ : Type} (c : Client σ) (way : WriteWay) (w : Memo.Write)
    (result : Except CacheError Unit) :
    (c.finishWrite way w result).1 = confirmedBy (some result) := by
  cases way <;> cases result <;> rfl

theorem Client.finishDelete_fst {σ : Type} (c : Client σ) (key : String)
    (result : Except CacheError Unit) :
    (c.finishDelete key result).1 = confirmedBy (some result) := by
  cases result <;> rfl

namespace Traffic

variable {σ R : Type}

/-- An operation begins: it sends its request, or ends at once when there is no backend. -/
def begin (s : Traffic σ R) (op : CacheOp R) : Traffic σ R :=
  if s.client.isEnabled then { s with flying := ⟨op, .waiting⟩ ::ₘ s.flying }
  else
    { s with
      client := (op.skipped s.client).2
      trace := s.trace ++ [(op.skipped s.client).1] }

/-- A write of a value begins, unless the value has no JSON. -/
def beginJson (s : Traffic σ R) (key : String) (ttl : Duration) (codec : Codec R) (r : R) :
    Traffic σ R :=
  match codec.encode r with
  | .ok bs => s.begin (.set .json ⟨key, ttl, bs⟩)
  | .error fault =>
    { s with
      client := s.client.report (.valueNotSerializable key fault.message)
      trace := s.trace ++ [.refused key fault] }

/-- **One step** of operations that share a client.  Replies are arbitrary; that of a request that
has timed out is an error.  A lookup absorbs its reply, reads what it has found if it is for a
value, and is then counted and answered. -/
inductive Step : Traffic σ R → Traffic σ R → Prop
  | begin {s} (op : CacheOp R) : Step s (s.begin op)
  | beginJson {s} (key : String) (ttl : Duration) (codec : Codec R) (r : R) :
      Step s (s.beginJson key ttl codec r)
  /-- The backend does something. -/
  | serve {s} (state : σ) : Step s { s with client := { s.client with state } }
  | absorb {c rest trace key} (reply : Except CacheError (Option Bytes)) :
      Step ⟨c, ⟨.get key, .waiting⟩ ::ₘ rest, trace⟩
        ⟨(c.absorb key reply).2, ⟨.get key, .absorbed reply (c.absorb key reply).1⟩ ::ₘ rest,
          trace⟩
  | absorbJson {c rest trace key codec} (reply : Except CacheError (Option Bytes)) :
      Step ⟨c, ⟨.getJson key codec, .waiting⟩ ::ₘ rest, trace⟩
        ⟨(c.absorb key reply).2,
          ⟨.getJson key codec, .absorbed reply (c.absorb key reply).1⟩ ::ₘ rest, trace⟩
  | decode {c rest trace key codec reply found} :
      Step ⟨c, ⟨.getJson key codec, .absorbed reply found⟩ ::ₘ rest, trace⟩
        ⟨(c.decodeFound codec key found).2,
          ⟨.getJson key codec, .decoded reply (c.decodeFound codec key found).1⟩ ::ₘ rest, trace⟩
  | answer {c rest trace key reply found} :
      Step ⟨c, ⟨.get key, .absorbed reply found⟩ ::ₘ rest, trace⟩
        ⟨c.count (·.lookedUp found.isSome), rest, trace ++ [.get key (some reply) found]⟩
  | answerJson {c rest trace key codec reply value} :
      Step ⟨c, ⟨.getJson key codec, .decoded reply value⟩ ::ₘ rest, trace⟩
        ⟨c.count (·.lookedUp value.isSome), rest,
          trace ++ [.getJson key codec (some reply) value]⟩
  | finishWrite {c rest trace way w} (result : Except CacheError Unit) :
      Step ⟨c, ⟨.set way w, .waiting⟩ ::ₘ rest, trace⟩
        ⟨(c.finishWrite way w result).2, rest,
          trace ++ [.set way w (some result) (c.finishWrite way w result).1]⟩
  | finishDelete {c rest trace key} (result : Except CacheError Unit) :
      Step ⟨c, ⟨.delete key, .waiting⟩ ::ₘ rest, trace⟩
        ⟨(c.finishDelete key result).2, rest,
          trace ++ [.delete key (some result) (c.finishDelete key result).1]⟩
  /-- An operation is given up while it waits, or the backend has broken down over it. -/
  | abandon {c op rest trace} : Step ⟨c, ⟨op, .waiting⟩ ::ₘ rest, trace⟩ ⟨c, rest, trace⟩
  /-- Reading what has been found breaks down. -/
  | breakDown {c key codec bs found rest trace} :
      Step ⟨c, ⟨.getJson key codec, .absorbed (.ok (some bs)) found⟩ ::ₘ rest, trace⟩
        ⟨c, rest, trace⟩

/-- **Any number of steps.** -/
abbrev Run : Traffic σ R → Traffic σ R → Prop := Relation.ReflTransGen Step

/-! ### Operations at one moment -/

section Moment

variable {c : Client σ} {flying : Multiset (Flying R)} {trace : List (Ended R)}

/-- What an operation at one moment comes to is what a run comes to: the operation has ended with
some reply, or the backend has broken down over it. -/
def RunsTo {α β : Type} (c : Client σ) (flying : Multiset (Flying R)) (trace : List (Ended R))
    (ended : Option (Except CacheError α) → β → Ended R) (r : Outcome β × Client σ) : Prop :=
  match r with
  | (.done answer, c') =>
    ∃ reply, Run ⟨c, flying, trace⟩ ⟨c', flying, trace ++ [ended reply answer]⟩
  | (.panicked _, c') => Run ⟨c, flying, trace⟩ ⟨c', flying, trace⟩

theorem begin_of_enabled (h : c.isEnabled = true) (op : CacheOp R) :
    begin ⟨c, flying, trace⟩ op = ⟨c, ⟨op, .waiting⟩ ::ₘ flying, trace⟩ := if_pos h

theorem begin_of_disabled (h : c.isEnabled = false) (op : CacheOp R) :
    begin ⟨c, flying, trace⟩ op =
      ⟨(op.skipped c).2, flying, trace ++ [(op.skipped c).1]⟩ := if_neg (Bool.eq_false_iff.1 h)

/-- An operation whose halves are steps is a run. -/
theorem runsTo_run {α β : Type} (op : CacheOp R) {ask : Backend σ → σ → Reply α × σ}
    {skipped : Client σ → β × Client σ} {finish : Client σ → Except CacheError α → β × Client σ}
    {ended : Option (Except CacheError α) → β → Ended R}
    (hskipped : op.skipped c = (ended none (skipped c).1, (skipped c).2))
    (hfinish : ∀ c result, Run ⟨c, ⟨op, .waiting⟩ ::ₘ flying, trace⟩
      ⟨(finish c result).2, flying, trace ++ [ended (some result) (finish c result).1]⟩) :
    RunsTo c flying trace ended (c.run ask skipped finish) := by
  cases hbackend : c.backend with
  | none =>
      rw [Client.run_of_none hbackend]
      have hdisabled : c.isEnabled = false := by rw [Client.isEnabled, hbackend]; rfl
      have hstep := Step.begin (s := ⟨c, flying, trace⟩) op
      rw [begin_of_disabled hdisabled, hskipped] at hstep
      exact ⟨none, .single hstep⟩
  | some b =>
      have henabled : c.isEnabled = true := by rw [Client.isEnabled, hbackend]; rfl
      have hbegin : Run ⟨c, flying, trace⟩ ⟨c, ⟨op, .waiting⟩ ::ₘ flying, trace⟩ :=
        begin_of_enabled henabled op ▸ .single (.begin op)
      have hsent := hbegin.tail (.serve (ask b c.state).2)
      cases hresult : c.settle (ask b c.state).1 with
      | done result =>
          rw [Client.run_of_done hbackend hresult]
          exact ⟨some result, hsent.trans (hfinish _ result)⟩
      | panicked message =>
          rw [Client.run_of_panicked hbackend hresult]
          exact hsent.tail .abandon

theorem runsTo_get (now : Instant) (key : String) :
    RunsTo c flying trace (.get key) (c.get now key) := by
  refine runsTo_run (.get key) rfl fun c result => ?_
  exact (Relation.ReflTransGen.single (.absorb result)).tail .answer

theorem runsTo_getJson (codec : Codec R) (now : Instant) (key : String) :
    RunsTo c flying trace (.getJson key codec) (c.getJson codec now key) := by
  refine runsTo_run (.getJson key codec) rfl fun c result => ?_
  exact ((Relation.ReflTransGen.single (.absorbJson result)).tail .decode).tail .answerJson

theorem runsTo_set (now : Instant) (w : Memo.Write) :
    RunsTo c flying trace (.set .direct w) (c.set now w.key w.ttl w.value) :=
  runsTo_run (.set .direct w) rfl
    fun _ result => .single (.finishWrite result)

theorem runsTo_delete (now : Instant) (key : String) :
    RunsTo c flying trace (.delete key) (c.delete now key) :=
  runsTo_run (.delete key) rfl
    fun _ result => .single (.finishDelete result)

theorem runsTo_writeBack (now : Instant) (w : Memo.Write) :
    RunsTo c flying trace (fun reply _ => .set .detached w reply (confirmedBy reply))
      (c.writeBack now w.key w.ttl w.value) := by
  refine runsTo_run (.set .detached w) rfl
    fun c result => ?_
  have hstep : Step ⟨c, ⟨.set .detached w, .waiting⟩ ::ₘ flying, trace⟩ _ := .finishWrite result
  rw [Client.finishWrite_fst] at hstep
  exact .single hstep

/-- A write of a value is one of its bytes, or is refused. -/
theorem runsTo_setJson (codec : Codec R) (now : Instant) (key : String) (ttl : Duration) (r : R) :
    (∃ bs, codec.encode r = .ok bs ∧
      RunsTo c flying trace (.set .json ⟨key, ttl, bs⟩) (c.setJson codec now key ttl r)) ∨
    ∃ fault c', codec.encode r = .error fault ∧ c.setJson codec now key ttl r = (.done false, c') ∧
      Run ⟨c, flying, trace⟩ ⟨c', flying, trace ++ [.refused key fault]⟩ := by
  rw [Client.setJson]
  cases hencode : codec.encode r with
  | ok bs =>
      refine .inl ⟨bs, rfl, ?_⟩
      exact runsTo_run (.set .json ⟨key, ttl, bs⟩) rfl
        fun _ result => .single (.finishWrite result)
  | error fault =>
      refine .inr ⟨fault, _, rfl, rfl, .single ?_⟩
      have hstep := Step.beginJson (s := ⟨c, flying, trace⟩) key ttl codec r
      rwa [beginJson, hencode] at hstep

end Moment

/-! ### The books -/

/-- The errors that have been counted for operations under way. -/
def owed (flying : Multiset (Flying R)) : Nat := flying.countP fun f => f.stage.owes = true

@[simp] theorem owed_zero : owed (0 : Multiset (Flying R)) = 0 := rfl

@[simp] theorem owed_singleton (f : Flying R) : owed {f} = if f.stage.owes then 1 else 0 := by
  rw [owed, ← Multiset.cons_zero, Multiset.countP_cons, Multiset.countP_zero, Nat.zero_add]

@[simp] theorem owed_add (a b : Multiset (Flying R)) : owed (a + b) = owed a + owed b :=
  Multiset.countP_add ..

end Traffic

/-- **The counters have gone up** by the operations that have ended, and by the errors that those
now under way owe more than those then under way did. -/
structure Books {R : Type} (before after : CacheStats) (old new : Multiset (Flying R))
    (ended : List (Ended R)) : Prop where
  hits : after.hits = before.hits + ended.countP Ended.isHit
  misses : after.misses = before.misses + ended.countP Ended.isMiss
  errors : after.errors + Traffic.owed old =
    before.errors + Traffic.owed new + (ended.countP Ended.lookupFailed +
      ended.countP Ended.undecoded + ended.countP Ended.deleteFailed)
  writes : after.writes = before.writes + ended.countP Ended.hasWritten
  writeFailures : after.writeFailures = before.writeFailures + ended.countP Ended.writeFailed

namespace Books

variable {R : Type} {a b d : CacheStats} {old new rest : Multiset (Flying R)}
  {trace ended : List (Ended R)}

/-- Books of one stretch after those of another, over which the rest stays under way. -/
theorem append (h : Books a b 0 (old + rest) trace) (h' : Books b d old new ended) :
    Books a d 0 (new + rest) (trace ++ ended) where
  hits := by rw [h'.hits, h.hits, List.countP_append, Nat.add_assoc]
  misses := by rw [h'.misses, h.misses, List.countP_append, Nat.add_assoc]
  errors := by
    have herrors := h.errors
    have herrors' := h'.errors
    simp only [Traffic.owed_add, Traffic.owed_zero, List.countP_append] at herrors ⊢
    omega
  writes := by rw [h'.writes, h.writes, List.countP_append, Nat.add_assoc]
  writeFailures := by rw [h'.writeFailures, h.writeFailures, List.countP_append, Nat.add_assoc]

end Books

namespace Traffic

variable {σ R : Type}

/-- **The invariant**: the books are kept, and what operations have got hold of and answered is
what the replies say. -/
structure Balanced (first : CacheStats) (s : Traffic σ R) : Prop where
  books : Books first s.client.stats 0 s.flying s.trace
  coherent : ∀ f ∈ s.flying, f.Coherent
  told : ∀ e ∈ s.trace, e.Told

variable {first : CacheStats} {c c' : Client σ} {rest : Multiset (Flying R)}
  {trace : List (Ended R)}

theorem coherent_zero : ∀ f ∈ (0 : Multiset (Flying R)), f.Coherent :=
  fun _ hf => absurd hf (Multiset.notMem_zero _)

/-- **The invariant is kept** when what happens to some of the operations under way keeps it. -/
theorem Balanced.next {old new : Multiset (Flying R)} {ended : List (Ended R)}
    (h : Balanced first ⟨c, old + rest, trace⟩) (hbooks : Books c.stats c'.stats old new ended)
    (hcoherent : ∀ f ∈ new, f.Coherent) (htold : ∀ e ∈ ended, e.Told) :
    Balanced first ⟨c', new + rest, trace ++ ended⟩ where
  books := h.books.append hbooks
  coherent f hf := by
    rcases Multiset.mem_add.1 hf with hf | hf
    · exact hcoherent f hf
    · exact h.coherent f (Multiset.mem_add.2 (.inr hf))
  told e he := (List.mem_append.1 he).elim (h.told e) (htold e)

/-- The same when none of them is concerned. -/
theorem Balanced.next_of_none {new : Multiset (Flying R)} {ended : List (Ended R)}
    (h : Balanced first ⟨c, rest, trace⟩) (hbooks : Books c.stats c'.stats 0 new ended)
    (hcoherent : ∀ f ∈ new, f.Coherent) (htold : ∀ e ∈ ended, e.Told) :
    Balanced first ⟨c', new + rest, trace ++ ended⟩ := by
  rw [← Multiset.zero_add rest] at h
  exact h.next hbooks hcoherent htold

/-- An operation goes on. -/
theorem Balanced.goesOn {f f' : Flying R} (h : Balanced first ⟨c, f ::ₘ rest, trace⟩)
    (hbooks : Books c.stats c'.stats {f} {f'} []) (hcoherent : f'.Coherent) :
    Balanced first ⟨c', f' ::ₘ rest, trace⟩ := by
  rw [← Multiset.singleton_add] at h ⊢
  have hnext := h.next hbooks (by simpa using hcoherent) (List.forall_mem_nil _)
  rwa [List.append_nil] at hnext

/-- An operation ends. -/
theorem Balanced.ends {f : Flying R} {e : Ended R} (h : Balanced first ⟨c, f ::ₘ rest, trace⟩)
    (hbooks : Books c.stats c'.stats {f} 0 [e]) (htold : e.Told) :
    Balanced first ⟨c', rest, trace ++ [e]⟩ := by
  rw [← Multiset.singleton_add] at h
  have hnext := h.next hbooks coherent_zero (by simpa using htold)
  rwa [Multiset.zero_add] at hnext

/-- An operation that owes nothing is given up. -/
theorem Balanced.givesUp {f : Flying R} (h : Balanced first ⟨c, f ::ₘ rest, trace⟩)
    (howed : f.stage.owes = false) : Balanced first ⟨c, rest, trace⟩ := by
  rw [← Multiset.singleton_add] at h
  have hbooks : Books c.stats c.stats {f} 0 [] := by constructor <;> simp [howed]
  have hnext := h.next hbooks coherent_zero (List.forall_mem_nil _)
  rwa [Multiset.zero_add, List.append_nil] at hnext

/-- An operation ends that has not been under way. -/
theorem Balanced.endsAtOnce {s : Traffic σ R} {e : Ended R} (h : Balanced first s)
    (hbooks : Books s.client.stats c'.stats 0 0 [e]) (htold : e.Told) :
    Balanced first ⟨c', s.flying, s.trace ++ [e]⟩ := by
  have hnext := h.next_of_none hbooks coherent_zero (by simpa using htold)
  rwa [Multiset.zero_add] at hnext

theorem Balanced.begin {s : Traffic σ R} (h : Balanced first s) (op : CacheOp R) :
    Balanced first (s.begin op) := by
  obtain ⟨c, flying, trace⟩ := s
  cases henabled : c.isEnabled with
  | true =>
      rw [begin_of_enabled henabled, ← Multiset.singleton_add]
      have hbooks : Books c.stats c.stats (0 : Multiset (Flying R)) {⟨op, .waiting⟩} [] := by
        constructor <;> simp [Stage.owes]
      have hnext := h.next_of_none hbooks (by simp [Flying.Coherent]) (List.forall_mem_nil _)
      rwa [List.append_nil] at hnext
  | false =>
      rw [begin_of_disabled henabled]
      refine h.endsAtOnce ?_ ?_
      · cases op <;> constructor <;> simp [CacheOp.skipped, Client.count, CacheStats.miss]
      · cases op <;> rfl

theorem books_absorb (c : Client σ) (op : CacheOp R) (key : String)
    (reply : Except CacheError (Option Bytes)) :
    Books c.stats (c.absorb key reply).2.stats {⟨op, .waiting⟩}
      {⟨op, .absorbed reply (c.absorb key reply).1⟩} [] := by
  cases reply with
  | ok found => constructor <;> simp [Client.absorb, Stage.owes]
  | error e =>
      constructor <;>
        simp [Client.absorb, Client.count, Client.report, CacheStats.error, Stage.owes]

theorem books_decodeFound (c : Client σ) (codec : Codec R) (key : String)
    (reply : Except CacheError (Option Bytes)) :
    Books c.stats (c.decodeFound codec key (foundIn (some reply))).2.stats
      {⟨.getJson key codec, .absorbed reply (foundIn (some reply))⟩}
      {⟨.getJson key codec, .decoded reply (c.decodeFound codec key (foundIn (some reply))).1⟩}
      [] := by
  rcases reply with e | _ | bs
  · constructor <;> simp [Client.decodeFound, foundIn, Stage.owes]
  · constructor <;> simp [Client.decodeFound, foundIn, Stage.owes]
  · cases hdecode : codec.decode? bs with
    | none =>
        constructor <;> simp [Client.decodeFound, foundIn, hdecode, Client.count, Client.report,
          CacheStats.error, Stage.owes]
    | some r => constructor <;> simp [Client.decodeFound, foundIn, hdecode, Stage.owes]

theorem books_answer (before : CacheStats) (key : String)
    (reply : Except CacheError (Option Bytes)) :
    Books before (before.lookedUp (foundIn (some reply)).isSome)
      {(⟨.get key, .absorbed reply (foundIn (some reply))⟩ : Flying R)} 0
      [.get key (some reply) (foundIn (some reply))] := by
  rcases reply with e | _ | bs <;> constructor <;>
    simp [foundIn, CacheStats.lookedUp, CacheStats.hit, CacheStats.miss, Stage.owes]

theorem books_answerJson (before : CacheStats) (key : String) (codec : Codec R)
    (reply : Except CacheError (Option Bytes)) {value : Option R}
    (hvalue : value = (foundIn (some reply)).bind codec.decode?) :
    Books before (before.lookedUp value.isSome)
      {⟨.getJson key codec, .decoded reply value⟩} 0
      [.getJson key codec (some reply) value] := by
  subst hvalue
  rcases reply with e | _ | bs
  · constructor <;> simp [foundIn, CacheStats.lookedUp, CacheStats.miss, Stage.owes]
  · constructor <;> simp [foundIn, CacheStats.lookedUp, CacheStats.miss, Stage.owes]
  · cases hdecode : codec.decode? bs <;> constructor <;>
      simp [foundIn, hdecode, CacheStats.lookedUp, CacheStats.hit, CacheStats.miss, Stage.owes]

theorem books_finishWrite (c : Client σ) (way : WriteWay) (w : Memo.Write)
    (result : Except CacheError Unit) :
    Books c.stats (c.finishWrite way w result).2.stats
      {(⟨.set way w, .waiting⟩ : Flying R)} 0
      [.set way w (some result) (c.finishWrite way w result).1] := by
  cases way <;> cases result <;> constructor <;>
    simp [Client.finishWrite, Client.finishSet, Client.finishWriteBack, Client.count,
      Client.report, CacheStats.wrote, Stage.owes]

theorem books_finishDelete (c : Client σ) (key : String) (result : Except CacheError Unit) :
    Books c.stats (c.finishDelete key result).2.stats
      {(⟨.delete key, .waiting⟩ : Flying R)} 0
      [.delete key (some result) (c.finishDelete key result).1] := by
  cases result <;> constructor <;>
    simp [Client.finishDelete, Client.count, Client.report, CacheStats.error, Stage.owes]

theorem Balanced.beginJson {s : Traffic σ R} (h : Balanced first s) (key : String)
    (ttl : Duration) (codec : Codec R) (r : R) : Balanced first (s.beginJson key ttl codec r) := by
  unfold Traffic.beginJson
  split
  · exact h.begin _
  · refine h.endsAtOnce ?_ trivial
    constructor <;> simp [Client.report]

/-- **Every step keeps the books.** -/
theorem Balanced.step {s s' : Traffic σ R} (h : Balanced first s) (hstep : Step s s') :
    Balanced first s' := by
  cases hstep with
  | begin op => exact h.begin op
  | beginJson key ttl codec r => exact h.beginJson key ttl codec r
  | serve state => exact ⟨h.books, h.coherent, h.told⟩
  | absorb reply => exact h.goesOn (books_absorb ..) (Client.absorb_fst ..)
  | absorbJson reply => exact h.goesOn (books_absorb ..) (Client.absorb_fst ..)
  | @decode c rest trace key codec reply found =>
      obtain rfl : found = foundIn (some reply) := h.coherent _ (Multiset.mem_cons_self ..)
      refine h.goesOn (books_decodeFound ..) ?_
      rintro _ _ ⟨⟩
      exact Client.decodeFound_fst ..
  | @answer c rest trace key reply found =>
      obtain rfl : found = foundIn (some reply) := h.coherent _ (Multiset.mem_cons_self ..)
      exact h.ends (books_answer ..) rfl
  | @answerJson c rest trace key codec reply value =>
      have hvalue := h.coherent _ (Multiset.mem_cons_self ..) key codec rfl
      exact h.ends (books_answerJson c.stats key codec reply hvalue) hvalue
  | finishWrite result => exact h.ends (books_finishWrite ..) (Client.finishWrite_fst ..)
  | finishDelete result => exact h.ends (books_finishDelete ..) (Client.finishDelete_fst ..)
  | abandon => exact h.givesUp rfl
  | breakDown => exact h.givesUp rfl

theorem balanced_start (c : Client σ) : Balanced (R := R) c.stats ⟨c, 0, []⟩ where
  books := by constructor <;> simp
  coherent := coherent_zero
  told := List.forall_mem_nil _

theorem Balanced.run {s s' : Traffic σ R} (h : Balanced first s) (hrun : Run s s') :
    Balanced first s' := by
  induction hrun with
  | refl => exact h
  | tail _ hstep ih => exact ih.step hstep

/-- **When no operation is under way, each counter is the number of operations that have ended in
its way.**  However the operations on one client and their halves interleave, and whatever replies
come: hits and misses are the lookups answered with something and with nothing, errors are the
failed lookups, the lookups for a value that found none in the bytes, and the failed deletes, and
writes and failed writes are the requested ones by their answers.  Answers are what the replies
say, so a lookup that met an error has met one and is a miss.  Writes without a backend and of
values that have no JSON change no counter. -/
theorem exact_counts {c : Client σ} (hfresh : c.stats = {}) {s : Traffic σ R}
    (hrun : Run ⟨c, 0, []⟩ s) (hquiet : s.flying = 0) :
    (s.client.stats.hits = s.trace.countP Ended.isHit ∧
      s.client.stats.misses = s.trace.countP Ended.isMiss ∧
      s.client.stats.errors = s.trace.countP Ended.lookupFailed +
        s.trace.countP Ended.undecoded + s.trace.countP Ended.deleteFailed ∧
      s.client.stats.writes = s.trace.countP Ended.hasWritten ∧
      s.client.stats.writeFailures = s.trace.countP Ended.writeFailed) ∧
    (∀ e ∈ s.trace, e.Told ∧ ((e.lookupFailed || e.undecoded) = true →
      e.isMiss = true ∧ (e.lookupFailed && e.undecoded) = false)) ∧
    (∀ way w, s.client.isEnabled = false →
      (s.begin (.set way w)).client.stats = s.client.stats) ∧
    ∀ key ttl (codec : Codec R) r fault, codec.encode r = .error fault →
      (s.beginJson key ttl codec r).client.stats = s.client.stats := by
  have h := (balanced_start c).run hrun
  refine ⟨⟨?_, ?_, ?_, ?_, ?_⟩, fun e he => ⟨h.told e he, (h.told e he).isMiss_of_error⟩, ?_, ?_⟩
  · simpa [hfresh] using h.books.hits
  · simpa [hfresh] using h.books.misses
  · simpa [hfresh, hquiet] using h.books.errors
  · simpa [hfresh] using h.books.writes
  · simpa [hfresh] using h.books.writeFailures
  · intro way w hdisabled
    rw [begin_of_disabled hdisabled]
    rfl
  · intro key ttl codec r fault hencode
    rw [Traffic.beginJson, hencode]
    rfl

/-- A write in the background and two lookups that cross, one that times out and one that finds no
value in the bytes. -/
theorem exists_crossed_lookups {c : Client σ} (henabled : c.isEnabled = true) (w : Memo.Write) :
    ∃ s : Traffic σ Json, Run ⟨c, 0, []⟩ s ∧ s.flying = 0 ∧
      s.trace = [.getJson w.key .value (some (.ok (some []))) none,
        .get w.key (some (.error (.timeout c.opTimeout))) none,
        .set .detached w (some (.ok ())) true] := by
  have hbegin (flying : Multiset (Flying Json)) (op : CacheOp Json) :
      Step ⟨c, flying, []⟩ ⟨c, ⟨op, .waiting⟩ ::ₘ flying, []⟩ :=
    begin_of_enabled henabled op ▸ .begin op
  have hwrite := Relation.ReflTransGen.single (hbegin 0 (.set .detached w))
  have hall := (hwrite.tail (hbegin _ (.getJson w.key .value))).tail (hbegin _ (.get w.key))
  -- The lookup that times out owes its error while the other one is read and counted.
  have hfailed := hall.tail (.absorb (.error (.timeout c.opTimeout)))
  rw [Multiset.cons_swap] at hfailed
  have hread := (hfailed.tail (.absorbJson (.ok (some [])))).tail .decode
  have hanswered := (hread.tail .answerJson).tail .answer
  exact ⟨_, hanswered.tail (.finishWrite (.ok ())), rfl, rfl⟩

theorem exact_counts_of_crossed_lookups :
    ∃ s : Traffic Store Json, Run ⟨.ofBackend Store.backend (.empty 1), 0, []⟩ s ∧ s.flying = 0 ∧
      s.client.stats.misses = 2 ∧ s.client.stats.errors = 2 ∧ s.client.stats.writes = 1 := by
  obtain ⟨s, hrun, hquiet, htrace⟩ :=
    exists_crossed_lookups (c := .ofBackend Store.backend (.empty 1)) rfl ⟨"k", .ofSecs 60, []⟩
  obtain ⟨⟨-, hmisses, herrors, hwrites, -⟩, -⟩ := exact_counts rfl hrun hquiet
  refine ⟨s, hrun, hquiet, hmisses.trans ?_, herrors.trans ?_, hwrites.trans ?_⟩
  · rw [htrace]
    rfl
  · rw [htrace]
    rfl
  · rw [htrace]
    rfl

end Traffic

end DataTier
