/-
**Which writes end.**

A write ends, with an answer or in the background, and is counted once, unless the backend breaks
down over it.  The store in this process breaks down when the clock cannot show the deadline of the
new entry, and the connection to a Redis server when a life span has too many seconds to be rounded
up.  A write that has broken down is neither counted nor logged.

Main definitions:

* `DataTier.Client.WritesOnce`, `DataTier.Client.BreaksDown` — the two ways of a write.

Main results:

* `DataTier.Client.writesOnce_store_iff`, `breaksDown_store` — writes to the store in this process;
* `DataTier.Client.writesOnce_link`, `breaksDown_link` — writes to a Redis server;
* `DataTier.Client.writes_end_iff_they_fit` — **all of them, with the life spans that variables can
  ask for**;
* `DataTier.Client.set_panicked_of_configured_ttl` — variables can ask for one that breaks a write
  down.
-/

import DataTier.Proofs.Cache.Client
import DataTier.Proofs.Config
import DataTier.Proofs.Store.Lookup
import DataTier.Redis.Link

set_option relaxedAutoImplicit false
set_option autoImplicit false

namespace DataTier

/-! ### Life spans that are too long -/

/-- The whole seconds of a life span fit a word after rounding up, unless they fill it and there is
more. -/
theorem RedisUrl.ttlSeconds?_eq_none_iff {ttl : Duration} :
    ttlSeconds? ttl = none ↔ ttl.secs + 1 = Word.size ∧ ttl.subsecNanos ≠ 0 := by
  have hsecs := ttl.secs_lt
  rw [ttlSeconds?]
  by_cases hwhole : ttl.subsecNanos = 0
  · simp [hwhole, hsecs]
  · simp only [if_neg hwhole, ite_eq_right_iff, reduceCtorEq, imp_false]
    omega

/-! ### Writes -/

namespace Client

variable {σ R : Type} {c : Client σ} {now : Instant} {key : String} {ttl : Duration}
  {value : Bytes} {message : String}

/-- However the bytes are written, as they are, as the JSON of a value or in the background, the
write ends and is counted once, as one that has landed or as one that has failed. -/
structure WritesOnce (c : Client σ) (now : Instant) (key : String) (ttl : Duration)
    (value : Bytes) : Prop where
  set : ∃ landed c', c.set now key ttl value = (.done landed, c') ∧
    c'.stats = c.stats.wrote landed
  setJson : ∀ {R : Type} (codec : Codec R) (r : R), codec.encode r = .ok value →
    ∃ landed c', c.setJson codec now key ttl r = (.done landed, c') ∧
      c'.stats = c.stats.wrote landed
  writeBack : ∃ landed c', c.writeBack now key ttl value = (.done (), c') ∧
    c'.stats = c.stats.wrote landed

/-- However the bytes are written, the backend breaks down, and nothing is counted or logged. -/
structure BreaksDown (c : Client σ) (now : Instant) (key : String) (ttl : Duration)
    (value : Bytes) (message : String) : Prop where
  set : ∃ c', c.set now key ttl value = (.panicked message, c') ∧ c'.stats = c.stats ∧
    c'.log = c.log
  setJson : ∀ {R : Type} (codec : Codec R) (r : R), codec.encode r = .ok value →
    ∃ c', c.setJson codec now key ttl r = (.panicked message, c') ∧ c'.stats = c.stats ∧
      c'.log = c.log
  writeBack : ∃ c', c.writeBack now key ttl value = (.panicked message, c') ∧
    c'.stats = c.stats ∧ c'.log = c.log

theorem finishSet_stats (c : Client σ) (key : String) (ttl : Duration)
    (result : Except CacheError Unit) :
    (c.finishSet key ttl result).2.stats = c.stats.wrote (c.finishSet key ttl result).1 := by
  cases result <;> rfl

theorem finishWriteBack_stats (c : Client σ) (key : String) (ttl : Duration) (length : Nat)
    (result : Except CacheError Unit) :
    (c.finishWriteBack key ttl length result).stats =
      c.stats.wrote (c.finishSet key ttl result).1 := by
  cases result <;> rfl

theorem setJson_of_encode {codec : Codec R} {r : R} (h : codec.encode r = .ok value) :
    c.setJson codec now key ttl r = c.set now key ttl value := by
  rw [setJson, h]

/-- A write whose request comes to a result ends. -/
theorem writesOnce_of_done {b : Backend σ} (hb : c.backend = some b)
    {result : Except CacheError Unit}
    (h : c.settle (b.setex now key ttl value c.state).1 = .done result) :
    c.WritesOnce now key ttl value := by
  have hset : ∃ landed c', c.set now key ttl value = (.done landed, c') ∧
      c'.stats = c.stats.wrote landed :=
    ⟨_, _, run_of_done hb h, finishSet_stats ..⟩
  refine ⟨hset, fun codec r hencode => ?_, _, _, run_of_done hb h, finishWriteBack_stats ..⟩
  rw [setJson_of_encode hencode]
  exact hset

/-- A write over whose request the backend breaks down does not. -/
theorem breaksDown_of_panicked {b : Backend σ} (hb : c.backend = some b)
    (h : c.settle (b.setex now key ttl value c.state).1 = .panicked message) :
    c.BreaksDown now key ttl value message := by
  have hset : ∃ c', c.set now key ttl value = (.panicked message, c') ∧ c'.stats = c.stats ∧
      c'.log = c.log :=
    ⟨_, run_of_panicked hb h, rfl, rfl⟩
  refine ⟨hset, fun codec r hencode => ?_, _, run_of_panicked hb h, rfl, rfl⟩
  rw [setJson_of_encode hencode]
  exact hset

/-- No write does both. -/
theorem WritesOnce.not_breaksDown (h : c.WritesOnce now key ttl value) :
    ¬ c.BreaksDown now key ttl value message := by
  intro hbroken
  obtain ⟨landed, c', hdone, -⟩ := h.set
  obtain ⟨c'', hpanicked, -⟩ := hbroken.set
  rw [hdone] at hpanicked
  exact absurd (congrArg Prod.fst hpanicked) nofun

/-! ### The store in this process -/

section Store

variable {c : Client Store}

theorem writesOnce_store (hb : c.backend = some Store.backend)
    (h : now + ttl.nanos < Instant.limit) : c.WritesOnce now key ttl value := by
  have hafter := Instant.after?_eq_some_iff.2 ⟨h, rfl⟩
  have hresult : c.settle (Store.backend.setex now key ttl value c.state).1 = .done (.ok ()) := by
    simp only [Store.backend, Store.setex_of_after? hafter, settle]
  exact writesOnce_of_done hb hresult

theorem breaksDown_store (hb : c.backend = some Store.backend)
    (h : Instant.limit ≤ now + ttl.nanos) :
    c.BreaksDown now key ttl value Instant.overflowMessage := by
  have hafter := Instant.after?_eq_none_iff.2 h
  refine breaksDown_of_panicked hb ?_
  simp only [Store.backend, Store.setex_of_not_shown hafter, settle]

theorem writesOnce_store_iff (hb : c.backend = some Store.backend) :
    c.WritesOnce now key ttl value ↔ now + ttl.nanos < Instant.limit := by
  refine ⟨fun hends => ?_, writesOnce_store hb⟩
  by_contra hlong
  exact hends.not_breaksDown (breaksDown_store hb (Nat.not_lt.1 hlong))

end Store

/-! ### A Redis server -/

section Link

variable {c : Client RedisLink}

theorem settle_send {α : Type} (c : Client σ) (l : RedisLink) (command : RedisCommand)
    (f : Wire → Except RedisFault α) :
    ∃ result, c.settle (l.send command f).1 = .done result := by
  unfold RedisLink.send
  rcases l.server.execute command with ⟨heard, server⟩
  cases heard with
  | reply w =>
      cases l.behind with
      | true => exact ⟨_, rfl⟩
      | false => exact ⟨_, rfl⟩
  | closed => exact ⟨_, rfl⟩
  | silence => exact ⟨_, rfl⟩

theorem writesOnce_link (hb : c.backend = some RedisLink.backend)
    (h : ttl.secs + 1 = Word.size → ttl.subsecNanos = 0) : c.WritesOnce now key ttl value := by
  cases hseconds : RedisUrl.ttlSeconds? ttl with
  | none =>
      obtain ⟨hfull, hmore⟩ := RedisUrl.ttlSeconds?_eq_none_iff.1 hseconds
      exact absurd (h hfull) hmore
  | some seconds =>
      obtain ⟨result, hresult⟩ :=
        settle_send c c.state (.setex key seconds value) Wire.acknowledge
      have hsetex : RedisLink.backend.setex now key ttl value c.state =
          c.state.send (.setex key seconds value) Wire.acknowledge := by
        simp only [RedisLink.backend, hseconds]
      exact writesOnce_of_done hb (hsetex ▸ hresult)

theorem breaksDown_link (hb : c.backend = some RedisLink.backend)
    (hfull : ttl.secs + 1 = Word.size) (hmore : ttl.subsecNanos ≠ 0) :
    c.BreaksDown now key ttl value RedisLink.overflowMessage := by
  have hseconds := RedisUrl.ttlSeconds?_eq_none_iff.2 ⟨hfull, hmore⟩
  refine breaksDown_of_panicked hb ?_
  simp only [RedisLink.backend, hseconds, settle]

end Link

/-! ### All of them -/

/-- Configured life spans are whole seconds. -/
theorem subsecNanos_cacheTtl (vars : Config.Variables) :
    (Config.ofVariables vars).cacheTtl.subsecNanos = 0 := by
  rw [Duration.subsecNanos, Config.nanos_cacheTtl, Nat.mul_mod_left]

/-- The variables that ask for one life span, in seconds. -/
def livingFor (n : Nat) : Config.Variables := fun name =>
  if name = "CACHE_DEFAULT_TTL" then some (String.ofList (Nat.toDigits 10 n)) else none

theorem cacheDefaultTtl_livingFor {n : Nat} (h : n < Word.size) :
    (Config.ofVariables (livingFor n)).cacheDefaultTtl = n :=
  Config.cacheDefaultTtl_of_digits h (if_pos rfl)

/-- **Writes end, and are counted once, exactly when their life spans fit.**  In every state of the
client and its backend: a write to the store in this process ends when the clock can show its
deadline, and breaks down uncounted when it cannot; a write to a Redis server ends whatever the
server does, unless the seconds of its life span fill a word and there is more, and then breaks
down uncounted.  Life spans that variables ask for are whole seconds, so with those every write to
a Redis server ends, and those to the store in this process that the clock can show. -/
theorem writes_end_iff_they_fit {c : Client Store} (hc : c.backend = some Store.backend)
    {l : Client RedisLink} (hl : l.backend = some RedisLink.backend) (now : Instant) (key : String)
    (ttl : Duration) (value : Bytes) :
    (c.WritesOnce now key ttl value ↔ now + ttl.nanos < Instant.limit) ∧
    (Instant.limit ≤ now + ttl.nanos →
      c.BreaksDown now key ttl value Instant.overflowMessage) ∧
    (l.WritesOnce now key ttl value ↔ (ttl.secs + 1 = Word.size → ttl.subsecNanos = 0)) ∧
    (ttl.secs + 1 = Word.size → ttl.subsecNanos ≠ 0 →
      l.BreaksDown now key ttl value RedisLink.overflowMessage) ∧
    ∀ vars : Config.Variables,
      (c.WritesOnce now key (Config.ofVariables vars).cacheTtl value ↔
        now + (Config.ofVariables vars).cacheDefaultTtl * nanosPerSecond < Instant.limit) ∧
      l.WritesOnce now key (Config.ofVariables vars).cacheTtl value := by
  refine ⟨writesOnce_store_iff hc, breaksDown_store hc, ⟨fun hends hfull => ?_, writesOnce_link hl⟩,
    breaksDown_link hl, fun vars => ⟨?_, ?_⟩⟩
  · by_contra hmore
    exact hends.not_breaksDown (breaksDown_link hl hfull hmore)
  · rw [writesOnce_store_iff hc, Config.nanos_cacheTtl]
  · exact writesOnce_link hl fun _ => subsecNanos_cacheTtl vars

/-- Writes for a minute, and one for as many seconds as variables may ask for and no clock
shows. -/
theorem writes_end_iff_they_fit_of_minute :
    (∃ landed c', (ofBackend Store.backend (.empty 1)).set 0 "k" (.ofSecs 60) [] =
      (.done landed, c') ∧ c'.stats = CacheStats.wrote {} landed) ∧
    (∃ landed l', (ofBackend RedisLink.backend ⟨"", {}, false⟩).set 0 "k" (.ofSecs 60) [] =
      (.done landed, l') ∧ l'.stats = CacheStats.wrote {} landed) ∧
    ∃ c', (ofBackend Store.backend (.empty 1)).set 0 "k" (.ofSecs Word.signedSize) [] =
      (.panicked Instant.overflowMessage, c') ∧ c'.stats = {} ∧ c'.log = [] := by
  have hall := writes_end_iff_they_fit (c := ofBackend Store.backend (.empty 1)) rfl
    (l := ofBackend RedisLink.backend ⟨"", {}, false⟩) rfl 0 "k"
  exact ⟨((hall (.ofSecs 60) []).1.2 (by decide)).set,
    ((hall (.ofSecs 60) []).2.2.1.2 (fun _ => by decide)).set,
    ((hall (.ofSecs Word.signedSize) []).2.1 (by decide)).set⟩

/-- **A life span that variables may ask for breaks a write down**, and nothing is counted. -/
theorem set_panicked_of_configured_ttl :
    ∃ vars : Config.Variables, (Config.ofVariables vars).cacheDefaultTtl = 9223372036854775808 ∧
      ∃ c', (ofBackend Store.backend (.empty 1)).set 0 "k" (Config.ofVariables vars).cacheTtl [] =
        (.panicked Instant.overflowMessage, c') ∧ c'.stats = {} := by
  have hasked : (Config.ofVariables (livingFor Word.signedSize)).cacheDefaultTtl =
      Word.signedSize := cacheDefaultTtl_livingFor (by decide)
  have hlong : Instant.limit ≤
      0 + (Config.ofVariables (livingFor Word.signedSize)).cacheTtl.nanos := by
    rw [Config.nanos_cacheTtl, hasked, Nat.zero_add]
    exact Nat.le_refl _
  have hbroken : (ofBackend Store.backend (.empty 1)).BreaksDown 0 "k"
      (Config.ofVariables (livingFor Word.signedSize)).cacheTtl [] Instant.overflowMessage :=
    breaksDown_store rfl hlong
  obtain ⟨c', hset, hstats, -⟩ := hbroken.set
  exact ⟨_, hasked, c', hset, hstats⟩

end Client

end DataTier
