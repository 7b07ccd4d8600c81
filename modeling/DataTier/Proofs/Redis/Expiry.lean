/-
**How long a Redis server keeps what the store in this process keeps.**

A life span is sent in whole seconds, rounded up and at least one, and the server keeps a key for
that many seconds.  So a server that is sent every request of the store shows all that the store
shows, and shows it less than a second longer, or exactly a second longer when the life span is
zero.

The server is any that is told the time and keeps its keys as it should.  It executes what the
server at the other end of the connection has received, at the moment of the request.

Main definitions:

* `DataTier.RedisUrl.RoundsUp` — the seconds that a life span is sent in;
* `DataTier.TimedServer`, `DataTier.TimedServer.KeepsForSeconds` — servers that are told the time,
  and those that keep a key for its seconds;
* `DataTier.TimedServer.run` — a server that executes what a connection sends;
* `DataTier.History.WrittenLast` — the last write of a key.

Main results:

* `DataTier.RedisUrl.roundsUp_of_ttlSeconds?`, `RedisUrl.RoundsUp.le_of_le` — rounding, and that it
  keeps the order;
* `DataTier.TimedServer.KeepsForSeconds.shows_run_iff` — **what a server shows after a history**;
* `DataTier.TimedServer.backends_agree_within_a_second` — **the comparison with the store**.
-/

import DataTier.Proofs.Cache.Writes
import DataTier.Proofs.Store.Refinement

set_option relaxedAutoImplicit false
set_option autoImplicit false

namespace DataTier

/-! ### Life spans in whole seconds -/

namespace RedisUrl

/-- Whole seconds that a life span is rounded up to: at least one, and no more than are needed to
cover it. -/
structure RoundsUp (ttl : Duration) (seconds : Nat) : Prop where
  pos : 0 < seconds
  lt_size : seconds < Word.size
  covers : ttl.nanos ≤ seconds * nanosPerSecond
  lt_of_pos : 0 < ttl.nanos → seconds * nanosPerSecond < ttl.nanos + nanosPerSecond
  of_zero : ttl.nanos = 0 → seconds * nanosPerSecond = ttl.nanos + nanosPerSecond

variable {ttl ttl' : Duration} {seconds seconds' : Nat}

theorem roundsUp_of_ttlSeconds? (h : ttlSeconds? ttl = some seconds) : RoundsUp ttl seconds := by
  have hnanos := ttl.nanos_eq
  have hsub : ttl.subsecNanos < nanosPerSecond := Nat.mod_lt _ (by decide)
  rw [ttlSeconds?] at h
  simp only [Option.ite_none_right_eq_some, Option.some.injEq] at h
  obtain ⟨hfits, rfl⟩ := h
  by_cases hwhole : ttl.subsecNanos = 0
  · rw [if_pos hwhole] at *
    constructor <;> simp only [nanosPerSecond, Word.size] at * <;> omega
  · rw [if_neg hwhole] at *
    constructor <;> simp only [nanosPerSecond, Word.size] at * <;> omega

/-- Unless its whole seconds fill a word, a life span is rounded up without overflow. -/
theorem exists_ttlSeconds? (h : ttl.secs + 1 < Word.size) :
    ∃ seconds, ttlSeconds? ttl = some seconds := by
  rw [← Option.ne_none_iff_exists']
  intro hnone
  obtain ⟨hfull, -⟩ := ttlSeconds?_eq_none_iff.1 hnone
  omega

/-- A life span whose end the clock can show has few enough seconds. -/
theorem secs_lt_of_after? {now : Instant} (h : (now.after? ttl).isSome) :
    ttl.secs + 1 < Word.size := by
  obtain ⟨deadline, hdeadline⟩ := Option.isSome_iff_exists.1 h
  have hlt : ttl.nanos < Instant.limit :=
    Nat.lt_of_le_of_lt (Nat.le_add_left ..) (Instant.after?_eq_some_iff.1 hdeadline).1
  have hnanos := ttl.nanos_eq
  simp only [Instant.limit, Word.signedSize, Word.size, nanosPerSecond] at *
  omega

/-- **A longer life span is sent in no fewer seconds.** -/
theorem RoundsUp.le_of_le (h : RoundsUp ttl seconds) (h' : RoundsUp ttl' seconds')
    (hle : ttl.nanos ≤ ttl'.nanos) : seconds ≤ seconds' := by
  have hpos := h'.pos
  have hcovers := h'.covers
  simp only [nanosPerSecond] at hcovers
  rcases Nat.eq_zero_or_pos ttl.nanos with hzero | hsome
  · have hone := h.of_zero hzero
    simp only [nanosPerSecond] at hone
    omega
  · have hlt := h.lt_of_pos hsome
    simp only [nanosPerSecond] at hlt
    omega

theorem RoundsUp.unique (h : RoundsUp ttl seconds) (h' : RoundsUp ttl seconds') :
    seconds = seconds' :=
  Nat.le_antisymm (h.le_of_le h' (Nat.le_refl _)) (h'.le_of_le h (Nat.le_refl _))

/-- The seconds that a life span is sent in are those that it is rounded up to. -/
theorem ttlSeconds?_eq_some_iff : ttlSeconds? ttl = some seconds ↔ RoundsUp ttl seconds := by
  refine ⟨roundsUp_of_ttlSeconds?, fun h => ?_⟩
  cases hseconds : ttlSeconds? ttl with
  | none =>
      obtain ⟨hfull, hmore⟩ := ttlSeconds?_eq_none_iff.1 hseconds
      have hnanos := ttl.nanos_eq
      have hcovers := h.covers
      have hfits := h.lt_size
      simp only [nanosPerSecond, Word.size] at *
      omega
  | some seconds' => rw [(roundsUp_of_ttlSeconds? hseconds).unique h]

end RedisUrl

/-! ### What a connection sends -/

/-- The key that a command writes or removes. -/
def RedisCommand.writes? : RedisCommand → Option String
  | .setex key _ _ => some key
  | .del key => some key
  | _ => none

/-- The command that a request takes, none if it is one for the store in this process only or the
seconds of its life span overflow. -/
def StoreRequest.command? : StoreRequest → Option RedisCommand
  | .setex key ttl value => (RedisUrl.ttlSeconds? ttl).map fun seconds => .setex key seconds value
  | .get key => some (.get key)
  | .delete key => some (.del key)
  | .contains _ => none
  | .purge => none

theorem RedisCommand.writes?_of_command? {r : StoreRequest} {command : RedisCommand}
    (h : r.command? = some command) : command.writes? = r.writes? := by
  cases r with
  | setex key ttl value =>
      obtain ⟨seconds, -, rfl⟩ := Option.map_eq_some_iff.1 h
      rfl
  | get key =>
      obtain rfl := Option.some.inj h
      rfl
  | delete key =>
      obtain rfl := Option.some.inj h
      rfl
  | contains key => cases h
  | purge => cases h

namespace RedisServer

theorem commands_obey (s : RedisServer) (command : RedisCommand) :
    (s.obey command).2.commands = s.commands := by
  cases command with
  | get key =>
      rw [obey]
      split <;> rfl
  | _ => rfl

/-- Whatever a server does with a command, it has received it. -/
theorem commands_execute (s : RedisServer) (command : RedisCommand) :
    (s.execute command).2.commands = s.commands ++ [command] := by
  unfold execute
  simp only
  split
  · exact commands_obey _ command
  · rfl
  · rfl
  · split <;> rfl

end RedisServer

namespace RedisLink

/-- The connection after one request.  What only the store in this process is asked is not sent. -/
def serve (l : RedisLink) (now : Instant) : StoreRequest → RedisLink
  | .setex key ttl value => (backend.setex now key ttl value l).2
  | .get key => (backend.get now key l).2
  | .delete key => (backend.delete now key l).2
  | .contains _ => l
  | .purge => l

/-- The commands that the server receives for a request. -/
def sent (l : RedisLink) (now : Instant) (r : StoreRequest) : List RedisCommand :=
  (l.serve now r).server.commands.drop l.server.commands.length

theorem commands_send {α : Type} (l : RedisLink) (command : RedisCommand)
    (f : Wire → Except RedisFault α) :
    (l.send command f).2.server.commands = l.server.commands ++ [command] := by
  have hexecute := l.server.commands_execute command
  unfold send
  simp only
  split
  · exact hexecute
  · exact hexecute
  · split <;> exact hexecute

/-- A command that is sent breaks nothing down. -/
theorem send_ne_panicked {α : Type} (l : RedisLink) (command : RedisCommand)
    (f : Wire → Except RedisFault α) (message : String) :
    (l.send command f).1 ≠ .panicked message := by
  unfold send
  simp only
  split
  · nofun
  · nofun
  · split <;> nofun

theorem commands_serve (l : RedisLink) (now : Instant) (r : StoreRequest) :
    (l.serve now r).server.commands = l.server.commands ++ r.command?.toList := by
  cases r with
  | setex key ttl value =>
      rw [serve, StoreRequest.command?]
      cases hseconds : RedisUrl.ttlSeconds? ttl with
      | some seconds =>
          simp only [backend, hseconds]
          exact commands_send ..
      | none =>
          simp only [backend, hseconds]
          exact (List.append_nil _).symm
  | get key => exact commands_send ..
  | delete key => exact commands_send ..
  | contains key => exact (List.append_nil _).symm
  | purge => exact (List.append_nil _).symm

/-- A connection sends the command that the request takes. -/
theorem sent_eq (l : RedisLink) (now : Instant) (r : StoreRequest) :
    l.sent now r = r.command?.toList := by
  rw [sent, commands_serve, List.drop_left]

end RedisLink

/-! ### Last writes -/

namespace History

variable {h : History} {x : Instant × StoreRequest} {key : String} {time : Instant}
  {ttl : Duration} {value : Bytes}

/-- What a history has written to a key last, and not deleted since. -/
def WrittenLast (h : History) (key : String) (time : Instant) (ttl : Duration) (value : Bytes) :
    Prop :=
  ∃ before after, h = before ++ (time, .setex key ttl value) :: after ∧
    ∀ x ∈ after, x.2.writes? ≠ some key

theorem not_writtenLast_nil : ¬ WrittenLast [] key time ttl value := by
  rintro ⟨before, after, hsplit, -⟩
  simp at hsplit

theorem writtenLast_concat_of_not_writes (hx : x.2.writes? ≠ some key) :
    WrittenLast (h ++ [x]) key time ttl value ↔ WrittenLast h key time ttl value := by
  constructor
  · rintro ⟨before, after, hsplit, hafter⟩
    rcases List.eq_nil_or_concat' after with rfl | ⟨after, y, rfl⟩
    · obtain ⟨-, rfl⟩ := List.append_singleton_inj.1 hsplit
      exact absurd rfl hx
    · rw [← List.cons_append, ← List.append_assoc] at hsplit
      obtain ⟨rfl, -⟩ := List.append_singleton_inj.1 hsplit
      exact ⟨before, after, rfl, fun z hz => hafter z (List.mem_append_left _ hz)⟩
  · rintro ⟨before, after, rfl, hafter⟩
    refine ⟨before, after ++ [x], by simp, fun y hy => ?_⟩
    rcases List.mem_append.1 hy with hy | hy
    · exact hafter y hy
    · exact List.mem_singleton.1 hy ▸ hx

theorem writtenLast_concat_of_writes (hx : x.2.writes? = some key) :
    WrittenLast (h ++ [x]) key time ttl value ↔ x = (time, .setex key ttl value) := by
  constructor
  · rintro ⟨before, after, hsplit, hafter⟩
    rcases List.eq_nil_or_concat' after with rfl | ⟨after, y, rfl⟩
    · exact (List.append_singleton_inj.1 hsplit).2
    · rw [← List.cons_append, ← List.append_assoc] at hsplit
      obtain ⟨-, rfl⟩ := List.append_singleton_inj.1 hsplit
      exact absurd hx (hafter x (by simp))
  · rintro rfl
    exact ⟨h, [], rfl, by simp⟩

end History

/-! ### Servers that are told the time -/

/-- A server that is told when a command comes: its reply, and what becomes of it. -/
structure TimedServer (σ : Type) where
  /-- A command at a moment. -/
  execute : Instant → RedisCommand → σ → Wire × σ

namespace TimedServer

variable {σ : Type} {server : TimedServer σ} {fresh s : σ} {l : RedisLink} {h : History}
  {now t : Instant} {key : String} {ttl : Duration} {value : Bytes} {seconds : Nat}

/-- The server after a command. -/
def after (server : TimedServer σ) (now : Instant) (command : RedisCommand) (s : σ) : σ :=
  (server.execute now command s).2

/-- The reply to a lookup. -/
def reply (server : TimedServer σ) (t : Instant) (key : String) (s : σ) : Wire :=
  (server.execute t (.get key) s).1

/-- Whether the reply to a lookup is a value. -/
def Shows (server : TimedServer σ) (t : Instant) (key : String) (value : Bytes) (s : σ) : Prop :=
  Wire.bytes (server.reply t key s) = .ok (some value)

/-- A server that keeps a key for exactly the seconds it is set for, from the moment it is set, if
it is not set again or removed, and that does nothing else to its keys. -/
structure KeepsForSeconds (server : TimedServer σ) (fresh : σ) : Prop where
  /-- A new server has no keys. -/
  reply_fresh : ∀ t key, server.reply t key fresh = .nil
  /-- A key that is set is there until its seconds are over. -/
  reply_setex : ∀ s now key seconds value t, 0 < seconds → now ≤ t →
    server.reply t key (server.after now (.setex key seconds value) s) =
      if t < now + seconds * nanosPerSecond then .bulk value else .nil
  /-- A key that is removed is not there. -/
  reply_del : ∀ s now key t, now ≤ t → server.reply t key (server.after now (.del key) s) = .nil
  /-- A command leaves a key alone that it does not write to. -/
  reply_of_not_writes : ∀ s now command key t, command.writes? ≠ some key → now ≤ t →
    server.reply t key (server.after now command s) = server.reply t key s

/-- A connection and its server after one request: the server executes, at that moment, what the
connection sends. -/
def serve (server : TimedServer σ) (x : RedisLink × σ) (now : Instant) (r : StoreRequest) :
    RedisLink × σ :=
  (x.1.serve now r, (x.1.sent now r).foldl (fun s command => server.after now command s) x.2)

/-- A connection and its server after a history. -/
def run (server : TimedServer σ) (x : RedisLink × σ) (h : History) : RedisLink × σ :=
  h.foldl (fun x y => server.serve x y.1 y.2) x

/-- A connection that hears the reply finds the value that is shown. -/
theorem get_answered_iff_shows (hbehind : l.behind = false)
    (hheard : (l.server.execute (.get key)).1 = .reply (server.reply t key s)) :
    (RedisLink.backend.get now key l).1 = .answered (.ok (some value)) ↔
      server.Shows t key value s := by
  have hget : (RedisLink.backend.get now key l).1 =
      .answered ((Wire.bytes (server.reply t key s)).mapError RedisFault.toCacheError) := by
    show (l.send (.get key) Wire.bytes).1 = _
    rw [RedisLink.send]
    simp only [hheard, hbehind, Bool.false_eq_true, if_false]
  rw [hget, Shows]
  cases Wire.bytes (server.reply t key s) <;> simp [Except.mapError]

theorem serve_of_command? {r : StoreRequest} {command : RedisCommand}
    (h : r.command? = some command) :
    (server.serve (l, s) now r).2 = server.after now command s := by
  rw [serve, RedisLink.sent_eq, h]
  rfl

theorem serve_of_none {r : StoreRequest} (h : r.command? = none) :
    (server.serve (l, s) now r).2 = s := by
  rw [serve, RedisLink.sent_eq, h]
  rfl

@[simp] theorem run_nil (x : RedisLink × σ) : server.run x [] = x := rfl

@[simp] theorem run_concat (x : RedisLink × σ) (h : History) (y : Instant × StoreRequest) :
    server.run x (h ++ [y]) = server.serve (server.run x h) y.1 y.2 :=
  List.foldl_concat ..

namespace KeepsForSeconds

variable {x : RedisLink × σ} {r : StoreRequest}

/-- A request that does not write to a key changes nothing about it. -/
theorem reply_serve_of_not_writes (hserver : server.KeepsForSeconds fresh)
    (hr : r.writes? ≠ some key) (ht : now ≤ t) :
    server.reply t key (server.serve x now r).2 = server.reply t key x.2 := by
  cases hcommand : r.command? with
  | none => rw [serve_of_none hcommand]
  | some command =>
      rw [serve_of_command? hcommand]
      refine hserver.reply_of_not_writes _ _ _ _ _ ?_ ht
      rw [RedisCommand.writes?_of_command? hcommand]
      exact hr

theorem reply_serve_setex (hserver : server.KeepsForSeconds fresh)
    (hseconds : RedisUrl.ttlSeconds? ttl = some seconds) (ht : now ≤ t) :
    server.reply t key (server.serve x now (.setex key ttl value)).2 =
      if t < now + seconds * nanosPerSecond then .bulk value else .nil := by
  have hcommand : StoreRequest.command? (.setex key ttl value) =
      some (.setex key seconds value) := by
    rw [StoreRequest.command?, hseconds, Option.map_some]
  rw [serve_of_command? hcommand]
  exact hserver.reply_setex _ _ _ _ _ _ (RedisUrl.roundsUp_of_ttlSeconds? hseconds).pos ht

theorem reply_serve_delete (hserver : server.KeepsForSeconds fresh) (ht : now ≤ t) :
    server.reply t key (server.serve x now (.delete key)).2 = .nil := by
  rw [serve_of_command? rfl]
  exact hserver.reply_del _ _ _ _ ht

/-- A value is shown until the seconds that it was sent with are over. -/
theorem shows_serve_setex_iff (hserver : server.KeepsForSeconds fresh)
    (hseconds : RedisUrl.ttlSeconds? ttl = some seconds) (ht : now ≤ t) {found : Bytes} :
    server.Shows t key found (server.serve x now (.setex key ttl value)).2 ↔
      t < now + seconds * nanosPerSecond ∧ value = found := by
  rw [Shows, hserver.reply_serve_setex hseconds ht]
  split
  · next hlt => simp [Wire.bytes, hlt]
  · next hlt => simp [Wire.bytes, hlt]

/-- **What a server shows after a history**: a key shows a value exactly when its last write stored
it, it has not been deleted since, and the seconds that it was sent with are not over. -/
theorem shows_run_iff (hserver : server.KeepsForSeconds fresh) (hh : h.Shown)
    (ht : ∀ x ∈ h, x.1 ≤ t) :
    server.Shows t key value (server.run (l, fresh) h).2 ↔
      ∃ time ttl seconds, h.WrittenLast key time ttl value ∧
        RedisUrl.ttlSeconds? ttl = some seconds ∧ t < time + seconds * nanosPerSecond := by
  induction h using List.reverseRecOn with
  | nil =>
      rw [run_nil, Shows, hserver.reply_fresh]
      refine ⟨nofun, ?_⟩
      rintro ⟨time, ttl, seconds, hlast, -⟩
      exact absurd hlast History.not_writtenLast_nil
  | append_singleton h x ih =>
      obtain ⟨hh, hx⟩ := hh.of_append
      have hnow : x.1 ≤ t := ht x (by simp)
      rw [run_concat]
      by_cases hwrites : x.2.writes? = some key
      · simp only [History.writtenLast_concat_of_writes hwrites]
        obtain ⟨now, r⟩ := x
        cases r with
        | setex k ttl stored =>
            obtain rfl : k = key := Option.some.inj hwrites
            obtain ⟨seconds, hseconds⟩ := RedisUrl.exists_ttlSeconds?
              (RedisUrl.secs_lt_of_after? (hx now k ttl stored List.mem_cons_self))
            rw [hserver.shows_serve_setex_iff hseconds hnow]
            constructor
            · rintro ⟨hlt, rfl⟩
              exact ⟨now, ttl, seconds, rfl, hseconds, hlt⟩
            · rintro ⟨time, ttl', seconds', heq, hseconds', hlt⟩
              cases heq
              obtain rfl := Option.some.inj (hseconds.symm.trans hseconds')
              exact ⟨hlt, rfl⟩
        | delete k =>
            obtain rfl : k = key := Option.some.inj hwrites
            rw [Shows, hserver.reply_serve_delete hnow]
            refine ⟨nofun, ?_⟩
            rintro ⟨time, ttl, seconds, heq, -⟩
            cases heq
        | get k => cases hwrites
        | contains k => cases hwrites
        | purge => cases hwrites
      · rw [Shows, hserver.reply_serve_of_not_writes hwrites hnow]
        simp only [History.writtenLast_concat_of_not_writes hwrites]
        exact ih hh fun y hy => ht y (List.mem_append_left _ hy)

/-- What the store in this process shows, a server shows that is sent the same requests. -/
theorem shows_run_of_store (hserver : server.KeepsForSeconds fresh) (hh : h.Shown)
    (ht : ∀ x ∈ h, x.1 ≤ t) {capacity : Nat}
    (hvalue : (((Store.empty capacity).run h).get t key).1 = some value) :
    server.Shows t key value (server.run (l, fresh) h).2 := by
  have hmap := Store.get_run_sound capacity hh hvalue
  obtain ⟨before, time, ttl, after, hsplit, hafter, hlt⟩ := TtlMap.get_run_eq_some_iff.1 hmap
  have hmem : (time, StoreRequest.setex key ttl value) ∈ h := by simp [hsplit]
  obtain ⟨seconds, hseconds⟩ := RedisUrl.exists_ttlSeconds?
    (RedisUrl.secs_lt_of_after? (hh time key ttl value hmem))
  have hcovers := (RedisUrl.roundsUp_of_ttlSeconds? hseconds).covers
  exact (hserver.shows_run_iff hh ht).2 ⟨time, ttl, seconds, ⟨before, after, hsplit, hafter⟩,
    hseconds, Nat.lt_of_lt_of_le hlt (Nat.add_le_add_left hcovers time)⟩

/-- A longer life span is not over earlier. -/
theorem shows_serve_setex_of_le (hserver : server.KeepsForSeconds fresh) {ttl' : Duration}
    (hle : ttl.nanos ≤ ttl'.nanos) (hfits : ttl'.secs + 1 < Word.size) (ht : now ≤ t)
    (hvalue : server.Shows t key value (server.serve x now (.setex key ttl value)).2) :
    server.Shows t key value (server.serve x now (.setex key ttl' value)).2 := by
  have hsecs : ttl.secs ≤ ttl'.secs := Nat.div_le_div_right hle
  have hfits' : ttl.secs + 1 < Word.size := by omega
  obtain ⟨seconds, hseconds⟩ := RedisUrl.exists_ttlSeconds? hfits'
  obtain ⟨seconds', hseconds'⟩ := RedisUrl.exists_ttlSeconds? hfits
  have hmono : seconds ≤ seconds' := (RedisUrl.roundsUp_of_ttlSeconds? hseconds).le_of_le
    (RedisUrl.roundsUp_of_ttlSeconds? hseconds') hle
  have hlt := ((hserver.shows_serve_setex_iff hseconds ht).1 hvalue).1
  refine (hserver.shows_serve_setex_iff hseconds' ht).2 ⟨Nat.lt_of_lt_of_le hlt ?_, rfl⟩
  exact Nat.add_le_add_left (Nat.mul_le_mul_right _ hmono) now

end KeepsForSeconds

end TimedServer

/-! ### The store in this process -/

namespace Store

variable {s : Store} {now t : Instant} {key : String} {ttl ttl' : Duration} {value found : Bytes}

theorem get_setex_eq_some_iff (h : (now.after? ttl).isSome) :
    ((s.setex now key ttl value).2.get t key).1 = some found ↔
      t < now + ttl.nanos ∧ value = found := by
  obtain ⟨deadline, hdeadline⟩ := Option.isSome_iff_exists.1 h
  obtain ⟨-, rfl⟩ := Instant.after?_eq_some_iff.1 hdeadline
  rw [setex_of_after? hdeadline, get_fst, find?_put, if_pos rfl, Option.bind_some,
    Entry.valueAt_eq_some_iff]

/-- A longer life span is not over earlier. -/
theorem get_setex_of_le (hle : ttl.nanos ≤ ttl'.nanos) (hshown : (now.after? ttl').isSome)
    (hvalue : ((s.setex now key ttl value).2.get t key).1 = some value) :
    ((s.setex now key ttl' value).2.get t key).1 = some value := by
  have hshown' : (now.after? ttl).isSome := by
    obtain ⟨deadline, hdeadline⟩ := Option.isSome_iff_exists.1 hshown
    have hlimit := (Instant.after?_eq_some_iff.1 hdeadline).1
    exact Option.isSome_iff_exists.2 ⟨_, Instant.after?_eq_some_iff.2
      ⟨Nat.lt_of_le_of_lt (Nat.add_le_add_left hle now) hlimit, rfl⟩⟩
  have hlt := ((get_setex_eq_some_iff hshown').1 hvalue).1
  refine (get_setex_eq_some_iff hshown).2 ⟨Nat.lt_of_lt_of_le hlt ?_, rfl⟩
  exact Nat.add_le_add_left hle now

end Store

/-! ### Both of them -/

namespace TimedServer

variable {σ : Type} {server : TimedServer σ} {fresh : σ}

/-- **The backends agree on life spans to within a second.**  A life span whose whole seconds do not
fill a word is sent without overflow, in as many whole seconds as cover it: at least one, less than
a second longer than the life span if that is not zero, and exactly a second longer if it is.  A
value that is written is readable from the store in this process exactly until its life span is
over, if the clock can show that moment, and from a server that keeps its keys for their seconds
exactly until those are over; and a longer life span takes no fewer seconds, so with it the value is
readable as long from both.  After every history of requests at times up to now whose deadlines the
clock can show, what is readable from the store, whatever its capacity, is readable from the server,
which shows the last write of a key until its seconds are over and nothing else.  A lookup over a
connection that hears the reply of such a server gives a value exactly when the server shows it. -/
theorem backends_agree_within_a_second (hserver : server.KeepsForSeconds fresh) :
    (∀ ttl : Duration, ttl.secs + 1 < Word.size →
      ∃ seconds, RedisUrl.RoundsUp ttl seconds ∧ ∀ (l : RedisLink) now key value,
        l.sent now (.setex key ttl value) = [.setex key seconds value] ∧
        ∀ message, (RedisLink.backend.setex now key ttl value l).1 ≠ .panicked message) ∧
    (∀ ttl seconds now key value t, RedisUrl.RoundsUp ttl seconds → now ≤ t →
      (∀ s : Store, (Instant.after? now ttl).isSome →
        (((s.setex now key ttl value).2.get t key).1 = some value ↔ t < now + ttl.nanos)) ∧
      ∀ x, server.Shows t key value (server.serve x now (.setex key ttl value)).2 ↔
        t < now + seconds * nanosPerSecond) ∧
    (∀ ttl ttl' : Duration, ttl.nanos ≤ ttl'.nanos →
      (∀ seconds seconds', RedisUrl.RoundsUp ttl seconds → RedisUrl.RoundsUp ttl' seconds' →
        seconds ≤ seconds') ∧
      ∀ now key value t,
        (∀ s : Store, (Instant.after? now ttl').isSome →
          ((s.setex now key ttl value).2.get t key).1 = some value →
          ((s.setex now key ttl' value).2.get t key).1 = some value) ∧
        ∀ x, ttl'.secs + 1 < Word.size → now ≤ t →
          server.Shows t key value (server.serve x now (.setex key ttl value)).2 →
          server.Shows t key value (server.serve x now (.setex key ttl' value)).2) ∧
    (∀ (capacity : Nat) (l : RedisLink) (h : History), h.Shown → ∀ t, (∀ x ∈ h, x.1 ≤ t) →
      ∀ key value,
        ((((Store.empty capacity).run h).get t key).1 = some value →
          server.Shows t key value (server.run (l, fresh) h).2) ∧
        (server.Shows t key value (server.run (l, fresh) h).2 ↔
          ∃ time ttl seconds, h.WrittenLast key time ttl value ∧
            RedisUrl.RoundsUp ttl seconds ∧ t < time + seconds * nanosPerSecond)) ∧
    ∀ (l : RedisLink) s t key value, l.behind = false →
      (l.server.execute (.get key)).1 = .reply (server.reply t key s) →
      ((RedisLink.backend.get t key l).1 = .answered (.ok (some value)) ↔
        server.Shows t key value s) := by
  refine ⟨fun ttl hfits => ?_, fun ttl seconds now key value t hrounds ht => ⟨?_, ?_⟩,
    fun ttl ttl' hle => ⟨?_, ?_⟩, fun capacity l h hshown t ht key value => ⟨?_, ?_⟩,
    fun l s t key value hbehind hheard => get_answered_iff_shows hbehind hheard⟩
  · obtain ⟨seconds, hseconds⟩ := RedisUrl.exists_ttlSeconds? hfits
    refine ⟨seconds, RedisUrl.roundsUp_of_ttlSeconds? hseconds, fun l now key value => ⟨?_, ?_⟩⟩
    · rw [RedisLink.sent_eq, StoreRequest.command?, hseconds]
      rfl
    · simp only [RedisLink.backend, hseconds]
      exact l.send_ne_panicked _ _
  · intro s hshown
    rw [Store.get_setex_eq_some_iff hshown]
    exact and_iff_left rfl
  · intro x
    rw [hserver.shows_serve_setex_iff (RedisUrl.ttlSeconds?_eq_some_iff.2 hrounds) ht]
    exact and_iff_left rfl
  · intro seconds seconds' hrounds hrounds'
    exact hrounds.le_of_le hrounds' hle
  · intro now key value t
    exact ⟨fun s => Store.get_setex_of_le hle,
      fun x hfits ht => hserver.shows_serve_setex_of_le hle hfits ht⟩
  · exact hserver.shows_run_of_store hshown ht
  · simp only [← RedisUrl.ttlSeconds?_eq_some_iff]
    exact hserver.shows_run_iff hshown ht

/-- A server that keeps its keys in a map with expiry. -/
def ofMap : TimedServer TtlMap where
  execute now
    | .ping, m => (.simple "PONG", m)
    | .get key, m => ((m.get now key).elim .nil .bulk, m)
    | .setex key seconds value, m =>
      (.okay, Function.update m key (some ⟨value, now + seconds * nanosPerSecond⟩))
    | .del key, m =>
      (.int (if (m.get now key).isSome then 1 else 0), Function.update m key none)

section OfMap

variable {m : TtlMap} {now t : Instant} {key k : String} {e : Option Entry}

theorem reply_ofMap : ofMap.reply t key m = (m.get t key).elim .nil .bulk := rfl

theorem reply_ofMap_update_self :
    ofMap.reply t key (Function.update m key e) = (e.bind (·.valueAt t)).elim .nil .bulk := by
  rw [reply_ofMap, TtlMap.get, Function.update_self]

theorem reply_ofMap_update_of_ne (h : key ≠ k) :
    ofMap.reply t key (Function.update m k e) = ofMap.reply t key m := by
  rw [reply_ofMap, reply_ofMap, TtlMap.get, TtlMap.get, Function.update_of_ne h]

end OfMap

theorem keepsForSeconds_ofMap : ofMap.KeepsForSeconds TtlMap.empty where
  reply_fresh t key := rfl
  reply_setex m now key seconds value t _ _ := by
    have hafter : ofMap.after now (.setex key seconds value) m =
        Function.update m key (some ⟨value, now + seconds * nanosPerSecond⟩) := rfl
    rw [hafter, reply_ofMap_update_self, Option.bind_some, Entry.valueAt]
    split <;> rfl
  reply_del m now key t _ := reply_ofMap_update_self
  reply_of_not_writes m now command key t hwrites _ := by
    cases command with
    | ping => rfl
    | get k => rfl
    | setex k seconds value =>
        exact reply_ofMap_update_of_ne fun h => hwrites (congrArg some h.symm)
    | del k => exact reply_ofMap_update_of_ne fun h => hwrites (congrArg some h.symm)

/-- A life span of one and a half seconds is sent as two: after it the store in this process shows
nothing any more, and the server still does. -/
theorem backends_agree_within_a_second_of_fraction :
    let ttl : Duration := ⟨1500000000, by decide⟩
    let h : History := [(0, .setex "k" ttl [97]), (5, .purge)]
    let l : RedisLink := ⟨"", {}, false⟩
    let l' : RedisLink := ⟨"", { data := [("k", [97])] }, false⟩
    let m := (ofMap.run (l, TtlMap.empty) h).2
    ofMap.KeepsForSeconds TtlMap.empty ∧ h.Shown ∧ ttl.secs + 1 < Word.size ∧
      l.sent 0 (.setex "k" ttl [97]) = [.setex "k" 2 [97]] ∧
      (((Store.empty 1).run h).get 1200000000 "k").1 = some [97] ∧
      ofMap.Shows 1200000000 "k" [97] m ∧
      (((Store.empty 1).run h).get 1900000000 "k").1 = none ∧
      ofMap.Shows 1900000000 "k" [97] m ∧
      (RedisLink.backend.get 1900000000 "k" l').1 = .answered (.ok (some [97])) ∧
      ¬ ofMap.Shows 2000000000 "k" [97] m ∧
      ofMap.Shows 1900000000 "k" [97]
        (ofMap.serve (l, TtlMap.empty) 0 (.setex "k" (.ofSecs 60) [97])).2 := by
  intro ttl h l l' m
  have hshown : h.Shown := by
    intro t key ttl value hmem
    simp only [h, List.mem_cons, Prod.mk.injEq, StoreRequest.setex.injEq, reduceCtorEq, and_false,
      List.not_mem_nil, or_false] at hmem
    obtain ⟨rfl, -, rfl, -⟩ := hmem
    decide
  have htwo : RedisUrl.RoundsUp ttl 2 :=
    ⟨by decide, by decide, by decide, fun _ => by decide, fun hzero => absurd hzero (by decide)⟩
  obtain ⟨hsent, -, hlonger, hruns, hlookup⟩ := backends_agree_within_a_second keepsForSeconds_ofMap
  obtain ⟨seconds, hrounds, hcommand⟩ := hsent ttl (by decide)
  obtain rfl := hrounds.unique htwo
  have htimes (t : Instant) (ht : 5 ≤ t) : ∀ x ∈ h, x.1 ≤ t := by
    simp only [h, List.mem_cons, List.not_mem_nil, or_false, forall_eq_or_imp, forall_eq]
    exact ⟨Nat.zero_le t, ht⟩
  have hstored : (((Store.empty 1).run h).get 1200000000 "k").1 = some [97] := by decide
  have hlast : h.WrittenLast "k" 0 ttl [97] :=
    ⟨[], [(5, .purge)], rfl, by simp [StoreRequest.writes?]⟩
  have hfound := (hruns 1 l h hshown 1900000000 (htimes _ (by decide)) "k" [97]).2.2
    ⟨0, ttl, 2, hlast, htwo, by decide⟩
  have hseconds : RedisUrl.ttlSeconds? ttl = some 2 := by decide
  -- The purge is not sent, so the server replies as it did before.
  have hreply : ofMap.reply 1900000000 "k" m = .bulk [97] := by
    have hm : m =
        (ofMap.serve (ofMap.serve (l, TtlMap.empty) 0 (.setex "k" ttl [97])) 5 .purge).2 := rfl
    rw [hm, keepsForSeconds_ofMap.reply_serve_of_not_writes (r := .purge) nofun (by decide),
      keepsForSeconds_ofMap.reply_serve_setex hseconds (Nat.zero_le _), if_pos (by decide)]
  have hheard : (l'.server.execute (.get "k")).1 = .reply (ofMap.reply 1900000000 "k" m) := by
    rw [hreply]
    rfl
  refine ⟨keepsForSeconds_ofMap, hshown, by decide, (hcommand l 0 "k" [97]).1, hstored,
    (hruns 1 l h hshown _ (htimes _ (by decide)) "k" [97]).1 hstored, by decide, hfound,
    (hlookup l' m 1900000000 "k" [97] rfl hheard).2 hfound, ?_, ?_⟩
  · intro hover
    obtain ⟨time, ttl', seconds', hlast', hseconds', hlt⟩ :=
      (hruns 1 l h hshown 2000000000 (htimes _ (by decide)) "k" [97]).2.1 hover
    -- The purge writes nothing, so the last write is the one before it.
    have hsplit : h = ([] ++ [(0, .setex "k" ttl [97])]) ++ [(5, .purge)] := rfl
    rw [hsplit, History.writtenLast_concat_of_not_writes (x := (5, .purge)) nofun,
      History.writtenLast_concat_of_writes rfl] at hlast'
    cases hlast'
    rw [hseconds'.unique htwo] at hlt
    exact absurd hlt (by decide)
  · have hshort : ofMap.Shows 1900000000 "k" [97]
        (ofMap.serve (l, TtlMap.empty) 0 (.setex "k" ttl [97])).2 :=
      (keepsForSeconds_ofMap.shows_serve_setex_iff hseconds (by decide)).2 ⟨by decide, rfl⟩
    exact ((hlonger ttl (.ofSecs 60) (by decide)).2 0 "k" [97] 1900000000).2 _ (by decide)
      (by decide) hshort

end TimedServer

end DataTier
