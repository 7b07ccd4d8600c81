/-
**Where the answers of memoized calls come from.**

Whatever bytes are stored, about to be written or just read, some call has computed the result that
they stand for, under arguments with the same key, and the deadline is that of its write.  Every
step keeps this, so a call that is answered from the cache is answered with such a result.  Keys
tell prefixes apart, so the result is of the call's own computation, and when the hash has no
collisions among the arguments in use, it is the one that the call would have computed.

Main definitions:

* `DataTier.Memos.Written` — a result that has been computed and then written;
* `DataTier.Memos.Earlier` — what a hit is: a result written by an earlier call and still live;
* `DataTier.Memos.Sound` — the invariant;
* `DataTier.Memos.Pure` — computations that depend on the JSON value of their arguments only, and
  arguments whose canonical texts do not collide.

Main results:

* `DataTier.Memos.Sound.step` — every step keeps the invariant;
* `DataTier.Memos.provenance` — **hits are results of earlier calls, and every answer is what the
  bare computation comes to**.
-/

import DataTier.Proofs.Cache.Key
import DataTier.Proofs.Cache.Memos

set_option relaxedAutoImplicit false
set_option autoImplicit false

namespace DataTier

namespace Memos

variable {F : MemoFamily} {s s' : Memos F} {trace : List (MemoEvent F)}

/-! ### The invariant -/

/-- The bytes are a result that a call has computed under arguments of this key, and whose write
was executed at this time. -/
def Written (trace : List (MemoEvent F)) (key : String) (value : Bytes) (time : Instant)
    (ttl : Duration) : Prop :=
  ∃ j p args data,
    [MemoEvent.computed j p ttl args (.ok data), .wrote j time].Sublist trace ∧
      (F.memo p ttl).keyFor args = .ok key ∧ (F.codec p).encode data = .ok value

/-- The data are what a call with the same key has computed before, and its write was executed, and
still live, when the store was read. -/
def Earlier (before : List (MemoEvent F)) (p : String) (args : Datum) (readAt : Option Instant)
    (key : Option String) (data : F.Result p) : Prop :=
  ∃ t k j ttl args' time, readAt = some t ∧ key = some k ∧
    (F.memo p ttl).keyFor args = .ok k ∧ (F.memo p ttl).keyFor args' = .ok k ∧
    [MemoEvent.computed j p ttl args' (.ok data), .wrote j time].Sublist before ∧
    time ≤ t ∧ t < time + ttl.nanos

/-- What happens is accounted for by what has happened before: a hit is a result of an earlier
call, and any other answer is what the call itself has computed. -/
def Justified (before : List (MemoEvent F)) : MemoEvent F → Prop
  | .returned i p args readAt answer =>
    (answer.isHit = false ∧ ∃ ttl, .computed i p ttl args answer.outcome ∈ before) ∨
      ∃ key envelope, answer = .ok key envelope ∧ Earlier before p args readAt key envelope.data
  | _ => True

/-- Everything that has happened is accounted for. -/
inductive Accounted : List (MemoEvent F) → Prop
  /-- Nothing has happened. -/
  | nil : Accounted []
  /-- One more thing happens. -/
  | concat {trace e} (h : Accounted trace) (he : Justified trace e) : Accounted (trace ++ [e])

/-- A stored entry is a result that has been written, with the deadline of the write. -/
def EntrySound (s : Memos F) (x : String × Entry) : Prop :=
  ∃ time ttl, Written s.trace x.1 x.2.value time ttl ∧ time ≤ s.clock ∧
    x.2.expiresAt = time + ttl.nanos

/-- A write on its way is one of a result that its call has computed. -/
def WriteSound (s : Memos F) (w : MemoWriting) : Prop :=
  ∃ p args data, .computed w.call p w.write.ttl args (.ok data) ∈ s.trace ∧
    (F.memo p w.write.ttl).keyFor args = .ok w.write.key ∧
    (F.codec p).encode data = .ok w.write.value

/-- A call has asked for the key of its arguments, and what it has read was written and live. -/
structure CallSound (s : Memos F) (c : MemoCall) : Prop where
  key : ∀ key, c.phase.key? = some key → (s.memo c).keyFor c.args = .ok key
  read : ∀ key t value, c.phase = .waiting key t (some value) →
    ∃ time ttl, Written s.trace key value time ttl ∧ time ≤ t ∧ t < time + ttl.nanos

/-- **The invariant**: everything is accounted for, what is stored and what is on its way. -/
structure Sound (s : Memos F) : Prop where
  backend : s.client.backend = some Store.backend
  entries : ∀ x ∈ s.client.state.entries, s.EntrySound x
  writes : ∀ w ∈ s.writes, s.WriteSound w
  calls : ∀ c ∈ s.calls, s.CallSound c
  trace : Accounted s.trace

/-! ### What has happened stays -/

theorem Written.append {key : String} {value : Bytes} {time : Instant} {ttl : Duration}
    (h : Written trace key value time ttl) (new : List (MemoEvent F)) :
    Written (trace ++ new) key value time ttl := by
  obtain ⟨j, p, args, data, hsub, hkey, hencode⟩ := h
  exact ⟨j, p, args, data, hsub.trans (List.sublist_append_left ..), hkey, hencode⟩

theorem EntrySound.later {x : String × Entry} (h : s.EntrySound x) {new : List (MemoEvent F)}
    (htrace : s'.trace = s.trace ++ new) (hclock : s.clock ≤ s'.clock) : s'.EntrySound x := by
  obtain ⟨time, ttl, hwritten, hle, hdeadline⟩ := h
  exact ⟨time, ttl, htrace ▸ hwritten.append new, Nat.le_trans hle hclock, hdeadline⟩

theorem WriteSound.later {w : MemoWriting} (h : s.WriteSound w) {new : List (MemoEvent F)}
    (htrace : s'.trace = s.trace ++ new) : s'.WriteSound w := by
  obtain ⟨p, args, data, hmem, hkey, hencode⟩ := h
  exact ⟨p, args, data, htrace ▸ List.mem_append_left _ hmem, hkey, hencode⟩

theorem CallSound.later {c : MemoCall} (h : s.CallSound c) {new : List (MemoEvent F)}
    (htrace : s'.trace = s.trace ++ new) : s'.CallSound c where
  key := h.key
  read key t value hphase := by
    obtain ⟨time, ttl, hwritten, hlive⟩ := h.read key t value hphase
    exact ⟨time, ttl, htrace ▸ hwritten.append new, hlive⟩

/-- What has happened is accounted for by what came before. -/
theorem Accounted.justified (h : Accounted trace) {before : List (MemoEvent F)} {e : MemoEvent F}
    (hstarts : before ++ [e] <+: trace) : Justified before e := by
  induction h with
  | nil => simp at hstarts
  | concat h he ih =>
      rcases List.prefix_concat_iff.1 hstarts with heq | hstarts
      · obtain ⟨rfl, hlast⟩ := List.append_inj' heq rfl
        obtain rfl := List.head_eq_of_cons_eq hlast
        exact he
      · exact ih hstarts

/-- **The invariant is kept** when what is new is accounted for: entries, writes and calls that
were not there before. -/
theorem Sound.next (hs : s.Sound) {new : List (MemoEvent F)} (htrace : s'.trace = s.trace ++ new)
    (hclock : s.clock ≤ s'.clock) (hbackend : s'.client.backend = s.client.backend)
    (hentries : ∀ x ∈ s'.client.state.entries, x ∈ s.client.state.entries ∨ s'.EntrySound x)
    (hwrites : ∀ w ∈ s'.writes, w ∈ s.writes ∨ s'.WriteSound w)
    (hcalls : ∀ c ∈ s'.calls, c ∈ s.calls ∨ s'.CallSound c) (haccounted : Accounted s'.trace) :
    s'.Sound where
  backend := hbackend.trans hs.backend
  entries x hx := (hentries x hx).elim (fun h => (hs.entries x h).later htrace hclock) id
  writes w hw := (hwrites w hw).elim (fun h => (hs.writes w h).later htrace) id
  calls c hc := (hcalls c hc).elim (fun h => (hs.calls c h).later htrace) id
  trace := haccounted

/-- Counting and logging keep the invariant. -/
theorem Sound.same (hs : s.Sound) {client : Client Store} (h : s.client.Same client) :
    Sound { s with client } := by
  refine hs.next (List.append_nil _).symm (Nat.le_refl _) h.backend (fun x hx => .inl ?_)
    (fun _ hw => .inl hw) (fun _ hc => .inl hc) hs.trace
  rwa [h.state] at hx

/-- So does the loss of entries. -/
theorem Sound.withStore (hs : s.Sound) {store : Store}
    (h : store.entries.Sublist s.client.state.entries) : (s.withStore store).Sound :=
  hs.next (List.append_nil _).symm (Nat.le_refl _) rfl (fun _ hx => .inl (h.subset hx))
    (fun _ hw => .inl hw) (fun _ hc => .inl hc) hs.trace

/-- So does a call that goes on as it may. -/
theorem Sound.advance (hs : s.Sound) {i : Nat} {c : MemoCall} {phase : MemoPhase}
    (hc : s.CallSound { c with phase }) : (s.advance i c phase).Sound := by
  refine hs.next (List.append_nil _).symm (Nat.le_refl _) rfl (fun _ hx => .inl hx)
    (fun _ hw => .inl hw) (fun c' hc' => ?_) hs.trace
  rcases List.mem_or_eq_of_mem_set hc' with hold | rfl
  · exact .inl hold
  · exact .inr (hc.later (List.append_nil _).symm)

/-- So does an event that is accounted for. -/
theorem Sound.record (hs : s.Sound) {e : MemoEvent F} (he : Justified s.trace e) :
    Sound { s with trace := s.trace ++ [e] } :=
  hs.next rfl (Nat.le_refl _) rfl (fun _ hx => .inl hx) (fun _ hw => .inl hw)
    (fun _ hc => .inl hc) (hs.trace.concat he)

/-! ### Calls -/

/-- Of a call that has read nothing only the key matters. -/
theorem callSound_of_key {c : MemoCall} {phase : MemoPhase}
    (hkey : ∀ key, phase.key? = some key → (s.memo c).keyFor c.args = .ok key)
    (hread : ∀ key t value, phase ≠ .waiting key t (some value)) :
    s.CallSound { c with phase } where
  key := hkey
  read key t value hphase := absurd hphase (hread key t value)

theorem callSound_ended (s : Memos F) (c : MemoCall) : s.CallSound { c with phase := .ended } :=
  callSound_of_key nofun nofun

theorem callSound_bypass (s : Memos F) (c : MemoCall) :
    s.CallSound { c with phase := .computing none } :=
  callSound_of_key nofun nofun

theorem callSound_asking {c : MemoCall} {key : String}
    (hkey : (s.memo c).keyFor c.args = .ok key) : s.CallSound { c with phase := .asking key } :=
  callSound_of_key (fun _ hk => Option.some.inj hk ▸ hkey) nofun

theorem callSound_computing {c : MemoCall} {key : String}
    (hkey : (s.memo c).keyFor c.args = .ok key) :
    s.CallSound { c with phase := .computing (some key) } :=
  callSound_of_key (fun _ hk => Option.some.inj hk ▸ hkey) nofun

theorem Sound.begin (hs : s.Sound) (p : String) (ttl : Duration) (args : Datum) :
    (s.begin p ttl args).Sound := by
  have hsame := (F.memo p ttl).same_plan s.client args
  rcases hplan : (F.memo p ttl).plan s.client args with ⟨plan, client⟩
  rw [hplan] at hsame
  rw [begin_eq hplan]
  refine (hs.same hsame).next (List.append_nil _).symm (Nat.le_refl _) rfl (fun _ hx => .inl hx)
    (fun _ hw => .inl hw) (fun c hc => ?_) hs.trace
  rcases List.mem_append.1 hc with hc | hc
  · exact .inl hc
  · obtain rfl := List.mem_singleton.1 hc
    right
    cases plan with
    | look key =>
      have hkey := (Memo.plan_eq_look_iff.1 (congrArg Prod.fst hplan)).2
      exact callSound_asking (c := ⟨p, ttl, args, .asking key⟩) hkey
    | bypass => exact callSound_bypass _ ⟨p, ttl, args, .computing none⟩

/-- What is read is an entry that is live. -/
theorem mem_of_probe_live {store : Store} {now : Instant} {key : String} {value : Bytes}
    (h : store.probe now key = .live value) :
    ∃ e, (key, e) ∈ store.entries ∧ e.value = value ∧ now < e.expiresAt := by
  unfold Store.probe at h
  split at h
  · exact absurd h nofun
  · next e hfind =>
    split at h
    · exact absurd h nofun
    · next hlive =>
      refine ⟨e, Store.mem_of_find? hfind, Store.Probe.live.inj h, ?_⟩
      exact Entry.isExpired_eq_false_iff.1 (Bool.eq_false_iff.2 hlive)

theorem Sound.read (hs : s.Sound) {i : Nat} {c : MemoCall} {key : String}
    (hi : s.calls[i]? = some c) (hp : c.phase = .asking key) :
    (s.advance i c
      (.afterProbe key s.clock (s.client.state.probe s.clock key))).Sound := by
  have hkey := (hs.calls c (List.mem_of_getElem? hi)).key key (hp ▸ rfl)
  apply hs.advance
  cases hprobe : s.client.state.probe s.clock key with
  | absent => exact callSound_of_key (fun _ hk => Option.some.inj hk ▸ hkey) nofun
  | expired => exact callSound_of_key (fun _ hk => Option.some.inj hk ▸ hkey) nofun
  | live value =>
    refine ⟨fun k hk => Option.some.inj hk ▸ hkey, fun k t v hphase => ?_⟩
    obtain ⟨rfl, rfl, hvalue⟩ := MemoPhase.waiting.inj hphase
    obtain rfl := Option.some.inj hvalue
    -- The entry that has been read was written, and its deadline is that of the write.
    obtain ⟨e, hmem, rfl, hlive⟩ := mem_of_probe_live hprobe
    obtain ⟨time, ttl, hwritten, hle, hdeadline⟩ := hs.entries _ hmem
    exact ⟨time, ttl, hwritten, hle, hdeadline ▸ hlive⟩

theorem Sound.drop (hs : s.Sound) {i : Nat} {c : MemoCall} {key : String} {t : Instant}
    (hi : s.calls[i]? = some c) (hp : c.phase = .dropping key t) :
    ((s.advance i c (.waiting key t none)).withStore
      (s.client.state.dropExpired s.clock key)).Sound := by
  have hc := hs.calls c (List.mem_of_getElem? hi)
  have hwaiting : s.CallSound { c with phase := .waiting key t none } :=
    callSound_of_key (fun k hk => hc.key k (hp ▸ hk)) nofun
  exact (hs.advance hwaiting).withStore (Store.dropExpired_sublist ..)

/-- Calls with the same key are of the same prefix, and the hashes of their arguments agree. -/
theorem eq_of_keyFor {p q : String} {ttl ttl' : Duration} {a b : Datum} {key : String}
    (ha : (F.memo p ttl).keyFor a = .ok key) (hb : (F.memo q ttl').keyFor b = .ok key) :
    p = q ∧ ∃ c d, CallArgs.ofDatum a = .ok c ∧ CallArgs.ofDatum b = .ok d ∧
      Xxh64.hash (Utf8.encode c.canonical) = Xxh64.hash (Utf8.encode d.canonical) := by
  obtain ⟨c, hc, hkey⟩ := exists_of_map_eq_ok ha
  obtain ⟨d, hd, hkey'⟩ := exists_of_map_eq_ok hb
  obtain ⟨hname, hhash⟩ := keyWith_eq_iff.1 (hkey.trans hkey'.symm)
  exact ⟨hname, c, d, hc, hd, hhash⟩

/-- Bytes that were written under a key decode to what the call of that key has computed. -/
theorem Written.earlier (hF : F.Faithful) {p : String} {args : Datum} {key : String}
    {value : Bytes} {time t : Instant} {ttl ttl' : Duration} {data : F.Result p}
    (h : Written trace key value time ttl) (hle : time ≤ t) (hlt : t < time + ttl.nanos)
    (hkey : (F.memo p ttl').keyFor args = .ok key) (hdata : (F.codec p).decode? value = some data) :
    Earlier trace p args (some t) (some key) data := by
  obtain ⟨j, q, args', data', hsub, hkey', hencode⟩ := h
  -- The key tells the prefix, so what wrote the bytes and what reads them use one codec.
  obtain ⟨rfl, -⟩ := eq_of_keyFor hkey' hkey
  obtain rfl : data' = data := Option.some.inj ((hF _ _ _ hencode).symm.trans hdata)
  exact ⟨t, key, j, ttl, args', time, rfl, rfl, hkey, hkey', hsub, hle, hlt⟩

/-- A lookup ends as a hit of a result that was written, or the call goes on to compute. -/
theorem Sound.answer (hF : F.Faithful) (hs : s.Sound) {i : Nat} {c : MemoCall} {key : String}
    (hkey : (s.memo c).keyFor c.args = .ok key) {readAt : Option Instant}
    {result : Except CacheError (Option Bytes)}
    (hread : ∀ value, result = .ok (some value) → ∃ t, readAt = some t ∧
      ∃ time ttl, Written s.trace key value time ttl ∧ time ≤ t ∧ t < time + ttl.nanos)
    (elapsed : Double) : (s.answer i c key readAt elapsed result).Sound := by
  have hsame := (s.memo c).same_afterLookup s.client key result
  rcases hlookup : (s.memo c).afterLookup s.client key result with ⟨lookup, client⟩
  have hfirst := congrArg Prod.fst hlookup
  rw [hlookup] at hsame
  rw [Memos.answer, hlookup]
  cases lookup with
  | hit k data =>
    obtain ⟨rfl, value, hresult, hdecode⟩ := Memo.afterLookup_eq_hit hfirst
    obtain ⟨t, rfl, time, ttl, hwritten, hle, hlt⟩ := hread value hresult
    have hearlier := hwritten.earlier hF hle hlt hkey hdecode
    have hended := (hs.same hsame).advance (i := i) (callSound_ended _ c)
    exact hended.record (.inr ⟨_, _, rfl, hearlier⟩)
  | miss k =>
    obtain rfl := Memo.afterLookup_eq_miss hfirst
    exact (hs.same hsame).advance (i := i) (callSound_computing hkey)
  | bypass => exact (hs.same hsame).advance (i := i) (callSound_bypass _ c)

/-- A call that computes is answered with that, and what it leaves to be written is that. -/
theorem Sound.conclude (hs : s.Sound) {i : Nat} {c : MemoCall} {key : Option String}
    (hi : s.calls[i]? = some c) (hp : c.phase = .computing key) (elapsed : Double)
    (outcome : Memo.Computed (F.Result c.keyPrefix)) :
    (s.conclude i c key elapsed outcome).Sound := by
  have hc := hs.calls c (List.mem_of_getElem? hi)
  have hsame := (s.memo c).same_conclude s.client key elapsed outcome
  obtain ⟨houtcome, hmiss⟩ := (s.memo c).outcome_conclude s.client key elapsed outcome
  rcases hconclude : (s.memo c).conclude s.client key elapsed outcome with ⟨answer, write, client⟩
  rw [hconclude] at hsame houtcome hmiss
  rw [Memos.conclude, hconclude]
  have hended := (hs.same hsame).advance (i := i) (callSound_ended _ c)
  have haccounted := hs.trace.concat (e := .computed i c.keyPrefix c.ttl c.args outcome) trivial
  have hreturned := haccounted.concat (e := .returned i c.keyPrefix c.args none answer)
    (.inl ⟨hmiss, c.ttl, houtcome ▸ List.mem_append_right _ (List.mem_singleton_self _)⟩)
  rw [List.append_assoc] at hreturned
  refine hended.next rfl (Nat.le_refl _) rfl (fun _ hx => .inl hx)
    (fun w hw => (List.mem_append.1 hw).imp id fun hw => ?_) (fun _ hc => .inl hc) hreturned
  -- What is left to be written is what has just been computed.
  obtain ⟨w, hleft, rfl⟩ := List.mem_map.1 hw
  have hwrite : ((s.memo c).conclude s.client key elapsed outcome).2.1 = some w := by
    rw [hconclude]
    exact Option.mem_toList.1 hleft
  obtain ⟨data, rfl, rfl, httl, hencode⟩ := Memo.write_of_conclude hwrite
  refine ⟨c.keyPrefix, c.args, data, ?_, hc.key _ (hp ▸ rfl), hencode⟩
  rw [httl]
  exact List.mem_append_right _ List.mem_cons_self

/-! ### Writes and other requests -/

/-- A write that is executed stores its entry. -/
theorem land_of_shown (hb : s.client.backend = some Store.backend) {w : MemoWriting}
    {deadline : Instant} (hafter : s.clock.after? w.write.ttl = some deadline) (k : Nat) :
    s.land k w =
      { s.withStore ((s.client.state.makeRoom s.clock w.write.key).put w.write.key
          ⟨w.write.value, deadline⟩) with
        writes := s.writes.set k { w with landed := true }
        trace := s.trace ++ [.wrote w.call s.clock] } := by
  obtain ⟨⟨backend, store, opTimeout, stats, log⟩, clock, calls, writes, trace⟩ := s
  obtain rfl : backend = some Store.backend := hb
  simp only at hafter
  simp [land, Client.request, Store.backend, Store.setex, Entry.create?, hafter, withStore]

/-- It breaks down when the clock cannot show the deadline, and has made room only. -/
theorem land_of_not_shown (hb : s.client.backend = some Store.backend) {w : MemoWriting}
    (hafter : s.clock.after? w.write.ttl = none) (k : Nat) :
    s.land k w =
      { s.withStore (s.client.state.makeRoom s.clock w.write.key) with
        writes := s.writes.set k { w with landed := true } } := by
  obtain ⟨⟨backend, store, opTimeout, stats, log⟩, clock, calls, writes, trace⟩ := s
  obtain rfl : backend = some Store.backend := hb
  simp only at hafter
  simp [land, Client.request, Store.backend, Store.setex, Entry.create?, hafter, withStore]

theorem Sound.of_mem_set (hs : s.Sound) {k : Nat} {w w' v : MemoWriting}
    (hk : s.writes[k]? = some w) (h : v ∈ s.writes.set k w') (hcall : w'.call = w.call)
    (hwrite : w'.write = w.write) : v ∈ s.writes ∨ s.WriteSound v := by
  refine (List.mem_or_eq_of_mem_set h).imp id ?_
  rintro rfl
  have hw := hs.writes w (List.mem_of_getElem? hk)
  unfold WriteSound at hw ⊢
  rwa [hcall, hwrite]

theorem Sound.land (hs : s.Sound) {k : Nat} {w : MemoWriting} (hk : s.writes[k]? = some w) :
    (s.land k w).Sound := by
  have hroom := Store.makeRoom_sublist s.client.state s.clock w.write.key
  cases hafter : s.clock.after? w.write.ttl with
  | some deadline =>
    rw [land_of_shown hs.backend hafter]
    obtain ⟨-, hdeadline⟩ := Instant.after?_eq_some_iff.1 hafter
    obtain ⟨p, args, data, hmem, hkey, hencode⟩ := hs.writes w (List.mem_of_getElem? hk)
    refine hs.next rfl (Nat.le_refl _) rfl (fun x hx => ?_) (fun v hv => ?_)
      (fun _ hc => .inl hc) (hs.trace.concat trivial)
    -- Old entries are sound; the new one has been computed before and is written now.
    · rcases List.mem_append.1 hx with hx | hx
      · exact .inl (hroom.subset ((Store.delete_sublist ..).subset hx))
      · obtain rfl := List.mem_singleton.1 hx
        refine .inr ⟨s.clock, w.write.ttl, ⟨w.call, p, args, data, ?_, hkey, hencode⟩,
          Nat.le_refl _, hdeadline.symm⟩
        exact (List.singleton_sublist.2 hmem).append (List.Sublist.refl [_])
    · exact (hs.of_mem_set hk hv rfl rfl).imp id fun h => h.later rfl
  | none =>
    rw [land_of_not_shown hs.backend hafter]
    exact (hs.withStore hroom).next (List.append_nil _).symm (Nat.le_refl _) rfl
      (fun _ hx => .inl hx) (fun v hv => hs.of_mem_set hk hv rfl rfl) (fun _ hc => .inl hc)
      hs.trace

theorem Sound.report (hs : s.Sound) {k : Nat} {w : MemoWriting} (hk : s.writes[k]? = some w)
    (result : Except CacheError Unit) :
    Sound { s with
      client := s.client.finishWriteBack w.write.key w.write.ttl w.write.value.length result
      writes := s.writes.set k { w with reported := true } } :=
  (hs.same (Client.same_finishWriteBack ..)).next (List.append_nil _).symm (Nat.le_refl _) rfl
    (fun _ hx => .inl hx) (fun _ hv => hs.of_mem_set hk hv rfl rfl) (fun _ hc => .inl hc)
    hs.trace

/-- Requests that write nothing leave no new entries. -/
theorem serve_sublist {store : Store} {now : Instant} {r : StoreRequest}
    (hr : ∀ key ttl value, r ≠ .setex key ttl value) :
    (store.serve now r).entries.Sublist store.entries := by
  cases r with
  | setex key ttl value => exact absurd rfl (hr key ttl value)
  | get key =>
    rw [Store.serve, Store.get_snd]
    exact Store.dropExpired_sublist ..
  | delete key => exact Store.delete_sublist ..
  | contains key => exact List.Sublist.refl _
  | purge => exact Store.retainLive_sublist ..

/-! ### Steps and runs -/

/-- **Every step keeps the invariant.** -/
theorem Sound.step (hF : F.Faithful) (hs : s.Sound) (h : Step s s') : s'.Sound := by
  cases h with
  | tick d =>
    exact hs.next (List.append_nil _).symm (Nat.le_add_right _ _) rfl (fun _ hx => .inl hx)
      (fun _ hw => .inl hw) (fun _ hc => .inl hc) hs.trace
  | begin p ttl args => exact hs.begin p ttl args
  | read hi hp => exact hs.read hi hp
  | drop hi hp => exact hs.drop hi hp
  | answer hi hp elapsed =>
    have hc := hs.calls _ (List.mem_of_getElem? hi)
    refine hs.answer hF (hc.key _ (hp ▸ rfl)) (fun value hvalue => ⟨_, rfl, ?_⟩) elapsed
    exact hc.read _ _ _ (Except.ok.inj hvalue ▸ hp)
  | fail hi hp elapsed e =>
    have hc := hs.calls _ (List.mem_of_getElem? hi)
    refine hs.answer hF (hc.key _ (MemoPhase.key?_of_lookup? hp)) (fun value hvalue => ?_) elapsed
    exact absurd hvalue nofun
  | conclude hi hp elapsed outcome => exact hs.conclude hi hp elapsed outcome
  | land hk hl => exact hs.land hk
  | report hk hr result => exact hs.report hk result
  | serve r hr => exact hs.withStore (serve_sublist hr)
  | finishGet key result => exact hs.same (Client.same_finishGet ..)
  | finishDelete key result => exact hs.same (Client.same_finishDelete ..)

theorem sound_start (F : MemoFamily) (capacity : Nat) (opTimeout : Duration) (clock : Instant) :
    (start F capacity opTimeout clock).Sound where
  backend := rfl
  entries := nofun
  writes := nofun
  calls := nofun
  trace := .nil

theorem Sound.run (hF : F.Faithful) (hs : s.Sound) (h : Run s s') : s'.Sound := by
  induction h with
  | refl => exact hs
  | tail _ hstep ih => exact ih.step hF hstep

/-! ### Hits and the bare computation -/

/-- The arguments of calls that have computed or been answered. -/
def Uses (s : Memos F) (args : Datum) : Prop := ∃ e ∈ s.trace, e.args? = some args

/-- The computations depend on the JSON value of their arguments only, and the canonical texts of
the arguments in use do not collide. -/
structure Pure (s : Memos F) (bare : (p : String) → Datum → Memo.Computed (F.Result p)) :
    Prop where
  /-- Objects among the arguments have their members in order. -/
  orderly : ∀ args, s.Uses args → args.Orderly
  /-- Different canonical texts have different hashes. -/
  apart : ∀ a b c d, s.Uses a → s.Uses b → CallArgs.ofDatum a = .ok c →
    CallArgs.ofDatum b = .ok d →
    Xxh64.hash (Utf8.encode c.canonical) = Xxh64.hash (Utf8.encode d.canonical) →
    c.canonical = d.canonical
  /-- Arguments of one JSON value are computed alike. -/
  byJson : ∀ p a b v, a.toJson = .ok v → b.toJson = .ok v → bare p a = bare p b
  /-- What calls have computed is what the computation comes to. -/
  computed : ∀ i p ttl args outcome, .computed i p ttl args outcome ∈ s.trace →
    outcome = bare p args

/-- Without collisions, arguments with one key are computed alike. -/
theorem Pure.eq_of_keyFor {bare : (p : String) → Datum → Memo.Computed (F.Result p)}
    (h : s.Pure bare) {p : String} {ttl ttl' : Duration} {a b : Datum} {key : String}
    (ha : s.Uses a) (hb : s.Uses b) (hkey : (F.memo p ttl).keyFor a = .ok key)
    (hkey' : (F.memo p ttl').keyFor b = .ok key) : bare p a = bare p b := by
  obtain ⟨-, c, d, hc, hd, hhash⟩ := Memos.eq_of_keyFor hkey hkey'
  have hjson := CallArgs.ofDatum_inj (h.orderly a ha) (h.orderly b hb) hc hd
    (h.apart a b c d ha hb hc hd hhash)
  obtain ⟨v, hv, -⟩ := exists_of_map_eq_ok hc
  exact h.byJson p a b v hv (hjson ▸ hv)

theorem exists_prefix_of_mem {e : MemoEvent F} (h : e ∈ trace) :
    ∃ before, before ++ [e] <+: trace := by
  obtain ⟨before, after, rfl⟩ := List.append_of_mem h
  exact ⟨before, after, by simp⟩

/-- What is accounted for by its own computation or by an earlier one with its key is what the
bare computation comes to. -/
theorem Pure.outcome_eq {bare : (p : String) → Datum → Memo.Computed (F.Result p)}
    (h : s.Pure bare) (hs : s.Sound) {i : Nat} {p : String} {args : Datum}
    {readAt : Option Instant} {answer : Memo.Answer (F.Result p)}
    (hmem : .returned i p args readAt answer ∈ s.trace) : answer.outcome = bare p args := by
  obtain ⟨before, hstarts⟩ := exists_prefix_of_mem hmem
  have hbefore : ∀ e ∈ before, e ∈ s.trace :=
    fun e he => hstarts.subset (List.mem_append_left _ he)
  rcases hs.trace.justified hstarts with ⟨-, ttl, hcomputed⟩ | ⟨key, envelope, rfl, hearlier⟩
  · exact h.computed i p ttl args _ (hbefore _ hcomputed)
  -- A hit is what another call has computed, under arguments that are computed alike.
  · obtain ⟨t, k, j, ttl, args', time, -, -, hkey, hkey', hsub, -⟩ := hearlier
    have hcomputed := hbefore _ (hsub.subset List.mem_cons_self)
    have hdata := h.computed j p ttl args' _ hcomputed
    rw [h.eq_of_keyFor ⟨_, hmem, rfl⟩ ⟨_, hcomputed, rfl⟩ hkey hkey', ← hdata]
    rfl

/-- **Hits are results of earlier calls, and every answer is what the bare computation comes to.**
However calls, their writes, deletes, purges and failures interleave: the data of a hit have been
computed before by a call with the same key, whose write was executed at a time not after the read,
and whose life span had not passed then.  When the canonical texts in use do not collide and
computations depend on the JSON value of their arguments only, every answer, hit or not, is what
the computation comes to without a cache. -/
theorem provenance (hF : F.Faithful) {capacity : Nat} {opTimeout : Duration} {clock : Instant}
    (h : Run (start F capacity opTimeout clock) s) :
    (∀ before i p args readAt key envelope,
      before ++ [.returned i p args readAt (.ok key envelope)] <+: s.trace →
      envelope.cacheHit = true → Earlier before p args readAt key envelope.data) ∧
    ∀ bare, s.Pure bare → ∀ i p args readAt answer,
      .returned i p args readAt answer ∈ s.trace → answer.outcome = bare p args := by
  have hs := (sound_start F capacity opTimeout clock).run hF h
  refine ⟨fun before i p args readAt key envelope hstarts hhit => ?_,
    fun bare hpure i p args readAt answer hmem => hpure.outcome_eq hs hmem⟩
  rcases hs.trace.justified hstarts with ⟨hmiss, -⟩ | ⟨key', envelope', heq, hearlier⟩
  · exact absurd (hhit.symm.trans hmiss) nofun
  · obtain ⟨rfl, rfl⟩ := Memo.Answer.ok.inj heq
    exact hearlier

/-! ### A hit -/

/-- Computations that result in truth values. -/
def truths : MemoFamily where
  Result _ := Bool
  codec _ := { write := fun b => .ok (Json.chars (.bool b)), reader := Json.readBool }

theorem faithful_truths : truths.Faithful := by
  intro p b bs h
  obtain rfl := Except.ok.inj h
  cases b <;> rfl

/-- What happens to calls without arguments that compute the true value. -/
def IsTrue : MemoEvent truths → Prop
  | .computed _ _ _ args outcome => args = .null ∧ outcome = .ok true
  | .wrote _ _ => True
  | .returned _ _ args _ _ => args = .null

theorem IsTrue.args_eq {e : MemoEvent truths} (h : IsTrue e) {args : Datum}
    (hargs : e.args? = some args) : args = .null := by
  cases e with
  | computed _ _ _ args' outcome => exact Option.some.inj hargs ▸ h.1
  | wrote _ _ => exact absurd hargs nofun
  | returned _ _ args' _ _ => exact Option.some.inj hargs ▸ h

/-- A call without arguments computes, its write is executed, and a second such call is answered
from the store. -/
theorem exists_second_call :
    ∃ s : Memos truths, Run (start truths 1 (.ofSecs 5) 0) s ∧ s.Pure (fun _ _ => .ok true) ∧
      ∃ before i readAt key envelope,
        before ++ [.returned i "truth" .null readAt (.ok key envelope)] <+: s.trace ∧
          envelope.cacheHit = true := by
  obtain ⟨key, hkey⟩ : ∃ key, (truths.memo "truth" (.ofSecs 60)).keyFor .null = .ok key :=
    ⟨_, rfl⟩
  obtain ⟨bs, hencode⟩ : ∃ bs, (truths.memo "truth" (.ofSecs 60)).codec.encode true = .ok bs :=
    ⟨_, rfl⟩
  have hdecode := faithful_truths "truth" true bs hencode
  -- The first call finds nothing.
  obtain ⟨c₁, hcall, hb, hstate⟩ :
      ∃ client, (truths.memo "truth" (.ofSecs 60)).call (start truths 1 (.ofSecs 5) 0).client 0
          .null Binary.zero (fun _ => .ok true) =
            (.ok (some key) (.computed true Binary.zero), some ⟨key, .ofSecs 60, bs⟩, client) ∧
        client.backend = some Store.backend ∧ client.state = .empty 1 :=
    call_of_absent rfl hkey rfl rfl hencode
  obtain ⟨s₁, computed₁, readAt₁, hrun₁, hclock, hclient, hwrites, hcomputed₁, htrace₁⟩ :=
    run_call (s := start truths 1 (.ofSecs 5) 0) rfl "truth" (.ofSecs 60) .null Binary.zero
      (fun _ => .ok true)
  rw [show (start truths 1 (.ofSecs 5) 0).clock = 0 from rfl, hcall] at hclient hwrites htrace₁
  simp only [start, List.nil_append, List.length_nil] at hclock htrace₁
  -- Its write is executed.
  have hstate₁ : s₁.client.state = .empty 1 := hclient ▸ hstate
  have hb₁ : s₁.client.backend = some Store.backend := hclient ▸ hb
  have hk : s₁.writes[0]? = some ⟨0, ⟨key, .ofSecs 60, bs⟩, false, false⟩ := by rw [hwrites]; rfl
  have hland := Step.land hk rfl
  obtain ⟨deadline, hdeadline, hpos⟩ :
      ∃ deadline, Instant.after? 0 (.ofSecs 60) = some deadline ∧ 0 < deadline :=
    ⟨60000000000, by decide, by decide⟩
  have hafter : s₁.clock.after? (.ofSecs 60) = some deadline := hclock ▸ hdeadline
  generalize hs₂ : s₁.land 0 ⟨0, ⟨key, .ofSecs 60, bs⟩, false, false⟩ = s₂ at hland
  have hshown := land_of_shown hb₁ (w := ⟨0, ⟨key, .ofSecs 60, bs⟩, false, false⟩) hafter 0
  rw [hs₂, hstate₁, hclock] at hshown
  have hroom : (Store.empty 1).makeRoom 0 key = .empty 1 := rfl
  rw [hroom] at hshown
  -- The second call finds it.
  have hget : Store.get ((Store.empty 1).put key ⟨bs, deadline⟩) 0 key =
      (some bs, (Store.empty 1).put key ⟨bs, deadline⟩) := by
    simp [Store.get, Store.probe, Store.find?, Store.put, Store.delete, Store.empty,
      Entry.isExpired, Nat.not_le.2 hpos]
  have hb₂ : s₂.client.backend = some Store.backend := hshown ▸ hb₁
  have hclock₂ : s₂.clock = 0 := hshown ▸ hclock
  have hget₂ : s₂.client.state.get s₂.clock key =
      (some bs, (Store.empty 1).put key ⟨bs, deadline⟩) := by
    rw [hclock₂, hshown]
    exact hget
  obtain ⟨c₂, hcall₂, -⟩ :
      ∃ client, (truths.memo "truth" (.ofSecs 60)).call s₂.client s₂.clock .null Binary.zero
          (fun _ => .ok true) = (.ok (some key) (.hit true Binary.zero), none, client) ∧
        client.backend = some Store.backend ∧
          client.state = (Store.empty 1).put key ⟨bs, deadline⟩ :=
    call_of_found hb₂ hkey hget₂ hdecode
  obtain ⟨s₃, computed₃, readAt₃, hrun₃, -, -, -, hcomputed₃, htrace₃⟩ :=
    run_call hb₂ "truth" (.ofSecs 60) .null Binary.zero (fun _ => .ok true)
  rw [hcall₂] at htrace₃
  have hrun := (hrun₁.tail hland).trans hrun₃
  have htrace₂ : s₂.trace = s₁.trace ++ [.wrote 0 0] := by rw [hshown]
  have hall : ∀ e ∈ s₃.trace, IsTrue e := by
    rw [htrace₃, htrace₂, htrace₁]
    simp only [List.forall_mem_append, List.forall_mem_singleton]
    refine ⟨⟨⟨⟨?_, rfl⟩, trivial⟩, ?_⟩, rfl⟩
    · rcases hcomputed₁ with rfl | rfl
      · exact List.forall_mem_nil _
      · exact List.forall_mem_singleton.2 ⟨rfl, rfl⟩
    · rcases hcomputed₃ with rfl | rfl
      · exact List.forall_mem_nil _
      · exact List.forall_mem_singleton.2 ⟨rfl, rfl⟩
  have hpure : s₃.Pure (fun _ _ => .ok true) := by
    have hnull : ∀ args, s₃.Uses args → args = .null := by
      rintro args ⟨e, he, hargs⟩
      exact (hall e he).args_eq hargs
    refine ⟨fun args hargs => ?_, fun a b c d ha hb hc hd _ => ?_, fun _ _ _ _ _ _ => rfl,
      fun i p ttl args outcome he => (hall _ he).2⟩
    · rw [hnull args hargs]
      trivial
    · rw [hnull a ha] at hc
      rw [hnull b hb, hc] at hd
      rw [Except.ok.inj hd]
  have hstarts : _ <+: s₃.trace := ⟨[], (List.append_nil _).trans htrace₃.symm⟩
  exact ⟨s₃, hrun, hpure, _, _, _, _, _, hstarts, rfl⟩

theorem provenance_of_second_call :
    ∃ s : Memos truths, Run (start truths 1 (.ofSecs 5) 0) s ∧
      (∃ before i readAt key envelope,
        before ++ [.returned i "truth" .null readAt (.ok key envelope)] <+: s.trace ∧
          envelope.cacheHit = true ∧ Earlier before "truth" .null readAt key envelope.data) ∧
      s.Pure (fun _ _ => .ok true) ∧
      ∀ i p args readAt answer, .returned i p args readAt answer ∈ s.trace →
        answer.outcome = .ok true := by
  obtain ⟨s, hrun, hpure, before, i, readAt, key, envelope, hstarts, hhit⟩ := exists_second_call
  obtain ⟨hearlier, hbare⟩ := provenance faithful_truths hrun
  exact ⟨s, hrun, ⟨before, i, readAt, key, envelope, hstarts, hhit,
    hearlier _ _ _ _ _ _ _ hstarts hhit⟩, hpure, hbare _ hpure⟩

end Memos

end DataTier
