/-
**What the keys of memoized calls tell of their arguments.**

The arguments of one computation have one shape.  Their key text tells them apart as far as their
JSON does, so a call may be answered with what has been computed for other arguments: for those
that are blurred alike, and for those whose texts have one hash.

Main results:

* `DataTier.CallArgs.canonical_eq_iff_blur` — arguments of one shape have one text exactly when
  they are blurred alike;
* `DataTier.Memos.Sound.computed_alike` — a hit has been computed for such arguments;
* `DataTier.Memos.hits_of_like_arguments` — both together, and finite arguments with options of
  values that are never absent are told apart;
* `DataTier.CallArgs.canonical_of_infinity` — an infinity is not told from nothing.
-/

import DataTier.Proofs.Cache.Provenance
import DataTier.Proofs.Datum.Shape

set_option relaxedAutoImplicit false
set_option autoImplicit false

namespace DataTier

namespace CallArgs

variable {s : Shape} {x y : s.Val} {c d : CallArgs}

/-- **Arguments of one shape have one text exactly when they are blurred alike.** -/
theorem canonical_eq_iff_blur (hs : s.Distinct) (hc : ofDatum (s.describe x) = .ok c)
    (hd : ofDatum (s.describe y) = .ok d) : c.canonical = d.canonical ↔ s.blur x = s.blur y := by
  obtain ⟨v, hv, rfl⟩ := exists_of_map_eq_ok hc
  obtain ⟨w, hw, rfl⟩ := exists_of_map_eq_ok hd
  rw [← Shape.sameJson_iff hs hv hw]
  constructor
  · intro htext
    have hjson := ofDatum_inj (s.orderly_describe x) (s.orderly_describe y) hc hd htext
    rw [hv, hw] at hjson
    exact Except.ok.inj hjson
  · rintro rfl
    rfl

/-- Finite arguments with options of values that are never absent have texts of their own. -/
theorem canonical_eq_iff_eq (hs : s.Distinct) (hdefinite : s.Definite) (hx : s.Finite x)
    (hy : s.Finite y) (hc : ofDatum (s.describe x) = .ok c) (hd : ofDatum (s.describe y) = .ok d) :
    c.canonical = d.canonical ↔ x = y := by
  rw [canonical_eq_iff_blur hs hc hd, Shape.blur_eq_self hdefinite hx,
    Shape.blur_eq_self hdefinite hy]

end CallArgs

namespace Memos

variable {F : MemoFamily} {m : Memos F}

/-- The hash does not tell two values of a shape apart, though their texts differ. -/
def Collide (s : Shape) (x y : s.Val) : Prop :=
  ∃ c d, CallArgs.ofDatum (s.describe x) = .ok c ∧ CallArgs.ofDatum (s.describe y) = .ok d ∧
    c.canonical ≠ d.canonical ∧
    Xxh64.hash (Utf8.encode c.canonical) = Xxh64.hash (Utf8.encode d.canonical)

/-- Arguments with one key are blurred alike, or their texts collide. -/
theorem blur_eq_or_collide {s : Shape} (hs : s.Distinct) {p : String} {ttl ttl' : Duration}
    {x y : s.Val} {key : String} (hx : (F.memo p ttl).keyFor (s.describe x) = .ok key)
    (hy : (F.memo p ttl').keyFor (s.describe y) = .ok key) :
    s.blur x = s.blur y ∨ Collide s x y := by
  obtain ⟨-, c, d, hc, hd, hhash⟩ := eq_of_keyFor hx hy
  by_cases htext : c.canonical = d.canonical
  · exact .inl ((CallArgs.canonical_eq_iff_blur hs hc hd).1 htext)
  · exact .inr ⟨c, d, hc, hd, htext, hhash⟩

/-- **A hit has been computed for arguments that are blurred alike**, or whose text collides. -/
theorem Sound.computed_alike (hm : m.Sound) {s : Shape} (hs : s.Distinct)
    {before : List (MemoEvent F)} {i : Nat} {p : String} {x : s.Val} {readAt : Option Instant}
    {key : Option String} {envelope : Envelope (F.Result p)}
    (hstarts : before ++ [.returned i p (s.describe x) readAt (.ok key envelope)] <+: m.trace)
    (hhit : envelope.cacheHit = true) :
    ∃ j ttl args, MemoEvent.computed j p ttl args (.ok envelope.data) ∈ before ∧
      ∀ y, args = s.describe y → s.blur x = s.blur y ∨ Collide s x y := by
  rcases hm.trace.justified hstarts with ⟨hmiss, -⟩ | ⟨key', envelope', heq, hearlier⟩
  · exact absurd (hhit.symm.trans hmiss) nofun
  obtain ⟨rfl, rfl⟩ := Memo.Answer.ok.inj heq
  obtain ⟨t, k, j, ttl, args, time, -, -, hkey, hkey', hsub, -⟩ := hearlier
  refine ⟨j, ttl, args, hsub.subset List.mem_cons_self, ?_⟩
  rintro y rfl
  exact blur_eq_or_collide hs hkey hkey'

/-- **Keys tell arguments apart as far as JSON does, and hits are answered by keys.**  Two
arguments of one shape have one text exactly when they are blurred alike, which finite ones with
options of values that are never absent are only when they are equal.  However calls, their writes,
deletes, purges and failures interleave, a hit has been computed before, for arguments that are
blurred alike unless the hashes of different texts agree. -/
theorem hits_of_like_arguments {s : Shape} (hs : s.Distinct) :
    (∀ x y c d, CallArgs.ofDatum (s.describe x) = .ok c →
      CallArgs.ofDatum (s.describe y) = .ok d →
      (c.canonical = d.canonical ↔ s.blur x = s.blur y) ∧
      (s.Definite → s.Finite x → s.Finite y → (c.canonical = d.canonical ↔ x = y))) ∧
    ∀ (F : MemoFamily) (capacity : Nat) (opTimeout : Duration) (clock : Instant) (m : Memos F),
      F.Faithful → Run (start F capacity opTimeout clock) m →
      ∀ (before : List (MemoEvent F)) (i : Nat) (p : String) (x : s.Val)
        (readAt : Option Instant) (key : Option String) (envelope : Envelope (F.Result p)),
        before ++ [.returned i p (s.describe x) readAt (.ok key envelope)] <+: m.trace →
        envelope.cacheHit = true →
        ∃ j ttl args, MemoEvent.computed j p ttl args (.ok envelope.data) ∈ before ∧
          ∀ y, args = s.describe y → s.blur x = s.blur y ∨ Collide s x y := by
  constructor
  · intro x y c d hc hd
    exact ⟨CallArgs.canonical_eq_iff_blur hs hc hd,
      fun hdefinite hx hy => CallArgs.canonical_eq_iff_eq hs hdefinite hx hy hc hd⟩
  · intro F capacity opTimeout clock m hF hrun before i p x readAt key envelope hstarts hhit
    exact ((sound_start F capacity opTimeout clock).run hF hrun).computed_alike hs hstarts hhit

/-- An optional float: nothing, zero, and a hit of a call with nothing. -/
theorem hits_of_like_arguments_of_nothing :
    (∃ c d, CallArgs.ofDatum ((Shape.optional .double).describe none) = .ok c ∧
      CallArgs.ofDatum ((Shape.optional .double).describe (some (.finite Binary.zero))) = .ok d ∧
      c.canonical ≠ d.canonical) ∧
    ∃ (m : Memos truths) (before : List (MemoEvent truths)) (j : Nat) (ttl : Duration)
      (args : Datum) (data : Bool),
      Run (start truths 1 (.ofSecs 5) 0) m ∧ before <+: m.trace ∧
        MemoEvent.computed j "truth" ttl args (.ok data) ∈ before ∧
          ∀ y, args = (Shape.optional .double).describe y →
            (Shape.optional .double).blur none = (Shape.optional .double).blur y ∨
              Collide (.optional .double) none y := by
  have hdistinct : (Shape.optional .double).Distinct := trivial
  have hdefinite : (Shape.optional .double).Definite := ⟨rfl, trivial⟩
  obtain ⟨htexts, hhits⟩ := hits_of_like_arguments hdistinct
  constructor
  · refine ⟨_, _, rfl, rfl, ?_⟩
    rw [Ne, (htexts none (some (.finite Binary.zero)) _ _ rfl rfl).2 hdefinite trivial rfl]
    exact nofun
  · obtain ⟨m, hrun, -, before, i, readAt, key, envelope, hstarts, hhit⟩ := exists_second_call
    obtain ⟨j, ttl, args, hcomputed, halike⟩ := hhits truths 1 (.ofSecs 5) 0 m faithful_truths hrun
      before i "truth" none readAt key envelope hstarts hhit
    exact ⟨m, before, j, ttl, args, envelope.data, hrun,
      (List.prefix_append ..).trans hstarts, hcomputed, halike⟩

end Memos

/-- **An infinity is not told from nothing**, though an optional float may be either. -/
theorem CallArgs.canonical_of_infinity :
    ∃ (x y : (Shape.optional .double).Val) (c d : CallArgs), x ≠ y ∧
      ofDatum ((Shape.optional .double).describe x) = .ok c ∧
      ofDatum ((Shape.optional .double).describe y) = .ok d ∧ c.canonical = d.canonical :=
  ⟨none, some (.infinite false), _, _, nofun, rfl, rfl, rfl⟩

end DataTier
