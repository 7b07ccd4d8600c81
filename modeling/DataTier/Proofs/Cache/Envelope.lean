/-
**Envelopes survive their text.**

The reader of an envelope takes its fields in any order and among others, or all four in an array,
and the source in two spellings; the writer has one text for an envelope.  Whatever text was read,
writing the envelope and reading that text gives the envelope again.  What is asked of its data is
that they are written as a JSON value, and read wherever that value is.

Main definitions:

* `DataTier.Codec.Basic` — the basic types of data, with the JSON value that each is written as;
* `DataTier.Codec.Images` — data are written as a JSON value and read back from its text;
* `DataTier.Envelope.toJson` — the JSON value that an envelope is written as.

Main results:

* `DataTier.Codec.Basic.images` — the basic types of data are written and read so;
* `DataTier.Envelope.write_eq`, `DataTier.Envelope.read_toJson` — so are their envelopes;
* `DataTier.Envelope.data_of_read` — what the data of an envelope are like that was read;
* `DataTier.Envelope.survives_text` — **envelopes survive their text, and any text they had**.
-/

import DataTier.Cache.Envelope
import DataTier.Proofs.Json.Typed

set_option relaxedAutoImplicit false
set_option autoImplicit false

namespace DataTier

open Json (Input Delimited ReadBack whole)

/-! ### Data -/

namespace Codec

variable {R : Type}

/-- The JSON value of an optional integer. -/
def imageOfInteger : Option Int64 → Json
  | none => .null
  | some n => (Json.Number.ofInt? n.toInt).elim .null .number

/-- The basic types of data, with the JSON value that each is written as. -/
inductive Basic : {R : Type} → Codec R → (R → Json) → Prop where
  /-- Any JSON value. -/
  | value : Basic value id
  /-- A natural number of 64 bits. -/
  | word : Basic word fun n => .number (.natural n)
  /-- An integer of 64 bits, or nothing. -/
  | optionalInteger : Basic optionalInteger imageOfInteger
  /-- A text. -/
  | text : Basic text .string

/-- Data are written as a JSON value, and read back from the text of that value.  All that is read
is of this kind. -/
structure Images (c : Codec R) (image : R → Json) : Prop where
  write_eq : ∀ r, c.write r = .ok (image r).chars
  read_image : ∀ {r : R} {d : Nat} {rest : List Char}, (image r).InOrder →
    ReadBack (image r).reals → (image r).depth ≤ d → Delimited rest →
    c.reader d (whole ((image r).write rest)) = some (r, whole rest)
  of_read : ∀ {r : R} {d : Nat} {s s' : Input}, c.reader d s = some (r, s') →
    (image r).InOrder ∧ (image r).depth ≤ d
  of_absent : ∀ {r : R}, c.absent = some r → (image r).InOrder ∧ (image r).depth = 0

theorem images_value : value.Images id where
  write_eq _ := rfl
  read_image hr hreals hdepth hrest :=
    (Json.read_write _ hr hreals hrest).trans (if_pos hdepth)
  of_read h := Json.inOrder_of_read h
  of_absent h := absurd h nofun

theorem images_word : word.Images fun n => .number (.natural n) where
  write_eq n := congrArg Except.ok (List.append_nil _).symm
  read_image {n d rest} _ _ _ hrest := by
    have hread := (Json.Number.readsBack_of_integer (n := .natural n) nofun).readNumber hrest d
    exact Json.Reader.filterMap_eq_some_iff.2 ⟨_, hread, rfl⟩
  of_read _ := ⟨trivial, Nat.zero_le _⟩
  of_absent h := absurd h nofun

/-- Every integer of 64 bits is a number with its text, which is taken as the integer again. -/
theorem exists_number (n : Int64) : ∃ number, Json.Number.ofInt? n.toInt = some number ∧
    number.chars = Json.integerChars n.toInt ∧ number.ReadsBack ∧
    ∀ d s s', Json.readNumber d s = some (number, s') → Json.readInteger d s = some (n, s') := by
  have hback : Int64.ofInt n.toInt = n := Int64.ofInt_toInt n
  have hlow := n.le_toInt
  have hhigh := n.toInt_lt
  cases hn : n.toInt with
  | ofNat m =>
      rw [hn] at hback hlow hhigh
      have hm : m < Word.signedSize := Int.ofNat_lt.1 hhigh
      have hword : (UInt64.ofNat m).toNat = m :=
        UInt64.toNat_ofNat_of_lt' (Nat.lt_trans hm (by decide))
      refine ⟨.natural (UInt64.ofNat m), if_pos (Nat.lt_trans hm (by decide)), ?_,
        Json.Number.readsBack_of_integer nofun, fun d s s' h => ?_⟩
      · rw [Json.Number.chars, hword]
        rfl
      · refine Json.Reader.filterMap_eq_some_iff.2 ⟨_, h, ?_⟩
        simp only [hword, if_pos hm]
        exact congrArg some hback
  | negSucc m =>
      rw [hn] at hback hlow hhigh
      have hm : m < Word.signedSize := by
        simp only [Word.signedSize]
        omega
      refine ⟨.negSucc ⟨m, hm⟩, dif_pos hm, rfl, Json.Number.readsBack_of_integer nofun,
        fun d s s' h => ?_⟩
      exact Json.Reader.filterMap_eq_some_iff.2 ⟨_, h, congrArg some hback⟩

theorem images_optionalInteger : optionalInteger.Images imageOfInteger where
  write_eq
    | none => rfl
    | some n => by
      obtain ⟨number, hnumber, hchars, -⟩ := exists_number n
      rw [imageOfInteger, hnumber, Option.elim_some, Json.chars, Json.write, List.append_nil,
        hchars]
      rfl
  read_image {r d rest} _ _ _ hrest := by
    cases r with
    | none => rfl
    | some n =>
        obtain ⟨number, hnumber, -, hback, hread⟩ := exists_number n
        rw [imageOfInteger, hnumber, Option.elim_some, Json.write]
        exact Json.readOptional_number (hread d _ _ (hback.readNumber hrest d))
  of_read {r d _ _} _ := by
    cases r with
    | none => exact ⟨trivial, Nat.zero_le d⟩
    | some n =>
        obtain ⟨number, hnumber, -⟩ := exists_number n
        rw [imageOfInteger, hnumber]
        exact ⟨trivial, Nat.zero_le d⟩
  of_absent {r} h := by
    obtain rfl := Option.some.inj h
    exact ⟨trivial, rfl⟩

theorem images_text : text.Images .string where
  write_eq _ := rfl
  read_image {s _ rest} _ _ _ _ := Json.readStringBody_spelled s rest
  of_read _ := ⟨trivial, Nat.zero_le _⟩
  of_absent h := absurd h nofun

/-- **The basic types of data are written as JSON values** and read wherever these are. -/
theorem Basic.images {c : Codec R} {image : R → Json} (h : c.Basic image) : c.Images image := by
  cases h with
  | value => exact images_value
  | word => exact images_word
  | optionalInteger => exact images_optionalInteger
  | text => exact images_text

end Codec

/-! ### Envelopes -/

namespace Envelope

variable {R : Type} {c : Codec R} {image : R → Json}

/-- The JSON value that an envelope is written as, given that of its data. -/
def toJson (image : R → Json) (e : Envelope R) : Json :=
  .object [("data", image e.data), ("cache_hit", .bool e.cacheHit),
    ("cache_time_ms", .number (.real e.cacheTimeMs)), ("source", .string e.source.name)]

/-- **An envelope is written as its JSON value.** -/
theorem write_eq (hc : c.Images image) (e : Envelope R) :
    e.write c = .ok (e.toJson image).chars := by
  rw [Envelope.write, hc.write_eq]
  refine congrArg Except.ok ?_
  show _ = Json.write (e.toJson image) []
  simp only [Datum.enclose, List.flatMap_cons, List.flatMap_nil, Json.quote_append,
    List.cons_append, List.append_assoc, List.nil_append, List.append_nil, toJson, Json.write,
    Json.writeMembers, Json.write_eq_append (image e.data),
    Json.write_eq_append (.bool e.cacheHit), Json.Number.chars]

theorem depth_toJson (image : R → Json) (e : Envelope R) :
    (e.toJson image).depth = (image e.data).depth + 1 := by
  simp only [Envelope.toJson, Json.depth, Json.depthOfMembers, Nat.max_zero]

theorem readBack_toJson {e : Envelope R} (h : ReadBack (e.toJson image).reals) :
    ReadBack (image e.data).reals ∧ (Json.Number.real e.cacheTimeMs).ReadsBack := by
  obtain ⟨hdata, htime⟩ := Json.readBack_append.1 h
  exact ⟨hdata, htime _ List.mem_cons_self⟩

/-! ### Reading an envelope -/

/-- What the fields of an envelope are read as. -/
theorem readField_toJson (hc : c.Images image) {e : Envelope R} {d : Nat} {rest : List Char}
    (hdata : (image e.data).InOrder) (hdepth : (image e.data).depth ≤ d)
    (hreals : ReadBack (e.toJson image).reals) (hrest : Delimited rest) :
    let field := Json.readField fieldNames fun name => readField c name d
    field "data" (whole ((image e.data).write rest)) = some (some (.data e.data), whole rest) ∧
    field "cache_hit" (whole (Json.write (.bool e.cacheHit) rest)) =
      some (some (.cacheHit e.cacheHit), whole rest) ∧
    field "cache_time_ms" (whole (Json.write (.number (.real e.cacheTimeMs)) rest)) =
      some (some (.cacheTimeMs e.cacheTimeMs), whole rest) ∧
    field "source" (whole (Json.write (.string e.source.name) rest)) =
      some (some (.source e.source), whole rest) := by
  intro field
  have hfield : ∀ name s x s', name ∈ fieldNames → readField c name d s = some (x, s') →
      field name s = some (some x, s') := by
    intro name s x s' hname hread
    simp only [field, Json.readField, if_pos hname, hread, Option.map_some]
  obtain ⟨hdataReals, htime⟩ := readBack_toJson hreals
  refine ⟨hfield _ _ _ _ (by decide) ?_, hfield _ _ _ _ (by decide) ?_,
    hfield _ _ _ _ (by decide) ?_, hfield _ _ _ _ (by decide) ?_⟩
  · exact Json.Reader.filterMap_eq_some_iff.2
      ⟨_, hc.read_image hdata hdataReals hdepth hrest, rfl⟩
  · refine Json.Reader.filterMap_eq_some_iff.2 ⟨e.cacheHit, ?_, rfl⟩
    cases e.cacheHit <;> rfl
  · exact Json.Reader.filterMap_eq_some_iff.2
      ⟨_, Json.Reader.filterMap_eq_some_iff.2 ⟨_, htime.readNumber hrest d, rfl⟩, rfl⟩
  · refine Json.Reader.filterMap_eq_some_iff.2 ⟨e.source.name, ?_, ?_⟩
    · refine Json.readVariant_quote ?_ d rest
      cases e.source <;> decide
    · rw [Source.ofName?_name]
      rfl

/-- The fields of an envelope with their names. -/
def fields (e : Envelope R) : List (String × Field R) :=
  [("data", .data e.data), ("cache_hit", .cacheHit e.cacheHit),
    ("cache_time_ms", .cacheTimeMs e.cacheTimeMs), ("source", .source e.source)]

/-- Each of the fields is there once. -/
theorem knownFields_fields (e : Envelope R) :
    Json.knownFields (e.fields.map fun field => (field.1, some field.2)) = some e.fields := by
  have hnodup : (e.fields.map Prod.fst).Nodup := by
    show ["data", "cache_hit", "cache_time_ms", "source"].Nodup
    decide
  unfold Json.knownFields
  exact if_pos hnodup

/-- **An envelope is read back from the text of its JSON value.** -/
theorem read_toJson (hc : c.Images image) {e : Envelope R} {d : Nat}
    (hdata : (image e.data).InOrder) (hdepth : (image e.data).depth ≤ d)
    (hreals : ReadBack (e.toJson image).reals) :
    (codec c).reader (d + 1) (whole (e.toJson image).chars) = some (e, []) := by
  let value := Json.readField fieldNames fun name => readField c name d
  -- The text that is left after each of the fields.
  let afterSource : List Char := ['}']
  let afterTime := ',' :: Json.quote "source"
    (':' :: Json.write (.string e.source.name) afterSource)
  let afterHit := ',' :: Json.quote "cache_time_ms"
    (':' :: Json.write (.number (.real e.cacheTimeMs)) afterTime)
  let afterData := ',' :: Json.quote "cache_hit" (':' :: Json.write (.bool e.cacheHit) afterHit)
  let text := Json.quote "data" (':' :: (image e.data).write afterData)
  have hsource := (readField_toJson hc hdata hdepth hreals
    (Json.delimited_cons (.inr (.inr rfl)) [])).2.2.2
  have htime := (readField_toJson hc hdata hdepth hreals
    (Json.delimited_cons (.inl rfl) afterTime.tail)).2.2.1
  have hhit := (readField_toJson hc hdata hdepth hreals
    (Json.delimited_cons (.inl rfl) afterHit.tail)).2.1
  have hvalue := (readField_toJson hc hdata hdepth hreals
    (Json.delimited_cons (.inl rfl) afterData.tail)).1
  -- The first name alone has as many characters as there are fields.
  obtain ⟨fuel, hfuel⟩ : ∃ fuel, (whole text).length = fuel + 1 + 1 + 1 + 1 := ⟨_, rfl⟩
  have hend : Json.readMore '}' (Json.readMember value) (fuel + 1) (whole afterSource) =
      some ([], []) := rfl
  have hmembers := Json.readCons_member hvalue (Json.readMore_member hhit
    (Json.readMore_member htime (Json.readMore_member hsource hend)))
  have hbody : Json.readSeparated '}' (Json.readMember value) (whole text) =
      some (e.fields.map fun field => (field.1, some field.2), []) := by
    rw [Json.readSeparated_of_open (Json.skipWord_closing_quote _ _), hfuel]
    exact hmembers
  refine Json.Reader.filterMap_eq_some_iff.2 ⟨e.fields, ?_, rfl⟩
  show (do
    let (members, s) ← Json.readSeparated '}' (Json.readMember value) (whole text)
    let known ← Json.knownFields members
    return (known, s)) = _
  rw [hbody]
  simp only [Option.bind_eq_bind, Option.bind_some, knownFields_fields]
  rfl

/-! ### Envelopes that were read -/

/-- The data of a field that was read. -/
theorem data_of_readField (hc : c.Images image) {name : String} {d : Nat} {s s' : Input}
    {field : Field R} {r : R} (h : readField c name d s = some (field, s'))
    (hr : field.data? = some r) : (image r).InOrder ∧ (image r).depth ≤ d := by
  unfold readField at h
  split at h
  · obtain ⟨r', hread, heq⟩ := Json.Reader.filterMap_eq_some_iff.1 h
    obtain rfl := Option.some.inj heq
    obtain rfl := Option.some.inj hr
    exact hc.of_read hread
  · obtain ⟨_, -, heq⟩ := Json.Reader.filterMap_eq_some_iff.1 h
    obtain rfl := Option.some.inj heq
    cases hr
  · obtain ⟨_, -, heq⟩ := Json.Reader.filterMap_eq_some_iff.1 h
    obtain rfl := Option.some.inj heq
    cases hr
  · obtain ⟨_, -, heq⟩ := Json.Reader.filterMap_eq_some_iff.1 h
    obtain ⟨_, -, rfl⟩ := Option.map_eq_some_iff.1 heq
    cases hr
  · cases h

/-- Where the data of an envelope come from. -/
theorem data_of_fields {fields : List (String × Field R)} {e : Envelope R}
    (h : ofFields? c fields = some e) :
    (∃ field, ("data", field) ∈ fields ∧ field.data? = some e.data) ∨
      c.absent = some e.data := by
  have hrest : ∀ data : R, (do
      let cacheHit ← (fields.lookup "cache_hit").bind Field.cacheHit?
      let cacheTimeMs ← (fields.lookup "cache_time_ms").bind Field.cacheTimeMs?
      let source ← (fields.lookup "source").bind Field.source?
      return Envelope.mk data cacheHit cacheTimeMs source) = some e → e.data = data := by
    intro data he
    obtain ⟨cacheHit, -, he⟩ := Option.bind_eq_some_iff.1 he
    obtain ⟨cacheTimeMs, -, he⟩ := Option.bind_eq_some_iff.1 he
    obtain ⟨source, -, he⟩ := Option.bind_eq_some_iff.1 he
    exact (Option.some.inj he) ▸ rfl
  rw [ofFields?] at h
  split at h
  · next field hfield =>
    obtain ⟨data, hdata, he⟩ := Option.bind_eq_some_iff.1 h
    obtain ⟨before, after, hsplit, -⟩ := List.lookup_eq_some_iff.1 hfield
    refine .inl ⟨field, ?_, hrest data he ▸ hdata⟩
    rw [hsplit]
    exact List.mem_append_right _ List.mem_cons_self
  · obtain ⟨data, hdata, he⟩ := Option.bind_eq_some_iff.1 h
    exact .inr (hrest data he ▸ hdata)

/-- **The data of an envelope that was read** are in order and nest less deep than the envelope
was allowed to. -/
theorem data_of_read (hc : c.Images image) {d : Nat} {s s' : Input} {e : Envelope R}
    (h : (codec c).reader (d + 1) s = some (e, s')) :
    (image e.data).InOrder ∧ (image e.data).depth ≤ d := by
  obtain ⟨fields, hfields, he⟩ := Json.Reader.filterMap_eq_some_iff.1 h
  have hall := Json.forall_of_readRecord
    (p := fun field : Field R => ∀ r, field.data? = some r →
      (image r).InOrder ∧ (image r).depth ≤ d)
    (fun _ _ _ _ hread r hr => data_of_readField hc hread hr) hfields
  rcases data_of_fields he with ⟨field, hmem, hdata⟩ | habsent
  · exact hall _ hmem _ hdata
  · obtain ⟨hinOrder, hflat⟩ := hc.of_absent habsent
    exact ⟨hinOrder, by omega⟩

/-- **Envelopes survive their text, and any text they had.**  An envelope of basic data whose
floating-point numbers read back is written as its JSON value.  If that nests at most 127 deep, its
bytes are decoded as the envelope.  The same holds of every envelope that any bytes are decoded as,
and what is written of the envelope decoded a second time are the same bytes. -/
theorem survives_text (hc : c.Basic image) (e : Envelope R)
    (hreals : ReadBack (e.toJson image).reals) :
    (codec c).encode e = .ok (e.toJson image).bytes ∧
    ((image e.data).InOrder → (e.toJson image).depth ≤ 127 →
      (codec c).decode? (e.toJson image).bytes = some e) ∧
    (∀ input, (codec c).decode? input = some e →
      (codec c).decode? (e.toJson image).bytes = some e ∧
      ∀ e', (codec c).decode? (e.toJson image).bytes = some e' →
        (codec c).encode e' = .ok (e.toJson image).bytes) := by
  have hencode : (codec c).encode e = .ok (e.toJson image).bytes := by
    have hwrite : (codec c).write e = .ok (e.toJson image).chars := write_eq hc.images e
    rw [Codec.encode, hwrite]
    rfl
  have hdecode : (image e.data).InOrder → (e.toJson image).depth ≤ 127 →
      (codec c).decode? (e.toJson image).bytes = some e := by
    intro hdata hdepth
    rw [depth_toJson] at hdepth
    rw [Codec.decode?, Json.Reader.decode?, Json.bytes, Utf8.units_encode]
    exact Json.finish?_of_read
      (read_toJson hc.images hdata (Nat.le_of_succ_le_succ hdepth) hreals)
  refine ⟨hencode, hdecode, fun input hinput => ?_⟩
  -- What was read is in order and nests no deeper than a text may.
  have hagain : (codec c).decode? (e.toJson image).bytes = some e := by
    rw [Codec.decode?, Json.Reader.decode?, Json.Reader.finish?] at hinput
    split at hinput
    · next e' s hread =>
      split at hinput
      · obtain rfl := Option.some.inj hinput
        obtain ⟨hdata, hdepth⟩ := data_of_read hc.images hread
        exact hdecode hdata (by rw [depth_toJson]; exact Nat.succ_le_succ hdepth)
      · cases hinput
    · cases hinput
  refine ⟨hagain, fun e' he' => ?_⟩
  rw [hagain] at he'
  obtain rfl := Option.some.inj he'
  exact hencode

/-- Fields out of order, one that is unknown, the source as an object, and no data. -/
def scattered : Bytes := Utf8.ofString
  ("\x7b\"source\":\x7b\"cache\":null\x7d,\"x\":[1],\"cache_time_ms\":5e-1," ++
    "\"cache_hit\":false\x7d")

/-- Scattered fields without data: what was read of them is read again from its own text. -/
theorem survives_text_of_missing_data :
    let e : Envelope (Option Int64) := ⟨none, false, Json.Number.half, .cache⟩
    (codec .optionalInteger).decode? scattered = some e ∧
      (codec .optionalInteger).decode? (e.toJson Codec.imageOfInteger).bytes = some e := by
  intro e
  have hreals : ReadBack (e.toJson Codec.imageOfInteger).reals := by
    intro x hx
    obtain rfl : x = Json.Number.half := List.mem_singleton.1 hx
    exact Json.Number.readsBack_half
  have hinput : (codec .optionalInteger).decode? scattered = some e := by decide +kernel
  exact ⟨hinput, ((survives_text .optionalInteger e hreals).2.2 _ hinput).1⟩

end Envelope

end DataTier
