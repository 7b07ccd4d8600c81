/-
**The envelope of a memoized result**: the data, and how they were obtained.

Main definitions:

* `DataTier.Source` — from the cache, or computed;
* `DataTier.Envelope` — the data with their provenance;
* `DataTier.Envelope.codec` — the envelope as JSON text, for any codec of its data.
-/

import DataTier.Cache.Codec

set_option relaxedAutoImplicit false
set_option autoImplicit false

namespace DataTier

/-- Where data came from. -/
inductive Source where
  /-- They were stored. -/
  | cache
  /-- They were computed for this call. -/
  | computed
  deriving DecidableEq

/-- The name of a source in JSON. -/
def Source.name : Source → String
  | .cache => "cache"
  | .computed => "computed"

/-- The source of a name. -/
def Source.ofName? : String → Option Source
  | "cache" => some .cache
  | "computed" => some .computed
  | _ => none

@[simp] theorem Source.ofName?_name (s : Source) : Source.ofName? s.name = some s := by
  cases s <;> rfl

/-- Data, and how they were obtained. -/
structure Envelope (R : Type) where
  /-- The data. -/
  data : R
  /-- Whether the cache had them. -/
  cacheHit : Bool
  /-- How long the lookup took, in milliseconds. -/
  cacheTimeMs : Double
  /-- Where the data came from. -/
  source : Source
  deriving DecidableEq

namespace Envelope

variable {R : Type}

/-- Data from the cache. -/
def hit (data : R) (cacheTimeMs : Double) : Envelope R := ⟨data, true, cacheTimeMs, .cache⟩

/-- Data computed for this call. -/
def computed (data : R) (cacheTimeMs : Double) : Envelope R :=
  ⟨data, false, cacheTimeMs, .computed⟩

/-- The names of the fields, in their order. -/
def fieldNames : List String := ["data", "cache_hit", "cache_time_ms", "source"]

/-- The value of one field. -/
inductive Field (R : Type) where
  /-- The data. -/
  | data (r : R)
  /-- Whether the cache had them. -/
  | cacheHit (b : Bool)
  /-- How long the lookup took. -/
  | cacheTimeMs (x : Double)
  /-- Where the data came from. -/
  | source (s : Source)

/-- The data of a field. -/
def Field.data? : Field R → Option R
  | .data r => some r
  | _ => none

/-- The truth value of a field. -/
def Field.cacheHit? : Field R → Option Bool
  | .cacheHit b => some b
  | _ => none

/-- The number of a field. -/
def Field.cacheTimeMs? : Field R → Option Double
  | .cacheTimeMs x => some x
  | _ => none

/-- The source of a field. -/
def Field.source? : Field R → Option Source
  | .source s => some s
  | _ => none

/-- Reads the field of a name. -/
def readField (c : Codec R) : String → Json.Reader (Field R)
  | "data" => c.reader.filterMap (some ∘ .data)
  | "cache_hit" => Json.readBool.filterMap (some ∘ .cacheHit)
  | "cache_time_ms" => Json.readReal.filterMap (some ∘ .cacheTimeMs)
  | "source" =>
    (Json.readVariant [Source.cache.name, Source.computed.name]).filterMap fun name =>
      (Source.ofName? name).map .source
  | _ => fun _ _ => none

/-- The envelope of its fields; only the data may be missing, if the codec allows it. -/
def ofFields? (c : Codec R) (fields : List (String × Field R)) : Option (Envelope R) := do
  let data ← match fields.lookup "data" with
    | some field => field.data?
    | none => c.absent
  let cacheHit ← (fields.lookup "cache_hit").bind Field.cacheHit?
  let cacheTimeMs ← (fields.lookup "cache_time_ms").bind Field.cacheTimeMs?
  let source ← (fields.lookup "source").bind Field.source?
  return ⟨data, cacheHit, cacheTimeMs, source⟩

/-- The text of an envelope, its fields in order. -/
def write (c : Codec R) (e : Envelope R) : Except Datum.Fault (List Char) := do
  let data ← c.write e.data
  return Datum.enclose '{' '}'
    [Json.quote "data" (':' :: data),
      Json.quote "cache_hit" (':' :: Json.chars (.bool e.cacheHit)),
      Json.quote "cache_time_ms" (':' :: e.cacheTimeMs.chars),
      Json.quote "source" (':' :: Json.quote e.source.name [])]

/-- Envelopes as JSON text. -/
def codec (c : Codec R) : Codec (Envelope R) where
  write := write c
  reader := (Json.readRecord fieldNames (readField c)).filterMap (ofFields? c)

end Envelope

end DataTier
