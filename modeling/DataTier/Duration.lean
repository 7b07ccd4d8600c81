/-
Spans of time and the readings of a monotonic clock.

A span is a whole number of nanoseconds whose seconds fit a word of 64 bits.  A clock reading is a
number of nanoseconds whose seconds have to fit such a word with a sign, so a span may be too long
to be added to a reading: `Instant.after?` then has no answer, and whoever waits for that moment
has to say what happens.

Main definitions:

* `DataTier.Duration` — a span of time, with `Duration.text`, its shortest spelling in one unit;
* `DataTier.Duration.double` — twice a span, or the longest one;
* `DataTier.Instant.after?` — the reading a span after another one, when the clock has it.
-/

import DataTier.Text.Chars
import DataTier.Word

set_option relaxedAutoImplicit false
set_option autoImplicit false

namespace DataTier

/-- The nanoseconds of a second. -/
abbrev nanosPerSecond : Nat := 1000000000

/-- The nanoseconds of a millisecond. -/
abbrev nanosPerMilli : Nat := 1000000

/-- The nanoseconds of a microsecond. -/
abbrev nanosPerMicro : Nat := 1000

/-- A span of time in nanoseconds. -/
structure Duration where
  /-- The whole span in nanoseconds. -/
  nanos : Nat
  /-- The seconds of a span fit a word of 64 bits. -/
  nanos_lt : nanos < Word.size * nanosPerSecond
  deriving DecidableEq

namespace Duration

/-- The longest span: one nanosecond more has too many seconds for a word. -/
def longest : Duration := ⟨Word.size * nanosPerSecond - 1, by decide⟩

/-- The span of `n` nanoseconds, or the longest one when there are too many. -/
def ofNanos (n : Nat) : Duration :=
  if h : n < Word.size * nanosPerSecond then ⟨n, h⟩ else longest

theorem nanos_ofNanos {n : Nat} (h : n < Word.size * nanosPerSecond) :
    (ofNanos n).nanos = n := by
  rw [ofNanos, dif_pos h]

/-- The span of `n` milliseconds. -/
def ofMillis (n : Nat) : Duration := ofNanos (n * nanosPerMilli)

/-- The span of `n` seconds. -/
def ofSecs (n : Nat) : Duration := ofNanos (n * nanosPerSecond)

/-- The whole seconds of a span. -/
def secs (d : Duration) : Nat := d.nanos / nanosPerSecond

/-- The nanoseconds that a span has beyond its whole seconds. -/
def subsecNanos (d : Duration) : Nat := d.nanos % nanosPerSecond

/-- The whole milliseconds of a span, cut down to a word of 64 bits. -/
def millisWord (d : Duration) : Nat := d.nanos / nanosPerMilli % Word.size

theorem secs_lt (d : Duration) : d.secs < Word.size := by
  have := d.nanos_lt
  simp only [secs, Word.size, nanosPerSecond] at *
  omega

theorem nanos_eq (d : Duration) : d.nanos = d.secs * nanosPerSecond + d.subsecNanos := by
  simp only [secs, subsecNanos, nanosPerSecond]
  omega

/-- Twice a span, or the longest span when that is too long. -/
def double (d : Duration) : Duration := ofNanos (d.nanos * 2)

/-! ### The text of a span -/

/-- The digits of a fraction of `width` places, without the zeros at its end. -/
def fractionDigits (width fraction : Nat) : List Char :=
  let digits := Nat.toDigits 10 fraction
  let padded := List.replicate (width - digits.length) '0' ++ digits
  Chars.trimEnd (· == '0') padded

/-- A number with `width` decimal places in hand: no point when the fraction is zero. -/
def pointText (whole width fraction : Nat) : String :=
  if fraction = 0 then toString whole
  else toString whole ++ "." ++ String.ofList (fractionDigits width fraction)

/-- The spelling of a span: the largest of the units s, ms, µs and ns that is not above it, all
its digits, and no zeros at the end of the fraction. -/
def text (d : Duration) : String :=
  let inUnit (nanos width : Nat) (name : String) : String :=
    pointText (d.nanos / nanos) width (d.nanos % nanos) ++ name
  if nanosPerSecond ≤ d.nanos then inUnit nanosPerSecond 9 "s"
  else if nanosPerMilli ≤ d.nanos then inUnit nanosPerMilli 6 "ms"
  else if nanosPerMicro ≤ d.nanos then inUnit nanosPerMicro 3 "µs"
  else inUnit 1 0 "ns"

end Duration

/-! ### Clock readings -/

/-- A reading of the monotonic clock, in nanoseconds since it was started. -/
abbrev Instant := Nat

namespace Instant

/-- The first moment that the clock cannot show: its seconds are a signed word of 64 bits. -/
def limit : Nat := Word.signedSize * nanosPerSecond

/-- The reading `d` after `t`, or none when the clock cannot show that moment. -/
def after? (t : Instant) (d : Duration) : Option Instant :=
  if t + d.nanos < limit then some (t + d.nanos) else none

theorem after?_eq_some_iff {t : Instant} {d : Duration} {u : Instant} :
    after? t d = some u ↔ t + d.nanos < limit ∧ t + d.nanos = u := by
  simp [after?]

theorem after?_eq_none_iff {t : Instant} {d : Duration} :
    after? t d = none ↔ limit ≤ t + d.nanos := by
  simp [after?]

/-- What is reported when a moment lies beyond the clock. -/
def overflowMessage : String := "overflow when adding duration to instant"

end Instant

end DataTier
