import PartitionRouting.Text.Quoted

/-!
# Durations

A duration is a whole number of nanoseconds.  Sums are exact; what can be *kept*
is bounded by `Duration.limit`, the largest pair of a 64-bit count of seconds and
a count of nanoseconds below one second.

## Main definitions

* `Duration` — a number of nanoseconds, with `secs` and `subsecNanos` as its parts.
* `Duration.ceilMillis` — how long it takes on a clock that shows whole milliseconds.
* `Duration.limit` — the largest duration that can be kept.
* `Duration.text` — the written form in the largest unit that fits.
-/

namespace PartitionRouting

/-- A length of time in nanoseconds. -/
structure Duration where
  /-- The length in nanoseconds. -/
  nanos : Nat
  deriving DecidableEq, Repr, Inhabited

namespace Duration

/-- The empty duration. -/
def zero : Duration := ⟨0⟩

/-- The number of nanoseconds in a second. -/
def nanosPerSec : Nat := 1000000000

/-- A duration of whole milliseconds. -/
def ofMillis (ms : Nat) : Duration := ⟨ms * 1000000⟩

/-- The number of whole milliseconds after which a duration is over. -/
def ceilMillis (d : Duration) : Nat :=
  d.nanos / 1000000 + if d.nanos % 1000000 = 0 then 0 else 1

/-- A duration of seconds and nanoseconds. -/
def ofParts (secs nanos : Nat) : Duration := ⟨secs * nanosPerSec + nanos⟩

/-- The whole seconds of a duration. -/
def secs (d : Duration) : Nat := d.nanos / nanosPerSec

/-- The nanoseconds beyond the whole seconds. -/
def subsecNanos (d : Duration) : Nat := d.nanos % nanosPerSec

/-- The sum of two durations. -/
def add (d e : Duration) : Duration := ⟨d.nanos + e.nanos⟩

instance : Add Duration := ⟨add⟩

/-- The largest duration that can be kept. -/
def limit : Duration := ofParts (UInt64.size - 1) 999999999

/-- Whether `d` can be kept. -/
def fits (d : Duration) : Bool := d.nanos ≤ limit.nanos

@[simp] theorem nanos_add (d e : Duration) : (d + e).nanos = d.nanos + e.nanos := rfl

@[simp] theorem nanos_ofMillis (ms : Nat) : (ofMillis ms).nanos = ms * 1000000 := rfl

theorem ceilMillis_le_iff {d : Duration} {ms : Nat} :
    d.ceilMillis ≤ ms ↔ d.nanos ≤ (ofMillis ms).nanos := by
  rw [ceilMillis, nanos_ofMillis]
  split <;> omega

theorem ceilMillis_pos {d : Duration} (h : 0 < d.nanos) : 0 < d.ceilMillis := by
  rw [← Nat.not_le, ceilMillis_le_iff, nanos_ofMillis]
  omega

@[simp] theorem ceilMillis_ofMillis (ms : Nat) : (ofMillis ms).ceilMillis = ms := by
  rw [ceilMillis, nanos_ofMillis]
  split <;> omega

theorem subsecNanos_lt (d : Duration) : d.subsecNanos < nanosPerSec :=
  Nat.mod_lt _ (by decide)

theorem ofParts_secs_subsecNanos (d : Duration) : ofParts d.secs d.subsecNanos = d := by
  cases d with
  | mk n => simp [ofParts, secs, subsecNanos, Nat.div_add_mod']

/-! ### Written form -/

/-- The digits of `part / 10 ^ width` after the point, without trailing zeros. -/
def fractionDigits (width part : Nat) : List Char :=
  (((Nat.toDigits 10 (Nat.pow 10 width + part)).drop 1).reverse.dropWhile (· = '0')).reverse

/-- The decimal `n / 10 ^ width` without trailing zeros, followed by a unit. -/
def inUnit (n width : Nat) (unit : String) : String :=
  let fraction := fractionDigits width (n % Nat.pow 10 width)
  let point := if fraction.isEmpty then "" else "."
  toString (n / Nat.pow 10 width) ++ point ++ String.ofList fraction ++ unit

/-- The written form: a decimal in the largest of the units second, millisecond,
microsecond and nanosecond that the duration fills at least once; `0ns` if it fills
none. -/
def text (d : Duration) : String :=
  if Nat.pow 10 9 ≤ d.nanos then inUnit d.nanos 9 "s"
  else if Nat.pow 10 6 ≤ d.nanos then inUnit d.nanos 6 "ms"
  else if Nat.pow 10 3 ≤ d.nanos then inUnit d.nanos 3 "µs"
  else inUnit d.nanos 0 "ns"

end Duration
end PartitionRouting
