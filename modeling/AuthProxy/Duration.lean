/-! # Durations

Spans of time in whole nanoseconds, up to `2^64` seconds. Making a longer one saturates at the
greatest span; scaling by a factor fails instead. `nanos_mul` and `nanos_min` say what the
operations do to the number of nanoseconds.
-/

namespace AuthProxy

namespace Duration

def nanosPerMilli : Nat := 1_000_000

def nanosPerSecond : Nat := 1_000_000_000

/-- All spans are shorter than this number of nanoseconds. -/
def limit : Nat := 18_446_744_073_709_551_616 * nanosPerSecond

end Duration

/-- A span of time, as its number of nanoseconds. -/
structure Duration where
  nanos : Nat
  nanos_lt : nanos < Duration.limit

namespace Duration

theorem ext {d e : Duration} (h : d.nanos = e.nanos) : d = e := by
  cases d; cases e; cases h; rfl

instance : DecidableEq Duration := fun d e =>
  decidable_of_iff (d.nanos = e.nanos) ⟨ext, fun h => h ▸ rfl⟩

instance : Repr Duration := ⟨fun d p => reprPrec d.nanos p⟩

/-- The number of nanoseconds of the greatest span. -/
def greatestNanos : Nat := limit - 1

/-- The span of `n` nanoseconds, or the greatest one. -/
def ofNanos (n : Nat) : Duration :=
  ⟨min n greatestNanos, by unfold greatestNanos limit nanosPerSecond; omega⟩

instance : Inhabited Duration := ⟨ofNanos 0⟩

def ofMillis (n : Nat) : Duration := ofNanos (n * nanosPerMilli)

def ofSeconds (n : Nat) : Duration := ofNanos (n * nanosPerSecond)

/-- The whole seconds. -/
def seconds (d : Duration) : Nat := d.nanos / nanosPerSecond

/-- The nanoseconds beyond the whole seconds. -/
def subsecNanos (d : Duration) : Nat := d.nanos % nanosPerSecond

/-- The span `n` times, or the greatest one. -/
def mul (d : Duration) (n : Nat) : Duration := ofNanos (d.nanos * n)

/-- The shorter span. -/
def min (d e : Duration) : Duration := if d.nanos ≤ e.nanos then d else e

theorem nanos_ofNanos (n : Nat) : (ofNanos n).nanos = Nat.min n greatestNanos := rfl

theorem nanos_mul (d : Duration) (n : Nat) :
    (d.mul n).nanos = Nat.min (d.nanos * n) greatestNanos := rfl

theorem nanos_min (d e : Duration) : (d.min e).nanos = Nat.min d.nanos e.nanos := by
  unfold min
  split
  next h => exact (Nat.min_eq_left h).symm
  next h => exact (Nat.min_eq_right (by omega)).symm

/-- The whole number nearest to `x`; of two that are equally near, the even one. -/
def roundEven (x : Rat) : Int :=
  let below := x.floor
  let rest := x - below
  if rest < 1 / 2 then below
  else if 1 / 2 < rest then below + 1
  else if below % 2 = 0 then below else below + 1

/-- The span scaled by a factor, to the nearest nanosecond, if it is a span at all. -/
def scale? (d : Duration) (factor : Rat) : Option Duration :=
  let n := roundEven (d.nanos * factor)
  if h : 0 ≤ n ∧ n.toNat < limit then some ⟨n.toNat, h.2⟩ else none

/-! ## Text -/

/-- The digits of a fraction of `width` places, without the zeros at its end. -/
def fractionDigits (width fraction : Nat) : String :=
  let digits := (Nat.toDigits 10 fraction)
  let padded := List.replicate (width - digits.length) '0' ++ digits
  String.ofList (padded.reverse.dropWhile (· = '0')).reverse

/-- A number with `width` decimal places and its unit. -/
def decimalText (whole width fraction : Nat) (unit : String) : String :=
  if fraction = 0 then toString whole ++ unit
  else toString whole ++ "." ++ fractionDigits width fraction ++ unit

/-- The span in the greatest unit of which it holds one. -/
def text (d : Duration) : String :=
  let n := d.nanos
  if 1_000_000_000 ≤ n then decimalText (n / 1_000_000_000) 9 (n % 1_000_000_000) "s"
  else if 1_000_000 ≤ n then decimalText (n / 1_000_000) 6 (n % 1_000_000) "ms"
  else if 1_000 ≤ n then decimalText (n / 1_000) 3 (n % 1_000) "µs"
  else decimalText n 0 0 "ns"

example : (ofMillis 2500).text = "2.5s" := by decide +kernel
example : (ofNanos 1050).text = "1.05µs" := by decide +kernel

end Duration

end AuthProxy
