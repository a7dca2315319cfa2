import AuthProxy.Duration
import AuthProxy.SortedMap

/-! # Backoff

Delays that double with every failure of the same key up to a greatest delay, and a jitter that
spreads them from half to one and a half times as long. Failures are counted per key and forgotten
together.
-/

namespace AuthProxy

namespace Backoff

/-- Failures are counted up to this number. -/
def greatestCount : Nat := 4_294_967_295

/-- What the base delay is multiplied by at an attempt, counted from one. -/
def factor (attempt : Nat) : Nat :=
  if attempt - 1 < 32 then Nat.pow 2 (attempt - 1) else 4_294_967_295

/-- The delay before jitter: it doubles with each attempt and does not exceed `max`. -/
def doublingDelay (base max : Duration) (attempt : Nat) : Duration :=
  (base.mul (factor attempt)).min max

end Backoff

/-- The delays in use and the failures of each key. -/
structure Backoff where
  base : Duration
  max : Duration
  failures : StringMap Nat := .empty
deriving DecidableEq, Repr, Inhabited

namespace Backoff

/-- How often `key` failed since it was last forgotten. -/
def count (b : Backoff) (key : String) : Nat := (b.failures.get? key).getD 0

/-- Counts one more failure of `key`. -/
def fail (b : Backoff) (key : String) : Backoff :=
  { b with failures := b.failures.insert key (Nat.min (b.count key + 1) greatestCount) }

/-- Forgets the failures of `key`. -/
def forget (b : Backoff) (key : String) : Backoff := { b with failures := b.failures.erase key }

/-- The delay of the failures of `key` so far, before jitter. -/
def delay (b : Backoff) (key : String) : Duration :=
  doublingDelay b.base b.max (b.count key)

/-- The delay scaled by a jitter, again at most the greatest delay. There is none if the scaled
delay is no span of time. -/
def jittered? (b : Backoff) (key : String) (jitter : Rat) : Option Duration :=
  ((b.delay key).scale? jitter).map (·.min b.max)

/-- Counts a failure of `key` and returns how long to wait before the next attempt. -/
def next (b : Backoff) (key : String) (jitter : Rat) : Option Duration × Backoff :=
  let b := b.fail key
  (b.jittered? key jitter, b)

/-- Whether a delay lies from half to one and a half times the delay before jitter, and does not
exceed the greatest delay. -/
def InBounds (b : Backoff) (key : String) (d : Duration) : Prop :=
  (b.delay key).nanos ≤ 2 * d.nanos ∧ 2 * d.nanos ≤ 3 * (b.delay key).nanos ∧
    d.nanos ≤ b.max.nanos

instance (b : Backoff) (key : String) (d : Duration) : Decidable (b.InBounds key d) := by
  unfold InBounds; infer_instance

/-- Counting a failure of one key adds one to its own number and leaves the others. -/
theorem count_fail (b : Backoff) (key other : String) :
    (b.fail key).count other =
      if other = key then Nat.min (b.count key + 1) greatestCount else b.count other := by
  simp only [count, fail, SortedMap.get?_insert, Std.LawfulEqCmp.compare_eq_iff_eq]
  split <;> simp_all

/-- Forgetting one key leaves the others. -/
theorem count_forget (b : Backoff) (key other : String) :
    (b.forget key).count other = if other = key then 0 else b.count other := by
  simp only [count, forget, SortedMap.get?_erase, Std.LawfulEqCmp.compare_eq_iff_eq]
  split <;> simp

end Backoff

end AuthProxy
