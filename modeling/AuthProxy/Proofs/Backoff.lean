import AuthProxy.Backoff
import AuthProxy.Proofs.Settings

/-! # How long the backoff waits

The delay before jitter is the base doubled with each attempt, in exact arithmetic
(`Backoff.nanos_doublingDelay`): the saturating product never shows, and the saturating factor only
after 32 attempts. A jitter scales the delay by up to one and a half before the greatest delay is
applied again, so what is scaled may be no span of time (`Backoff.drawsSafely_iff`). Under loaded
settings that happens if and only if the delays reach two thirds of the range of spans.
-/

namespace AuthProxy

namespace Backoff

variable {base max : Duration} {attempt : Nat}

/-! ## Before jitter -/

theorem factor_eq (attempt : Nat) : factor attempt = min (2 ^ (attempt - 1)) (2 ^ 32 - 1) := by
  rw [factor]
  split
  next h =>
    have hpow : 2 ^ (attempt - 1) ≤ 2 ^ 31 := Nat.pow_le_pow_right (by decide) (by omega)
    rw [Nat.pow_eq]
    omega
  next h =>
    have hpow : 2 ^ 32 ≤ 2 ^ (attempt - 1) := Nat.pow_le_pow_right (by decide) (by omega)
    omega

theorem factor_mono {m n : Nat} (h : m ≤ n) : factor m ≤ factor n := by
  have hpow : 2 ^ (m - 1) ≤ 2 ^ (n - 1) := Nat.pow_le_pow_right (by decide) (by omega)
  rw [factor_eq, factor_eq]
  omega

theorem factor_le (attempt : Nat) : factor attempt ≤ 2 ^ 32 - 1 := by
  rw [factor_eq]
  omega

/-- The product may saturate, but then the greatest delay is less. -/
theorem nanos_doublingDelay :
    (doublingDelay base max attempt).nanos = min max.nanos (base.nanos * factor attempt) := by
  have hmax : max.nanos ≤ Duration.greatestNanos := Nat.le_sub_one_of_lt max.nanos_lt
  rw [doublingDelay, Duration.nanos_min, Duration.nanos_mul]
  show min (min _ _) _ = _
  omega

theorem doublingDelay_mono {base' max' : Duration} {attempt' : Nat}
    (hbase : base.nanos ≤ base'.nanos) (hmax : max.nanos ≤ max'.nanos)
    (hattempt : attempt ≤ attempt') :
    (doublingDelay base max attempt).nanos ≤ (doublingDelay base' max' attempt').nanos := by
  have hproduct := Nat.mul_le_mul hbase (factor_mono hattempt)
  rw [nanos_doublingDelay, nanos_doublingDelay]
  omega

/-- Below the greatest factor the delay doubles, and so it does if the greatest delay is reached
before. -/
theorem nanos_doublingDelay_of_le (h : attempt ≤ 32 ∨ max.nanos ≤ base.nanos * (2 ^ 32 - 1)) :
    (doublingDelay base max attempt).nanos = min max.nanos (base.nanos * 2 ^ (attempt - 1)) := by
  rw [nanos_doublingDelay, factor_eq]
  by_cases hpow : 2 ^ (attempt - 1) ≤ 2 ^ 32 - 1
  · rw [Nat.min_eq_left hpow]
  · rcases h with hattempt | hmax
    · have : 2 ^ (attempt - 1) ≤ 2 ^ 31 := Nat.pow_le_pow_right (by decide) (by omega)
      omega
    · have hge : 2 ^ 32 - 1 ≤ 2 ^ (attempt - 1) := by omega
      have hproduct := Nat.mul_le_mul_left base.nanos hge
      rw [Nat.min_eq_right hge, Nat.min_eq_left hmax, Nat.min_eq_left (hmax.trans hproduct)]

/-- **The delay before jitter is exact.** In nanoseconds it is the base times a power of two, or
times the greatest 32-bit number where the power exceeds it, but no more than the greatest delay. It
grows with the attempt, the base and the greatest delay. The base is just doubled with each attempt
up to the attempt 32, and at all attempts if the greatest delay is reached by then. -/
theorem doublingDelay_exact (base max : Duration) (attempt : Nat) :
    (∃ (s : UInt64) (n : Fin 1_000_000_000), doublingDelay base max attempt = .ofParts s n ∧
      s.toNat * 1_000_000_000 + n =
        min max.nanos (base.nanos * min (2 ^ (attempt - 1)) (2 ^ 32 - 1))) ∧
    doublingDelay base max 0 = doublingDelay base max 1 ∧
    (doublingDelay base max attempt).nanos ≤ max.nanos ∧
    (∀ base' max' attempt', base.nanos ≤ base'.nanos → max.nanos ≤ max'.nanos →
      attempt ≤ attempt' →
        (doublingDelay base max attempt).nanos ≤ (doublingDelay base' max' attempt').nanos) ∧
    (attempt ≤ 32 ∨ max.nanos ≤ base.nanos * (2 ^ 32 - 1) →
      (doublingDelay base max attempt).nanos =
        min max.nanos (base.nanos * 2 ^ (attempt - 1))) := by
  refine ⟨?_, rfl, ?_, fun _ _ _ => doublingDelay_mono, nanos_doublingDelay_of_le⟩
  · obtain ⟨s, n, hparts⟩ := (doublingDelay base max attempt).exists_ofParts
    refine ⟨s, n, hparts, ?_⟩
    rw [← factor_eq, ← nanos_doublingDelay, hparts]
    rfl
  · rw [nanos_doublingDelay]
    exact Nat.min_le_left ..

/-! ## With jitter -/

/-- One use of the backoff. -/
inductive Use where
  | next (key : String) (jitter : Rat)
  | forget (key : String)

/-- The backoff after a use. -/
def use (b : Backoff) : Use → Backoff
  | .next key jitter => (b.next key jitter).2
  | .forget key => b.forget key

/-- The backoff after some uses, the first one first. -/
def after (b : Backoff) (history : List Use) : Backoff := history.foldl use b

/-- The next delay of a key is safe with a jitter: the delay of the current attempt, scaled by it,
is in the range of spans, and what is returned lies in the bounds. -/
def DrawsSafely (b : Backoff) (key : String) (jitter : Rat) : Prop :=
  ((b.fail key).delay key).nanos * jitter < Duration.limit ∧
    ∃ d, (b.next key jitter).1 = some d ∧ (b.fail key).InBounds key d

variable {b : Backoff} {key : String} {jitter : Rat} {history : List Use}

/-- No use changes the spans. -/
theorem spans_after : (b.after history).base = b.base ∧ (b.after history).max = b.max := by
  induction history generalizing b with
  | nil => exact ⟨rfl, rfl⟩
  | cons u history ih =>
    cases u with
    | next key jitter => exact @ih (b.next key jitter).2
    | forget key => exact @ih (b.forget key)

theorem delay_fail : (b.fail key).delay key =
    doublingDelay b.base b.max (Nat.min (b.count key + 1) greatestCount) := by
  rw [delay, count_fail, if_pos rfl]
  rfl

/-- A row of failures counts up. -/
theorem count_after_replicate {n : Nat} (h : b.count key + n ≤ greatestCount) :
    (b.after (.replicate n (.next key jitter))).count key = b.count key + n := by
  induction n generalizing b with
  | zero => rfl
  | succ n ih =>
    have hcount : (b.fail key).count key = b.count key + 1 := by
      rw [count_fail, if_pos rfl]
      exact Nat.min_eq_left (by omega)
    show ((b.fail key).after (.replicate n (.next key jitter))).count key = _
    rw [ih (by omega), hcount]
    omega

theorem next_fst : (b.next key jitter).1 =
    (((b.fail key).delay key).scale? jitter).map (·.min b.max) := rfl

/-- A delay of an even number of nanoseconds is drawn safely unless the scaled delay rounds to the
limit. -/
theorem drawsSafely_iff (heven : ((b.fail key).delay key).nanos % 2 = 0) (hlow : 1 / 2 ≤ jitter)
    (hhigh : jitter < 3 / 2) : b.DrawsSafely key jitter ↔
      ((b.fail key).delay key).nanos * jitter < (Duration.limit : Rat) - 1 / 2 := by
  have hscale : (∃ e, ((b.fail key).delay key).scale? jitter = some e) ↔
      ((b.fail key).delay key).nanos * jitter < (Duration.limit : Rat) - 1 / 2 := by
    rw [Duration.exists_scale_iff (by linarith), Duration.roundEven_lt_iff (by decide)]
    exact Iff.rfl
  rw [← hscale, DrawsSafely, next_fst]
  constructor
  · rintro ⟨-, d, hd, -⟩
    obtain ⟨e, he, -⟩ := Option.map_eq_some_iff.1 hd
    exact ⟨e, he⟩
  · rintro ⟨e, he⟩
    have hlimit := hscale.1 ⟨e, he⟩
    refine ⟨by linarith, e.min b.max, by rw [he]; rfl, ?_⟩
    obtain ⟨hhalf, hmore⟩ := Duration.between_of_scale heven hlow hhigh he
    have hmax : ((b.fail key).delay key).nanos ≤ b.max.nanos := by
      rw [delay, nanos_doublingDelay]
      exact Nat.min_le_left ..
    have hnanos : (e.min b.max).nanos = min e.nanos b.max.nanos := Duration.nanos_min ..
    show _ ≤ 2 * (e.min b.max).nanos ∧ 2 * (e.min b.max).nanos ≤ 3 * _ ∧
      (e.min b.max).nanos ≤ b.max.nanos
    rw [hnanos]
    omega

theorem even_doublingDelay (hbase : base.nanos % 2 = 0) (hmax : max.nanos % 2 = 0) :
    (doublingDelay base max attempt).nanos % 2 = 0 := by
  have hproduct : base.nanos * factor attempt % 2 = 0 := by
    rw [Nat.mul_mod, hbase, Nat.zero_mul, Nat.zero_mod]
  rw [nanos_doublingDelay]
  omega

/-- The greatest delay that the attempts come to. -/
def longest (b : Backoff) : Nat := min b.max.nanos (b.base.nanos * (2 ^ 32 - 1))

theorem delay_le_longest : ((b.fail key).delay key).nanos ≤ b.longest := by
  have hproduct := Nat.mul_le_mul_left b.base.nanos
    (factor_le (Nat.min (b.count key + 1) greatestCount))
  rw [delay_fail, nanos_doublingDelay, longest]
  omega

/-- After 32 failures the delay is the longest. -/
theorem delay_after_failures (h : b.count key = 0) :
    (((b.after (.replicate 32 (.next key jitter))).fail key).delay key).nanos = b.longest := by
  rw [delay_fail, spans_after.1, spans_after.2, count_after_replicate (by rw [h]; decide), h,
    nanos_doublingDelay, factor_eq]
  rfl

/-- A delay that is even and short enough stays below the limit with every jitter. -/
theorem scaled_lt_of_longest (heven : ((b.fail key).delay key).nanos % 2 = 0)
    (hlongest : 3 * b.longest < 2 * Duration.limit) (hhigh : jitter < 3 / 2) :
    ((b.fail key).delay key).nanos * jitter < (Duration.limit : Rat) - 1 / 2 := by
  have hdelay : 3 * ((b.fail key).delay key).nanos + 2 ≤ 2 * Duration.limit := by
    have hle : ((b.fail key).delay key).nanos ≤ b.longest := delay_le_longest
    omega
  have hdelayRat : (3 * ((b.fail key).delay key).nanos + 2 : Rat) ≤ 2 * Duration.limit := by
    exact_mod_cast hdelay
  have hscaled : (((b.fail key).delay key).nanos * jitter : Rat) ≤
      ((b.fail key).delay key).nanos * (3 / 2) :=
    mul_le_mul_of_nonneg_left hhigh.le (Nat.cast_nonneg _)
  linarith

/-- A jitter takes a longer delay just to the limit. Two thirds of the limit are no whole number. -/
theorem exists_unsafe_jitter (hlongest : ¬3 * b.longest < 2 * Duration.limit) :
    ∃ jitter : Rat, 1 / 2 ≤ jitter ∧ jitter < 3 / 2 ∧ b.longest * jitter = Duration.limit := by
  have hthird : 2 * Duration.limit < 3 * b.longest := by
    have hne : 3 * b.longest ≠ 2 * Duration.limit := by
      simp only [Duration.limit, Duration.nanosPerSecond]
      omega
    omega
  have hlt : b.longest < Duration.limit := by
    have := b.max.nanos_lt
    rw [longest]
    omega
  have hthirdRat : (2 * Duration.limit : Rat) < 3 * b.longest := by exact_mod_cast hthird
  have hltRat : (b.longest : Rat) < Duration.limit := by exact_mod_cast hlt
  have hpos : (0 : Rat) < b.longest := by
    have : (0 : Rat) ≤ Duration.limit := Nat.cast_nonneg _
    linarith
  refine ⟨Duration.limit / b.longest, ?_, ?_, mul_div_cancel₀ _ hpos.ne'⟩
  · rw [le_div_iff₀ hpos]
    linarith
  · rw [div_lt_iff₀ hpos]
    linarith

end Backoff

namespace Settings

open Backoff

/-- The backoff before its first use. -/
def backoff (s : Settings) : Backoff := { base := s.backoffBase, max := s.backoffMax }

theorem even_of_given {Counts : Duration → Nat → Prop} {default d : Duration}
    {given : Option String} (h : Given (SpellsSpan Counts) default given d)
    (hdefault : default.nanos % 2 = 0) (hcounts : ∀ n, Counts d n → d.nanos % 2 = 0) :
    d.nanos % 2 = 0 := by
  cases h with
  | absent => exact hdefault
  | present h =>
    obtain ⟨n, -, hn⟩ := h
    exact hcounts n hn

variable {lookup : String → Option String} {s : Settings} {history : List Use} {key : String}

/-- Whole milliseconds and whole seconds are even numbers of nanoseconds, and so are the delays. -/
theorem GivenBy.even_delay (h : GivenBy lookup s) :
    (((s.backoff.after history).fail key).delay key).nanos % 2 = 0 := by
  have hbase : s.backoffBase.nanos % 2 = 0 := even_of_given h.base (by decide) fun n hn => by
    rw [Duration.isMillis_iff_nanos.1 hn, Duration.nanosPerMilli]
    omega
  have hmax : s.backoffMax.nanos % 2 = 0 := even_of_given h.max (by decide) fun n hn => by
    rw [Duration.isSeconds_iff_nanos.1 hn, Duration.nanosPerSecond]
    omega
  rw [delay_fail, spans_after.1, spans_after.2]
  exact even_doublingDelay hbase hmax

/-- **When delays are drawn safely.** Under settings that are loaded, after any history, a delay is
drawn safely with a jitter exactly if the scaled delay stays half a nanosecond below the limit of
all spans. All delays are, if and only if the longest delay times one and a half is within the
limit. -/
theorem draws_safely_iff (h : ofLookup lookup = .ok s) :
    (∀ (history : List Use) (key : String) (jitter : Rat), 1 / 2 ≤ jitter → jitter < 3 / 2 →
      ((s.backoff.after history).DrawsSafely key jitter ↔
        (((s.backoff.after history).fail key).delay key).nanos * jitter <
          (Duration.limit : Rat) - 1 / 2)) ∧
    ((∀ (history : List Use) (key : String) (jitter : Rat), 1 / 2 ≤ jitter → jitter < 3 / 2 →
      (s.backoff.after history).DrawsSafely key jitter) ↔
        3 * min s.backoffMax.nanos (s.backoffBase.nanos * (2 ^ 32 - 1)) < 2 * Duration.limit) := by
  have hgiven := ofLookup_eq_ok_iff.1 h
  refine ⟨fun history key jitter => drawsSafely_iff hgiven.even_delay, ?_, ?_⟩
  · intro hsafe
    by_contra hlong
    obtain ⟨jitter, hlow, hhigh, hlimit⟩ := exists_unsafe_jitter (b := s.backoff) hlong
    have hlt := (hsafe (.replicate 32 (.next "" 1)) "" jitter hlow hhigh).1
    rw [delay_after_failures rfl, hlimit] at hlt
    exact lt_irrefl _ hlt
  · intro hshort history key jitter hlow hhigh
    rw [drawsSafely_iff hgiven.even_delay hlow hhigh]
    refine scaled_lt_of_longest hgiven.even_delay ?_ hhigh
    rw [longest, spans_after.1, spans_after.2]
    exact hshort

/-- Without any variable set. -/
theorem draws_safely_by_default : ofLookup (fun _ => none) = .ok {} ∧
    3 * min (300 * 10 ^ 9) (500 * 10 ^ 6 * (2 ^ 32 - 1)) < 2 * Duration.limit ∧
    ∀ (history : List Use) (key : String) (jitter : Rat), 1 / 2 ≤ jitter → jitter < 3 / 2 →
      ((backoff {}).after history).DrawsSafely key jitter :=
  ⟨rfl, by decide, (@draws_safely_iff (fun _ => none) {} rfl).2.2 (by decide)⟩

/-- With the greatest numbers that are loaded, the eleventh delay is as long as the greatest delay,
and with a jitter of five quarters there is no span to wait. -/
theorem draw_overflows_at_greatest : ∃ s, ofLookup (fun name =>
      if name = "BACKOFF_BASE_MS" ∨ name = "BACKOFF_MAX_SECS" then some "18446744073709551615"
      else none) = .ok s ∧
    (((s.backoff.after (.replicate 10 (.next "apps/gate" 1))).fail "apps/gate").delay
      "apps/gate").IsSeconds 18_446_744_073_709_551_615 ∧
    ((s.backoff.after (.replicate 10 (.next "apps/gate" 1))).next "apps/gate" (5 / 4)).1 = none ∧
    ¬(s.backoff.after (.replicate 10 (.next "apps/gate" 1))).DrawsSafely "apps/gate" (5 / 4) := by
  refine ⟨{
      backoffBase := .ofMillis 18_446_744_073_709_551_615
      backoffMax := .ofSeconds 18_446_744_073_709_551_615 },
    by decide +kernel, ⟨by decide +kernel, by decide +kernel⟩, by decide +kernel, ?_⟩
  rintro ⟨hproduct, -⟩
  revert hproduct
  decide +kernel

end Settings

end AuthProxy
