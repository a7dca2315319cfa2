import AuthProxy.Duration
import Mathlib.Algebra.Order.Field.Rat
import Mathlib.Tactic.Linarith

/-! # Spans of time in parts, and scaled

A span is a 64-bit number of seconds and less than a billion nanoseconds (`exists_ofParts`). Scaling
rounds to the nearest nanosecond, which never passes a whole number (`le_roundEven`,
`roundEven_le`); what is left of the range for the rounded value is `roundEven_lt_iff`.
-/

namespace AuthProxy

namespace Duration

/-! ## Parts -/

/-- The span of whole seconds and the nanoseconds beyond them. -/
def ofParts (seconds : UInt64) (nanos : Fin 1_000_000_000) : Duration where
  nanos := seconds.toNat * 1_000_000_000 + nanos
  nanos_lt := by
    have := seconds.toNat_lt
    simp only [limit, nanosPerSecond]
    omega

/-- Every span is one of seconds and nanoseconds. -/
theorem exists_ofParts (d : Duration) : ∃ s n, d = ofParts s n := by
  have hlt := d.nanos_lt
  simp only [limit, nanosPerSecond] at hlt
  refine ⟨.ofNat (d.nanos / 1_000_000_000),
    ⟨d.nanos % 1_000_000_000, Nat.mod_lt _ (by decide)⟩, ext ?_⟩
  simp only [ofParts, UInt64.toNat_ofNat']
  omega

/-- A span of `n` milliseconds, as whole seconds and the nanoseconds beyond them. -/
def IsMillis (d : Duration) (n : Nat) : Prop :=
  d.seconds = n / 1000 ∧ d.subsecNanos = n % 1000 * 1_000_000

/-- A span of `n` seconds. -/
def IsSeconds (d : Duration) (n : Nat) : Prop := d.seconds = n ∧ d.subsecNanos = 0

variable {d : Duration} {n : Nat}

theorem isMillis_iff_nanos : d.IsMillis n ↔ d.nanos = n * nanosPerMilli := by
  simp only [IsMillis, seconds, subsecNanos, nanosPerSecond, nanosPerMilli]
  omega

theorem isSeconds_iff_nanos : d.IsSeconds n ↔ d.nanos = n * nanosPerSecond := by
  simp only [IsSeconds, seconds, subsecNanos, nanosPerSecond]
  omega

theorem eq_ofNanos_iff (h : n < limit) : d = ofNanos n ↔ d.nanos = n := by
  have hnanos : (ofNanos n).nanos = n := Nat.min_eq_left (Nat.le_sub_one_of_lt h)
  constructor
  · rintro rfl
    exact hnanos
  · intro hd
    exact ext (hd.trans hnanos.symm)

theorem isMillis_iff (h : n * nanosPerMilli < limit) : d.IsMillis n ↔ d = ofMillis n := by
  rw [isMillis_iff_nanos, ofMillis, eq_ofNanos_iff h]

theorem isSeconds_iff (h : n * nanosPerSecond < limit) : d.IsSeconds n ↔ d = ofSeconds n := by
  rw [isSeconds_iff_nanos, ofSeconds, eq_ofNanos_iff h]

/-! ## Rounding -/

variable {x : Rat} {k : Int}

theorem floor_le_roundEven (x : Rat) : x.floor ≤ roundEven x := by
  unfold roundEven
  dsimp only
  split
  · exact Int.le_refl _
  · split
    · omega
    · split <;> omega

theorem roundEven_le_succ (x : Rat) : roundEven x ≤ x.floor + 1 := by
  unfold roundEven
  dsimp only
  split
  · omega
  · split
    · omega
    · split <;> omega

theorem roundEven_of_lt_half (h : x - x.floor < 1 / 2) : roundEven x = x.floor := by
  unfold roundEven
  dsimp only
  rw [if_pos h]

/-- From the middle on, odd numbers are left behind. -/
theorem roundEven_of_half_le (h : 1 / 2 ≤ x - x.floor) (hodd : x.floor % 2 = 1) :
    roundEven x = x.floor + 1 := by
  unfold roundEven
  dsimp only
  rw [if_neg (not_lt_of_ge h)]
  split
  · rfl
  · rw [if_neg (by omega)]

theorem le_roundEven (h : k ≤ x) : k ≤ roundEven x :=
  (Rat.le_floor_iff.2 h).trans (floor_le_roundEven x)

theorem roundEven_le (h : x ≤ k) : roundEven x ≤ k := by
  have hfloor : (x.floor : Rat) ≤ k := (Rat.floor_le x).trans h
  rcases (Int.cast_le.1 hfloor).lt_or_eq with hlt | heq
  · have := roundEven_le_succ x
    omega
  · -- nothing is left beyond the whole number
    rw [roundEven_of_lt_half (by rw [heq]; linarith), heq]

/-- A value that rounds to less than an even number stays half a unit below it. -/
theorem roundEven_lt_iff (hk : k % 2 = 0) : roundEven x < k ↔ x < k - 1 / 2 := by
  have hfloor := Rat.floor_le x
  have hsucc := Rat.lt_floor_add_one x
  constructor
  · intro h
    by_contra hge
    have hle : k - 1 ≤ x.floor := Rat.le_floor_iff.2 (by push_cast; linarith)
    have hround := floor_le_roundEven x
    have heq : x.floor = k - 1 := by omega
    have hhalf : 1 / 2 ≤ x - x.floor := by
      rw [heq]
      push_cast
      linarith
    rw [roundEven_of_half_le hhalf (by omega)] at h
    omega
  · intro h
    have hlt : x.floor < k := by
      have : (x.floor : Rat) < k := by linarith
      exact_mod_cast this
    by_cases heq : x.floor = k - 1
    · have hhalf : x - x.floor < 1 / 2 := by
        rw [heq]
        push_cast
        linarith
      rw [roundEven_of_lt_half hhalf]
      exact hlt
    · have := roundEven_le_succ x
      omega

/-- A span is scaled to the rounded value, if that is a span. -/
theorem scale?_eq_some_iff {d e : Duration} {factor : Rat} :
    d.scale? factor = some e ↔ roundEven (d.nanos * factor) = e.nanos := by
  unfold scale?
  dsimp only
  constructor
  · intro h
    split at h
    next hrange =>
      obtain rfl := Option.some.inj h
      exact (Int.toNat_of_nonneg hrange.1).symm
    next => cases h
  · intro h
    have hlt := e.nanos_lt
    rw [dif_pos (by omega)]
    have htoNat : (roundEven (d.nanos * factor)).toNat = e.nanos := by omega
    exact congrArg some (ext htoNat)

/-- What rounds to no negative number is scaled if it rounds to less than the limit. -/
theorem exists_scale_iff {d : Duration} {factor : Rat} (hfactor : 0 ≤ factor) :
    (∃ e, d.scale? factor = some e) ↔ roundEven (d.nanos * factor) < limit := by
  have hround : 0 ≤ roundEven (d.nanos * factor) :=
    le_roundEven (by exact_mod_cast mul_nonneg (Nat.cast_nonneg _) hfactor)
  constructor
  · rintro ⟨e, he⟩
    rw [scale?_eq_some_iff.1 he]
    exact_mod_cast e.nanos_lt
  · intro h
    exact ⟨⟨(roundEven (d.nanos * factor)).toNat, by omega⟩,
      scale?_eq_some_iff.2 (Int.toNat_of_nonneg hround).symm⟩

/-- An even span scaled by a half to one and a half is that much as long: both ends are whole
numbers, so rounding does not pass them. -/
theorem between_of_scale {d e : Duration} {factor : Rat} (heven : d.nanos % 2 = 0)
    (hlow : 1 / 2 ≤ factor) (hhigh : factor < 3 / 2) (h : d.scale? factor = some e) :
    d.nanos ≤ 2 * e.nanos ∧ 2 * e.nanos ≤ 3 * d.nanos := by
  obtain ⟨m, hm⟩ : ∃ m, d.nanos = 2 * m :=
    ⟨_, (Nat.mul_div_cancel' (Nat.dvd_of_mod_eq_zero heven)).symm⟩
  have hmRat : (d.nanos : Rat) = 2 * m := by exact_mod_cast hm
  have hm0 : (0 : Rat) ≤ m := Nat.cast_nonneg m
  have hhalf : (m : Int) ≤ roundEven (d.nanos * factor) := by
    refine le_roundEven ?_
    rw [hmRat]
    push_cast
    nlinarith
  have hmore : roundEven (d.nanos * factor) ≤ (3 * m : Nat) := by
    refine roundEven_le ?_
    rw [hmRat]
    push_cast
    nlinarith
  rw [scale?_eq_some_iff.1 h] at hhalf hmore
  omega

/-- Half of the longest span may be scaled by up to one and a half. -/
theorem exists_scale {d : Duration} {factor : Rat} (hd : 2 * d.nanos ≤ limit)
    (hlow : 0 ≤ factor) (hhigh : factor < 3 / 2) : ∃ e, d.scale? factor = some e := by
  rw [exists_scale_iff hlow]
  have hnanos : (2 * d.nanos : Rat) ≤ limit := by exact_mod_cast hd
  have hscaled : (d.nanos * factor : Rat) ≤ d.nanos * (3 / 2) :=
    mul_le_mul_of_nonneg_left hhigh.le (Nat.cast_nonneg _)
  have hlimit : (4 : Rat) < limit := by norm_num [limit, nanosPerSecond]
  have hle : (d.nanos * factor : Rat) ≤ ((limit : Int) - 1 : Int) := by
    push_cast
    linarith
  have := roundEven_le hle
  omega

end Duration

end AuthProxy
