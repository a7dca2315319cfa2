import AuthProxy.Replicas

/-! # Sums of replica counts that are not negative

Counts that are not negative leave the range only once, and never come back. So a sum that is held
at the end of the range is the exact sum, or the greatest number if that is smaller; and a sum that
is given up on the way is one whose end lies beyond the range. Neither depends on the order.
-/

namespace AuthProxy.Replicas

/-- The sum of the counts, however great it is. -/
def exactSum : List Int32 → Int
  | [] => 0
  | n :: rest => n.toInt + exactSum rest

theorem exactSum_nonneg {counts : List Int32} (hcounts : ∀ n ∈ counts, 0 ≤ n.toInt) :
    0 ≤ exactSum counts := by
  induction counts with
  | nil => exact Int.le_refl 0
  | cons n rest ih =>
    have hn : 0 ≤ n.toInt := hcounts n List.mem_cons_self
    have hrest := ih fun m hm => hcounts m (List.mem_cons_of_mem n hm)
    exact Int.add_nonneg hn hrest

theorem clamp_of_nonneg {n : Int} (h : 0 ≤ n) : clamp n = Min.min greatest n := by
  unfold clamp least greatest
  omega

/-- By induction on the counts: once the sum is held at the greatest number it stays there, because
nothing that follows is negative. -/
theorem foldl_clamp {counts : List Int32} {total : Int} (hcounts : ∀ n ∈ counts, 0 ≤ n.toInt)
    (htotal : 0 ≤ total) :
    counts.foldl (fun total n => clamp (total + n.toInt)) (Min.min greatest total) =
      Min.min greatest (total + exactSum counts) := by
  induction counts generalizing total with
  | nil => rw [List.foldl_nil, exactSum, Int.add_zero]
  | cons n rest ih =>
    have hn : 0 ≤ n.toInt := hcounts n List.mem_cons_self
    have hstep : clamp (Min.min greatest total + n.toInt) = Min.min greatest (total + n.toInt) := by
      rw [clamp_of_nonneg (by unfold greatest; omega)]
      unfold greatest
      omega
    rw [List.foldl_cons, hstep, ih (fun m hm => hcounts m (List.mem_cons_of_mem n hm)) (by omega),
      exactSum, Int.add_assoc]

/-- The exact sum does not depend on the order. -/
theorem exactSum_perm {counts counts' : List Int32} (h : counts.Perm counts') :
    exactSum counts = exactSum counts' := by
  induction h with
  | nil => rfl
  | cons n _ ih => rw [exactSum, exactSum, ih]
  | swap n m rest => simp only [exactSum]; omega
  | trans _ _ ih ih' => exact ih.trans ih'

/-- By induction on the counts: as none of them is negative, a sum beyond the range stays there, so
the sums on the way only tell what the last one tells. -/
theorem sumFrom?_eq {counts : List Int32} {total : Int} (hcounts : ∀ n ∈ counts, 0 ≤ n.toInt)
    (htotal : 0 ≤ total) (hbound : total ≤ greatest) :
    sumFrom? total counts =
      if total + exactSum counts ≤ greatest then some (total + exactSum counts) else none := by
  induction counts generalizing total with
  | nil => simp [sumFrom?, exactSum, hbound]
  | cons n rest ih =>
    have hn : 0 ≤ n.toInt := hcounts n List.mem_cons_self
    have hothers : ∀ m ∈ rest, 0 ≤ m.toInt := fun m hm => hcounts m (List.mem_cons_of_mem n hm)
    have hrest := exactSum_nonneg hothers
    have hleast : least ≤ total + n.toInt := by unfold least; omega
    rw [sumFrom?, exactSum, ← Int.add_assoc]
    by_cases hstep : total + n.toInt ≤ greatest
    · rw [if_pos ⟨hleast, hstep⟩, ih hothers (by omega) hstep]
    · rw [if_neg fun h => hstep h.2, if_neg (by omega)]

/-- **A sum is the exact sum, unless that is out of range.** -/
theorem map_toInt_sum? {counts : List Int32} (hcounts : ∀ n ∈ counts, 0 ≤ n.toInt) :
    (sum? counts).map (·.toInt) =
      if exactSum counts ≤ greatest then some (exactSum counts) else none := by
  have hsum := exactSum_nonneg hcounts
  have hfrom := sumFrom?_eq hcounts (Int.le_refl 0) (by decide)
  rw [Int.zero_add] at hfrom
  rw [sum?, hfrom]
  split
  · next hle =>
    unfold greatest at hle
    simp [Int32.toInt_ofInt_of_le (by omega : -2 ^ 31 ≤ exactSum counts) (by omega)]
  · rfl

/-- **A held sum is the exact sum, up to the greatest number.** -/
theorem toInt_heldSum {counts : List Int32} (hcounts : ∀ n ∈ counts, 0 ≤ n.toInt) :
    (heldSum counts).toInt = Min.min greatest (exactSum counts) := by
  have hsum := exactSum_nonneg hcounts
  have hfold := foldl_clamp hcounts (Int.le_refl 0)
  rw [show Min.min greatest 0 = 0 from rfl, Int.zero_add] at hfold
  rw [heldSum, hfold]
  apply Int32.toInt_ofInt_of_le <;> unfold greatest <;> omega

end AuthProxy.Replicas
