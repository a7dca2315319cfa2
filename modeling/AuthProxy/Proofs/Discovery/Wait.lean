import AuthProxy.Discovery.Polls
import Mathlib.Algebra.Ring.Nat
import Mathlib.Data.List.Basic
import Mathlib.Data.Nat.Find
import Mathlib.Logic.Function.Iterate

/-! # Waiting, check after check

Waiting is told by what the checks come to. The intervals do not depend on that: after `i` checks
that found nothing the next one is `Wait.intervalAfter i` seconds away (`Wait.through_append`). Up
to a deadline the checks are those of a waiting without end that are made before it
(`Wait.untilTime_eq`), so waiting ends with the first check that finds authenticators served, and
nothing else ends it.
-/

namespace AuthProxy

namespace Wait

/-! ## Intervals -/

/-- The interval after `i` checks that found nothing. -/
def intervalAfter (i : Nat) : Nat := min (firstInterval * 2 ^ i) greatestInterval

theorem nextInterval_intervalAfter (i : Nat) :
    nextInterval (intervalAfter i) = intervalAfter (i + 1) := by
  show min (min (firstInterval * 2 ^ i) greatestInterval * 2) greatestInterval = _
  simp only [intervalAfter, firstInterval, greatestInterval, Nat.pow_succ]
  omega

theorem iterate_nextInterval (i : Nat) : nextInterval^[i] firstInterval = intervalAfter i := by
  induction i with
  | zero => rfl
  | succ i ih => rw [Function.iterate_succ_apply', ih, nextInterval_intervalAfter]

theorem le_intervalAfter (i : Nat) : firstInterval ≤ intervalAfter i := by
  have hpow : 1 ≤ 2 ^ i := Nat.one_le_two_pow
  simp only [intervalAfter, firstInterval, greatestInterval]
  omega

theorem intervalAfter_le (i : Nat) : intervalAfter i ≤ greatestInterval := Nat.min_le_right ..

/-- When the check number `i` is made, where the first one is number 0. -/
def timeOf : Nat → Nat
  | 0 => 0
  | i + 1 => timeOf i + intervalAfter i

theorem le_timeOf (i : Nat) : i ≤ timeOf i := by
  induction i with
  | zero => exact Nat.le_refl 0
  | succ i ih =>
    have hinterval := le_intervalAfter i
    simp only [firstInterval] at hinterval
    rw [timeOf]
    omega

theorem timeOf_mono {i j : Nat} (h : i ≤ j) : timeOf i ≤ timeOf j := by
  induction h with
  | refl => exact Nat.le_refl _
  | step _ ih => exact Nat.le_trans ih (Nat.le_add_right ..)

theorem sum_intervals (n : Nat) : ((List.range n).map intervalAfter).sum = timeOf n := by
  induction n with
  | zero => rfl
  | succ n ih => simp [List.range_succ, ih, timeOf]

/-! ## What waiting comes to -/

variable {failures rest : List (Except Error Bool)} {r : Except Error Bool} {i n : Nat}

/-- The checks that find nothing come first, each with the pause and the notice of its number. By
induction on them. -/
theorem through_append (h : ∀ r ∈ failures, found r = false) :
    through (intervalAfter i) (failures ++ rest) =
      { finished := (through (intervalAfter (i + failures.length)) rest).finished
        checks := failures.length + (through (intervalAfter (i + failures.length)) rest).checks
        pauses := (List.range' i failures.length).map intervalAfter ++
          (through (intervalAfter (i + failures.length)) rest).pauses
        notices := failures.mapIdx (fun j r => notice (intervalAfter (i + j)) r) ++
          (through (intervalAfter (i + failures.length)) rest).notices } := by
  induction failures generalizing i with
  | nil => simp
  | cons r failures ih =>
    obtain ⟨hr, hfailures⟩ := List.forall_mem_cons.1 h
    simp only [List.cons_append, through, hr, Bool.false_eq_true, if_false, addFirst,
      nextInterval_intervalAfter, ih hfailures]
    simp [List.range'_succ, List.mapIdx_cons, Nat.add_assoc, Nat.add_comm, Nat.add_left_comm]

/-- If one check after them finds authenticators served, it is the last one. -/
theorem through_served (h : ∀ r ∈ failures, found r = false) (hr : found r = true) :
    through firstInterval (failures ++ r :: rest) =
      { finished := true
        checks := failures.length + 1
        pauses := (List.range failures.length).map intervalAfter
        notices := (failures ++ [r]).mapIdx fun j r => notice (intervalAfter j) r } := by
  show through (intervalAfter 0) _ = _
  rw [through_append h]
  simp [through, hr, List.range_eq_range', List.mapIdx_append]

theorem through_unserved (h : ∀ r ∈ failures, found r = false) :
    through firstInterval failures =
      { checks := failures.length
        pauses := (List.range failures.length).map intervalAfter
        notices := failures.mapIdx fun j r => notice (intervalAfter j) r } := by
  show through (intervalAfter 0) _ = _
  rw [← List.append_nil failures, through_append h]
  simp [through, List.range_eq_range']

theorem found_eq_true_iff : found r = true ↔ r = .ok true := by
  cases r <;> simp [found]

theorem found_eq_false_iff : found r = false ↔ r ≠ .ok true := by
  rw [← Bool.not_eq_true, found_eq_true_iff]

/-- Waiting is not over as long as no check finds authenticators served. -/
theorem through_unfinished_iff {interval : Nat} {results : List (Except Error Bool)} :
    (through interval results).finished = false ↔ ∀ r ∈ results, found r = false := by
  induction results generalizing interval with
  | nil => simp [through]
  | cons r results ih =>
    cases hr : found r with
    | true => simp [through, hr]
    | false => simp [through, hr, addFirst, ih]

/-! ## Checks of a server -/

variable {σ : Type} {check : Nat → σ → Except Error Bool × σ} {s : σ} {deadline : Nat}

/-- What a waiting without end has made of `s` before the check number `i`. -/
def stateBefore (check : Nat → σ → Except Error Bool × σ) (s : σ) : Nat → σ
  | 0 => s
  | i + 1 => (check (timeOf i) (stateBefore check s i)).2

/-- What the check number `i` of a waiting without end comes to. -/
def result (check : Nat → σ → Except Error Bool × σ) (s : σ) (i : Nat) : Except Error Bool :=
  (check (timeOf i) (stateBefore check s i)).1

/-- What the first `n` checks of a waiting without end come to. -/
def results (check : Nat → σ → Except Error Bool × σ) (s : σ) (n : Nat) :
    List (Except Error Bool) :=
  (List.range n).map (result check s)

theorem results_add (n m : Nat) :
    results check s (n + m) =
      results check s n ++ (List.range m).map fun j => result check s (n + j) := by
  rw [results, List.range_add, List.map_append, List.map_map]
  rfl

theorem length_results (n : Nat) : (results check s n).length = n := by simp [results]

/-- What is left of the waiting from the check number `i` on. -/
def untilFrom (check : Nat → σ → Except Error Bool × σ) (deadline fuel : Nat) (s : σ) (i : Nat) :
    Wait × σ :=
  untilWith check deadline fuel (timeOf i) (intervalAfter i) (stateBefore check s i)

theorem untilFrom_of_deadline {fuel : Nat} (h : deadline ≤ timeOf i) :
    untilFrom check deadline fuel s i = ({}, stateBefore check s i) := by
  cases fuel with
  | zero => rfl
  | succ fuel => rw [untilFrom, untilWith, if_pos h]

/-- One check before the deadline. -/
theorem untilFrom_succ {fuel : Nat} (h : timeOf i < deadline) :
    untilFrom check deadline (fuel + 1) s i =
      if found (result check s i) then
        (through (intervalAfter i) [result check s i], stateBefore check s (i + 1))
      else
        ((untilFrom check deadline fuel s (i + 1)).1.addFirst
          (notice (intervalAfter i) (result check s i)) (intervalAfter i),
          (untilFrom check deadline fuel s (i + 1)).2) := by
  rw [untilFrom, untilWith, if_neg (Nat.not_le.2 h), nextInterval_intervalAfter]
  show (if found (result check s i) = true then _ else _) = _
  cases hfound : found (result check s i) with
  | true => simp only [through, hfound, if_true]; rfl
  | false => rfl

/-- From the check number `i` on, waiting makes the `n` checks before the deadline, or as many as it
takes to find authenticators served. By induction on their number. -/
theorem untilFrom_eq {fuel : Nat} (hbefore : ∀ j < n, timeOf (i + j) < deadline)
    (hdeadline : deadline ≤ timeOf (i + n)) (hfuel : n ≤ fuel) :
    untilFrom check deadline fuel s i =
      (through (intervalAfter i) ((List.range' i n).map (result check s)),
        stateBefore check s (i +
          (through (intervalAfter i) ((List.range' i n).map (result check s))).checks)) := by
  induction n generalizing i fuel with
  | zero => exact untilFrom_of_deadline hdeadline
  | succ n ih =>
    obtain ⟨fuel, rfl⟩ : ∃ m, fuel = m + 1 := ⟨fuel - 1, by omega⟩
    have hbefore' : ∀ j < n, timeOf (i + 1 + j) < deadline := by
      intro j hj
      rw [Nat.add_right_comm]
      exact hbefore (j + 1) (by omega)
    have hdeadline' : deadline ≤ timeOf (i + 1 + n) := by
      rw [Nat.add_right_comm]
      exact hdeadline
    have hrest := ih hbefore' hdeadline' (Nat.le_of_succ_le_succ hfuel)
    have hnow : timeOf i < deadline := hbefore 0 (by omega)
    rw [untilFrom_succ hnow, hrest, List.range'_succ, List.map_cons, through]
    cases hfound : found (result check s i) with
    | true => simp [through, hfound]
    | false =>
      simp [through, hfound, addFirst, nextInterval_intervalAfter, Nat.add_assoc, Nat.add_comm]

/-- Up to a deadline waiting is told by the checks before it. -/
theorem untilTime_eq (hbefore : ∀ j < n, timeOf j < deadline) (hdeadline : deadline ≤ timeOf n) :
    untilTime check deadline s = (through firstInterval (results check s n),
      stateBefore check s (through firstInterval (results check s n)).checks) := by
  have hfuel : n ≤ deadline + 1 := by
    cases n with
    | zero => omega
    | succ n =>
      have hlast := hbefore n (by omega)
      have := le_timeOf n
      omega
  have hwait : untilFrom check deadline (deadline + 1) s 0 = _ :=
    untilFrom_eq (by simpa using hbefore) (by simpa using hdeadline) hfuel
  rw [← List.range_eq_range', Nat.zero_add] at hwait
  exact hwait

/-- There is a first check that is too late. -/
theorem exists_checks_before (deadline : Nat) :
    ∃ n, (∀ j < n, timeOf j < deadline) ∧ deadline ≤ timeOf n := by
  have hlate : ∃ n, deadline ≤ timeOf n := ⟨deadline, le_timeOf deadline⟩
  exact ⟨Nat.find hlate, fun j hj => Nat.not_le.1 (Nat.find_min hlate hj), Nat.find_spec hlate⟩

/-- **Waiting ends with the first check that finds authenticators served.** Let `failures` be the
results of the first checks, negative answers and errors in any mix, and let the next check be
positive. Then that check is the last one, there is a pause after each of the others, and the pause
number `i` takes `min (10 * 2 ^ i) 60` seconds. Nothing else ends waiting: as long as it has not
found them, no check was positive and the pauses last until the deadline, whatever the deadline. The
interval is never below the first one and never comes near the range of 64 bits. -/
theorem waits_until_served (check : Nat → σ → Except Error Bool × σ) (s : σ) :
    (∀ failures deadline, (∀ r ∈ failures, r ≠ .ok true) →
      results check s (failures.length + 1) = failures ++ [.ok true] →
      timeOf failures.length < deadline →
      untilTime check deadline s =
        ({ finished := true
           checks := failures.length + 1
           pauses := (List.range failures.length).map fun i => min (10 * 2 ^ i) 60
           notices := (failures ++ [.ok true]).mapIdx fun i r =>
             notice (min (10 * 2 ^ i) 60) r },
          stateBefore check s (failures.length + 1))) ∧
    (∀ deadline, (untilTime check deadline s).1.finished = false →
      deadline ≤ (untilTime check deadline s).1.elapsed ∧
        ∀ r ∈ results check s (untilTime check deadline s).1.checks, r ≠ .ok true) ∧
    ∀ i, nextInterval^[i] firstInterval = min (10 * 2 ^ i) 60 ∧
      10 ≤ nextInterval^[i] firstInterval ∧ nextInterval^[i] firstInterval * 2 < 2 ^ 64 := by
  simp only [← found_eq_false_iff]
  refine ⟨?_, ?_, ?_⟩
  · intro failures deadline hfailures hresults htime
    obtain ⟨n, hbefore, hlate⟩ := exists_checks_before deadline
    have hn : failures.length + 1 ≤ n := by
      by_contra hn
      have := timeOf_mono (show n ≤ failures.length by omega)
      omega
    obtain ⟨m, rfl⟩ := Nat.exists_eq_add_of_le hn
    rw [untilTime_eq hbefore hlate, results_add, hresults, List.append_assoc, List.singleton_append,
      through_served hfailures rfl]
    rfl
  · intro deadline hunfinished
    obtain ⟨n, hbefore, hlate⟩ := exists_checks_before deadline
    rw [untilTime_eq hbefore hlate] at hunfinished ⊢
    have hfailures := through_unfinished_iff.1 hunfinished
    rw [through_unserved hfailures]
    simp only [length_results, elapsed, ← List.sum_eq_foldl, sum_intervals]
    exact ⟨hlate, hfailures⟩
  · intro i
    have hlow := le_intervalAfter i
    have hhigh := intervalAfter_le i
    rw [iterate_nextInterval]
    simp only [firstInterval, greatestInterval] at hlow hhigh
    exact ⟨rfl, hlow, by omega⟩

/-- A refusal, then a list without the operator's group, then authenticators. -/
theorem waits_until_served_after_refusal :
    let groups := "\x7b\"groups\":[\x7b\"name\":\"authenticator.snappcloud.io\"," ++
      "\"versions\":[\x7b\"groupVersion\":\"own/v1alpha1\",\"version\":\"v1alpha1\"\x7d]\x7d]\x7d"
    let resources := "\x7b\"groupVersion\":\"own/v1alpha1\",\"resources\":" ++
      "[\x7b\"kind\":\"BasicAuthenticator\",\"name\":\"basicauthenticators\"\x7d]\x7d"
    let s : PolledServer := {
      polls := [[], [("/apis", ⟨200, "\x7b\x7d"⟩)],
        [("/apis", ⟨200, groups⟩), ("/apis/own/v1alpha1", ⟨200, resources⟩)]] }
    (PolledServer.wait 31 s).1.finished = true ∧ (PolledServer.wait 31 s).1.pauses = [10, 20] ∧
      (PolledServer.wait 30 s).1.finished = false ∧ 30 ≤ (PolledServer.wait 30 s).1.elapsed := by
  intro groups resources s
  have hresults : (results PolledServer.check s 3).map found = [false, false] ++ [true] := by
    decide +kernel
  rw [results_add 2 1, List.map_append] at hresults
  obtain ⟨hfirst, hlast⟩ := List.append_inj hresults (by simp [length_results])
  have hfailures : ∀ r ∈ results PolledServer.check s 2, found r = false := by
    intro r hr
    have hmem := List.mem_map_of_mem (f := found) hr
    rw [hfirst] at hmem
    simpa using hmem
  have hserved : results PolledServer.check s 3 = results PolledServer.check s 2 ++ [.ok true] := by
    rw [results_add 2 1]
    simpa [found_eq_true_iff] using hlast
  obtain ⟨hends, hlasts, -⟩ := waits_until_served PolledServer.check s
  have hunserved : ∀ r ∈ results PolledServer.check s 2, r ≠ .ok true :=
    fun r hr => found_eq_false_iff.1 (hfailures r hr)
  have hwait := hends _ 31 hunserved hserved (by decide)
  have hunfinished : (PolledServer.wait 30 s).1.finished = false := by
    rw [PolledServer.wait, untilTime_eq (n := 2) (by decide) (by decide)]
    exact through_unfinished_iff.2 hfailures
  refine ⟨?_, ?_, hunfinished, (hlasts 30 hunfinished).1⟩
  · rw [PolledServer.wait, hwait]
  · rw [PolledServer.wait, hwait]
    rfl

end Wait

end AuthProxy
