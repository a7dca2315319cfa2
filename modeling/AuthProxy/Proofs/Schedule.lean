import AuthProxy.Proofs.Duration
import AuthProxy.Schedule
import Mathlib.Data.List.DropRight

/-! # The schedule over whole histories

The operator looks at many authenticators, at each of them again and again, and one backoff keeps
the failures of them all. What the backoff keeps is a function of the history: the failures of an
authenticator since it last settled (`Schedule.failuresSince`), up to the greatest count. The proof
is by induction on the history from its end; what one look does to the backoff is
`Invocation.backoff_decision`.
-/

namespace AuthProxy

/-- One look at an authenticator: how its pass ended, and the jitter that was drawn. -/
structure Invocation where
  authenticator : Authenticator
  jitter : Rat
  result : Except Error Outcome

namespace Invocation

/-- The authenticator is gone, or nothing was left to do. -/
def settles (i : Invocation) : Bool :=
  match i.result with
  | .ok .deleted | .ok (.done _) => true
  | .error _ | .ok (.requeue _) => false

/-- The pass failed, or has to run again for another reason than its own writes. -/
def fails (i : Invocation) : Bool :=
  match i.result with
  | .error _ | .ok (.requeue .conflict) | .ok (.requeue .credentialsPending) => true
  | .ok .deleted | .ok (.done _) => false
  | .ok (.requeue (.created _)) | .ok (.requeue (.adopted _)) => false

/-- What follows. -/
def decision (i : Invocation) (b : Backoff) : Decision :=
  Schedule.after b i.authenticator.fullName i.jitter i.result

/-- What is to be done next after `count` failures, this one among them. -/
def nextAction? (i : Invocation) (base max : Duration) (count : Nat) : Option Action :=
  match i.result with
  | .ok .deleted => some .awaitChange
  | .ok (.done _) => some (.passAfter Schedule.resync)
  | .ok (.requeue (.created _)) | .ok (.requeue (.adopted _)) =>
    some (.passAfter Schedule.afterCreation)
  | .error _ | .ok (.requeue .conflict) | .ok (.requeue .credentialsPending) =>
    ((Backoff.doublingDelay base max count).scale? i.jitter).map fun d => .passAfter (d.min max)

variable {i : Invocation} {b : Backoff}

/-- One look forgets the failures of its authenticator, adds one, or does nothing. -/
theorem backoff_decision : (i.decision b).backoff =
    if i.settles then b.forget i.authenticator.fullName
    else if i.fails then b.fail i.authenticator.fullName else b := by
  obtain ⟨a, jitter, e | _ | n | _ | _ | _ | _⟩ := i <;> rfl

theorem base_decision : (i.decision b).backoff.base = b.base := by
  rw [backoff_decision]
  split
  · rfl
  · split <;> rfl

theorem max_decision : (i.decision b).backoff.max = b.max := by
  rw [backoff_decision]
  split
  · rfl
  · split <;> rfl

theorem count_decision_of_ne {name : String} (h : name ≠ i.authenticator.fullName) :
    (i.decision b).backoff.count name = b.count name := by
  rw [backoff_decision]
  split
  · rw [Backoff.count_forget, if_neg h]
  · split
    · rw [Backoff.count_fail, if_neg h]
    · rfl

/-- The action is that for the failures that are counted afterwards. -/
theorem action_decision : (i.decision b).action =
    i.nextAction? b.base b.max ((i.decision b).backoff.count i.authenticator.fullName) := by
  obtain ⟨a, jitter, e | _ | n | _ | _ | _ | _⟩ := i <;> first | rfl | exact Option.map_map ..

theorem exists_nextAction {base max : Duration} (hmax : 2 * max.nanos ≤ Duration.limit)
    (hlow : 0 ≤ i.jitter) (hhigh : i.jitter < 3 / 2) (count : Nat) :
    ∃ action, i.nextAction? base max count = some action := by
  have hdelay : 2 * (Backoff.doublingDelay base max count).nanos ≤ Duration.limit := by
    have : (Backoff.doublingDelay base max count).nanos ≤ max.nanos := by
      rw [Backoff.doublingDelay, Duration.nanos_min]
      exact Nat.min_le_right ..
    omega
  obtain ⟨d, hd⟩ := Duration.exists_scale hdelay hlow hhigh
  unfold nextAction?
  split <;> first | exact ⟨_, rfl⟩ | exact ⟨_, by rw [hd]; rfl⟩

end Invocation

namespace Schedule

/-- The backoff after a history. -/
def replay (b : Backoff) (history : List Invocation) : Backoff :=
  history.foldl (fun b i => (i.decision b).backoff) b

/-- How often the authenticator of a name failed since it last settled. -/
def failuresSince (name : String) (history : List Invocation) : Nat :=
  ((history.filter fun i => i.authenticator.fullName = name).rtakeWhile fun i => !i.settles).countP
    (·.fails)

example : failuresSince "apps/gate" ([.ok (.requeue .conflict), .ok (.done 1),
    .ok (.requeue .credentialsPending), .ok (.requeue (.created .secret)),
    .error (.invalidSpec "")].map fun result =>
      ⟨{ metadata := { name := some "gate", ns := some "apps" }, spec := { appPort := 80 } }, 1,
        result⟩) = 2 := by
  decide +kernel

variable {b : Backoff} {history : List Invocation} {i : Invocation} {name : String}

theorem replay_snoc : replay b (history ++ [i]) = (i.decision (replay b history)).backoff := by
  rw [replay, List.foldl_append]
  rfl

theorem base_replay : (replay b history).base = b.base := by
  induction history using List.reverseRecOn with
  | nil => rfl
  | append_singleton history i ih => rw [replay_snoc, Invocation.base_decision, ih]

theorem max_replay : (replay b history).max = b.max := by
  induction history using List.reverseRecOn with
  | nil => rfl
  | append_singleton history i ih => rw [replay_snoc, Invocation.max_decision, ih]

theorem failuresSince_snoc_of_ne (h : name ≠ i.authenticator.fullName) :
    failuresSince name (history ++ [i]) = failuresSince name history := by
  rw [failuresSince, List.filter_append, List.filter_cons_of_neg (by simpa using h.symm),
    List.filter_nil, List.append_nil, failuresSince]

theorem failuresSince_snoc : failuresSince i.authenticator.fullName (history ++ [i]) =
    if i.settles then 0
    else failuresSince i.authenticator.fullName history + if i.fails then 1 else 0 := by
  rw [failuresSince, List.filter_append, List.filter_cons_of_pos (by simp), List.filter_nil,
    List.rtakeWhile_concat]
  cases i.settles with
  | true => rfl
  | false =>
    simp only [Bool.not_false, if_true, Bool.false_eq_true, if_false, List.countP_append,
      List.countP_singleton]
    rfl

/-- By induction on the history, from its end. -/
theorem count_replay (base max : Duration) (history : List Invocation) (name : String) :
    (replay { base, max } history).count name =
      min (failuresSince name history) Backoff.greatestCount := by
  induction history using List.reverseRecOn with
  | nil => rfl
  | append_singleton history i ih =>
    rw [replay_snoc]
    by_cases hname : name = i.authenticator.fullName
    · subst hname
      rw [failuresSince_snoc, Invocation.backoff_decision]
      cases i.settles with
      | true => rw [if_pos rfl, if_pos rfl, Backoff.count_forget, if_pos rfl, Nat.zero_min]
      | false =>
        rw [if_neg Bool.false_ne_true, if_neg Bool.false_ne_true]
        cases i.fails with
        | true =>
          rw [if_pos rfl, if_pos rfl, Backoff.count_fail, if_pos rfl, ih]
          show min (min _ _ + 1) _ = _
          omega
        | false => rw [if_neg Bool.false_ne_true, if_neg Bool.false_ne_true, ih, Nat.add_zero]
    · rw [Invocation.count_decision_of_ne hname, failuresSince_snoc_of_ne hname, ih]

/-- **The backoff counts the failures of every authenticator since it last settled**, whatever
happened to the others in between, and every failure waits for the delay of exactly that count. A
pass that created or adopted something neither counts nor settles. -/
theorem failures_count_until_settled (base max : Duration) (history : List Invocation) :
    (∀ name, (replay { base, max } history).count name =
      min (2 ^ 32 - 1) (failuresSince name history)) ∧
    ∀ earlier i later, history = earlier ++ i :: later →
      (i.decision (replay { base, max } earlier)).action =
        i.nextAction? base max
          (min (2 ^ 32 - 1) (failuresSince i.authenticator.fullName (earlier ++ [i]))) ∧
      (1 / 2 ≤ i.jitter → i.jitter < 3 / 2 → 2 * max.nanos ≤ Duration.limit →
        ∃ action, (i.decision (replay { base, max } earlier)).action = some action) := by
  refine ⟨fun name => (count_replay base max history name).trans (Nat.min_comm ..),
    fun earlier i later _ => ?_⟩
  have haction : (i.decision (replay { base, max } earlier)).action = i.nextAction? base max
      (min (2 ^ 32 - 1) (failuresSince i.authenticator.fullName (earlier ++ [i]))) := by
    rw [Invocation.action_decision, base_replay, max_replay, ← replay_snoc, count_replay,
      Nat.min_comm]
    rfl
  refine ⟨haction, fun hlow hhigh hmax => ?_⟩
  rw [haction]
  exact Invocation.exists_nextAction hmax (by linarith) hhigh _

end Schedule

end AuthProxy
