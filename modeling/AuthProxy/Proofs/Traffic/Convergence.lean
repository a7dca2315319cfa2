import AuthProxy.Proofs.Pass.Undisturbed
import AuthProxy.Proofs.Traffic.Serves
import Mathlib.Data.Bool.Basic

/-! # Convergence

After whatever passes did or left undone, undisturbed passes over a serviceable authenticator get
done, and soon: each one before makes something that was missing (`missing` counts), and nothing
that was made goes missing again. An undisturbed pass is itself traffic of one pass, so all that
traffic keeps is kept by it.
-/

namespace AuthProxy

/-! ## A pass as traffic -/

namespace Traffic

theorem step_call_of_next {t : Traffic} {u : Underway} {call : Call}
    {next : call.Result → Program Outcome} (hu : t.passes[0]? = some u)
    (hn : u.rest.nextCall? = some ⟨call, next⟩) :
    (t.step (.call 0 none)).cluster = (Cluster.answer call t.cluster).2 ∧
      (t.step (.call 0 none)).passes[0]? =
        some (u.resume call (Cluster.answer call t.cluster).1
          (next (Cluster.answer call t.cluster).1)) := by
  simp only [step, hu, advance, hn, deliver, true_and]
  rw [List.getElem?_set_self (List.getElem?_eq_some_iff.1 hu).1]

/-- Calls of one pass, one after the other, run the rest of it. By induction on what is left of the
pass; notices make no event. -/
theorem calls_run (p : Program Outcome) {t : Traffic} {u : Underway}
    (hu : t.passes[0]? = some u) (hp : u.rest.nextCall? = p.nextCall?) :
    ∃ n, ((List.replicate n (.call 0 none)).foldl step t).cluster =
      (p.run Cluster.answer t.cluster).store := by
  induction p generalizing t u with
  | done a => exact ⟨0, rfl⟩
  | fail e => exact ⟨0, rfl⟩
  | note n p ih => exact ih hu hp
  | call call next ih =>
    obtain ⟨hcluster, hpass⟩ := step_call_of_next hu hp
    obtain ⟨n, hn⟩ := ih _ hpass rfl
    refine ⟨n + 1, ?_⟩
    rw [List.replicate_succ, List.foldl_cons, hn, hcluster]
    rfl

/-- An undisturbed pass is traffic without events from outside. -/
theorem pass_run (c : Cluster) (settings : Settings) (key : ObjectName) (fresh : Credentials) :
    ∃ es, (∀ e ∈ es, e.isOperators = true) ∧ (after c es).cluster =
      ((Authenticator.pass settings key.ns key.name fresh).run Cluster.answer c).store := by
  let t : Traffic := ⟨c, [.start settings key fresh], []⟩
  obtain ⟨n, hn⟩ := calls_run (t := t) (u := .start settings key fresh)
    (Authenticator.pass settings key.ns key.name fresh) rfl rfl
  refine ⟨.start settings key fresh :: List.replicate n (.call 0 none), fun e he => ?_, hn⟩
  rcases List.mem_cons.1 he with rfl | he
  · rfl
  · rw [List.eq_of_mem_replicate he]
    rfl

/-- Passes remove nothing. -/
theorem stays_after {c : Cluster} (hc : c.WellKept) {es : List Event}
    (hes : ∀ e ∈ es, e.isOperators = true) {k : Kind} {key : ObjectName}
    (h : (c.get? k key).isSome = true) : ((after c es).cluster.get? k key).isSome = true := by
  refine operators_induction (P := fun t => (t.cluster.get? k key).isSome = true) hes h ?_ ?_
  · intro t t' h ht _
    rw [Cluster.get?, ht]
    exact h
  · intro es _ h i u failure call r hs
    exact ((sound_after hc es).objectChange hs).stays h

end Traffic

/-! ## What is missing -/

/-- Whether a standalone proxy has no Deployment. -/
def lacksDeployment (c : Cluster) (key : ObjectName) (a : Authenticator) : Bool :=
  decide (a.spec.mode = .standalone) &&
    !(c.get? .deployment (key.dependent .deployment)).isSome

/-- How many of the things that passes over the authenticator make are missing: the reference, the
ConfigMap, and the Deployment of a standalone proxy. -/
def missing (c : Cluster) (key : ObjectName) (a : Authenticator) : Nat :=
  (decide (a.spec.credentialsSecretRef = "")).toNat +
    (!(c.get? .configMap (key.dependent .configMap)).isSome).toNat + (lacksDeployment c key a).toNat

theorem missing_lt (c : Cluster) (key : ObjectName) (a : Authenticator) :
    missing c key a < if a.spec.mode = .standalone then 4 else 3 := by
  have hreference := Bool.toNat_le (decide (a.spec.credentialsSecretRef = ""))
  have hconfigMap := Bool.toNat_le (!(c.get? .configMap (key.dependent .configMap)).isSome)
  have hdeployment := Bool.toNat_le (lacksDeployment c key a)
  rw [missing]
  split
  · omega
  · next along =>
    have hnone : lacksDeployment c key a = false := by simp [lacksDeployment, along]
    rw [hnone] at hdeployment ⊢
    rw [Bool.toNat_false]
    omega

/-- What is achieved is no longer missing, and nothing else has gone missing. -/
theorem Achieves.missing_decreases {c c' : Cluster} {key : ObjectName} {a b : Authenticator}
    (h : Achieves key a c c') (hb : c'.get? .authenticator key = some b) (hsame : a.SameService b)
    (hstays : ∀ k key', (c.get? k key').isSome = true → (c'.get? k key').isSome = true) :
    missing c' key b < missing c key a := by
  have hreference : (decide (b.spec.credentialsSecretRef = "")).toNat ≤
      (decide (a.spec.credentialsSecretRef = "")).toNat := by
    refine Bool.toNat_le_toNat fun hunset => decide_eq_true ?_
    by_contra hset
    rw [hsame.reference_eq hset] at hunset
    exact hset (of_decide_eq_true hunset)
  have habsent : ∀ k key', (!(c'.get? k key').isSome) = true →
      (!(c.get? k key').isSome) = true := by
    intro k key' hnone
    cases hsome : (c.get? k key').isSome with
    | false => rfl
    | true => rw [hstays k key' hsome] at hnone; cases hnone
  have hconfigMap := Bool.toNat_le_toNat (habsent .configMap (key.dependent .configMap))
  have hdeployment : (lacksDeployment c' key b).toNat ≤ (lacksDeployment c key a).toNat := by
    apply Bool.toNat_le_toNat
    intro hlacks
    rw [lacksDeployment, Bool.and_eq_true] at hlacks ⊢
    rw [← hsame.mode_eq]
    exact hlacks.imp_right (habsent _ _)
  rw [missing, missing]
  cases h with
  | reference unset now set =>
    obtain rfl := Option.some.inj (now.symm.trans hb)
    rw [decide_eq_true unset, decide_eq_false set, Bool.toNat_true, Bool.toNat_false]
    omega
  | configMap absent there =>
    rw [absent, there, Bool.not_true, Bool.not_false, Bool.toNat_true, Bool.toNat_false]
    omega
  | deployment alone absent there =>
    have hbefore : lacksDeployment c key a = true := by simp [lacksDeployment, alone, absent]
    have hafter : lacksDeployment c' key b = false := by simp [lacksDeployment, there]
    rw [hbefore, hafter, Bool.toNat_true, Bool.toNat_false]
    omega

/-! ## Passes that nothing disturbs -/

namespace Authenticator

/-- How pass number `n` ends if passes over the authenticator at `key` run one after the other, and
nothing else happens. Pass `i` has the credentials `fresh i` at hand. -/
def outcome (settings : Settings) (key : ObjectName) (fresh : Nat → Credentials) (c : Cluster) :
    Nat → Except Error Outcome
  | 0 => ((pass settings key.ns key.name (fresh 0)).run Cluster.answer c).result
  | n + 1 => outcome settings key (fun i => fresh (i + 1))
      ((pass settings key.ns key.name (fresh 0)).run Cluster.answer c).store n

/-- An undisturbed pass is done, or less is missing after it and the authenticator is as serviceable
as before. -/
theorem pass_progress {key : ObjectName} {c : Cluster} {a : Authenticator} (hc : c.WellKept)
    (calm : c.pendingConflict = none) (hs : Serviceable c key a) (settings : Settings)
    (fresh : Credentials) :
    let run := (pass settings key.ns key.name fresh).run Cluster.answer c
    (∃ r, run.result = .ok (.done r)) ∨
      ∃ reason b, run.result = .ok (.requeue reason) ∧ reason.IsSelfCaused ∧
        Serviceable run.store key b ∧ missing run.store key b < missing c key a := by
  rcases pass_achieves hc calm hs settings fresh with
    ⟨r, c', hdone, -⟩ | ⟨reason, c', hreason, ⟨hrequeue, rfl⟩, hachieves⟩
  · exact .inl ⟨r, hdone⟩
  · -- The pass is traffic of its own, so it keeps what traffic keeps.
    obtain ⟨es, hes, hcluster⟩ := Traffic.pass_run c settings key fresh
    obtain ⟨b, hb, hsame⟩ := (Traffic.serves_after hc hs es hes).now
    rw [hcluster] at hb
    refine .inr ⟨reason, b, hrequeue, hreason, hb, ?_⟩
    exact hachieves.missing_decreases hb.found hsame fun k key' h => by
      rw [← hcluster]
      exact Traffic.stays_after hc hes h

/-- Undisturbed passes get done once nothing is missing. By induction on a bound of what is missing,
which every pass that is not done brings down. -/
theorem outcome_done {key : ObjectName} {c : Cluster} {a : Authenticator} (hc : c.WellKept)
    (calm : c.pendingConflict = none) (hs : Serviceable c key a) {bound : Nat}
    (hbound : missing c key a ≤ bound) (settings : Settings) (fresh : Nat → Credentials) :
    ∃ n r, n ≤ bound ∧ outcome settings key fresh c n = .ok (.done r) ∧
      ∀ m, m < n → ∃ reason, outcome settings key fresh c m = .ok (.requeue reason) ∧
        reason.IsSelfCaused := by
  induction bound generalizing c a fresh with
  | zero =>
    rcases pass_progress hc calm hs settings (fresh 0) with
      ⟨r, hdone⟩ | ⟨reason, b, -, -, -, hless⟩
    · exact ⟨0, r, Nat.le_refl 0, hdone, fun m hm => absurd hm (Nat.not_lt_zero m)⟩
    · omega
  | succ bound ih =>
    rcases pass_progress hc calm hs settings (fresh 0) with
      ⟨r, hdone⟩ | ⟨reason, b, hrequeue, hreason, hb, hless⟩
    · exact ⟨0, r, Nat.zero_le _, hdone, fun m hm => absurd hm (Nat.not_lt_zero m)⟩
    · obtain ⟨n, r, hn, hdone, hbefore⟩ := ih (hc.run _)
        (Cluster.run_pendingConflict calm _) hb (by omega) fun i => fresh (i + 1)
      refine ⟨n + 1, r, Nat.succ_le_succ hn, hdone, ?_⟩
      intro m hm
      cases m with
      | zero => exact ⟨reason, hrequeue, hreason⟩
      | succ m => exact hbefore m (Nat.lt_of_succ_lt_succ hm)

/-- **Passes converge**, whatever passes over a serviceable authenticator did or left undone before:
the fourth undisturbed pass is done at the latest, and the third one if the proxy runs in the
workloads. Each one before has created or adopted something. -/
theorem passes_converge {c : Cluster} (h : c.Reachable) {key : ObjectName} {a : Authenticator}
    (hs : Serviceable c key a) (es : List Event) (hes : ∀ e ∈ es, e.isOperators = true)
    (calm : (Traffic.after c es).cluster.pendingConflict = none) (settings : Settings)
    (fresh : Nat → Credentials) :
    let left := (Traffic.after c es).cluster
    ∃ n r, n < (if a.spec.mode = .standalone then 4 else 3) ∧
      outcome settings key fresh left n = .ok (.done r) ∧
      ∀ m, m < n → ∃ kind,
        outcome settings key fresh left m = .ok (.requeue (.created kind)) ∨
          outcome settings key fresh left m = .ok (.requeue (.adopted kind)) := by
  intro left
  obtain ⟨b, hb, hsame⟩ := (Traffic.serves_after h.wellKept hs es hes).now
  have hwellKept : left.WellKept := (Traffic.sound_after h.wellKept es).wellKept
  obtain ⟨n, r, hn, hdone, hbefore⟩ := outcome_done hwellKept calm hb (Nat.le_refl _)
    settings fresh
  have hfew := missing_lt left key b
  rw [hsame.mode_eq] at hfew
  refine ⟨n, r, Nat.lt_of_le_of_lt hn hfew, hdone, ?_⟩
  intro m hm
  obtain ⟨reason, hrequeue, kind, rfl | rfl⟩ := hbefore m hm
  · exact ⟨kind, .inl hrequeue⟩
  · exact ⟨kind, .inr hrequeue⟩

/-- The first pass was cut off when it had created the Secret. -/
theorem passes_converge_after_cut :
    let left := (Traffic.after (.ofChanges [.place .authenticator .gate])
      [.start {} ⟨"apps", "gate"⟩ ⟨"user", "word"⟩, .call 0 none, .call 0 none, .call 0 none,
        .cut 0]).cluster
    ∃ n r, n < 4 ∧ outcome {} ⟨"apps", "gate"⟩ (fun _ => ⟨"other", "word"⟩) left n = .ok (.done r) ∧
      ∀ m, m < n → ∃ kind,
        outcome {} ⟨"apps", "gate"⟩ (fun _ => ⟨"other", "word"⟩) left m =
            .ok (.requeue (.created kind)) ∨
          outcome {} ⟨"apps", "gate"⟩ (fun _ => ⟨"other", "word"⟩) left m =
            .ok (.requeue (.adopted kind)) := by
  have hserviceable : Serviceable (.ofChanges [.place .authenticator .gate]) ⟨"apps", "gate"⟩
      { gate with metadata := { gate.metadata with uid := "uid-1", resourceVersion := "1" } } := {
    found := rfl
    identified := ⟨rfl, rfl, rfl⟩
    reference := fun hset => absurd rfl hset
    credentials := fun _ _ h => by cases h
    configMap := fun _ h => by cases h
    deployment := fun _ _ h => by cases h
    appService := fun _ => by decide
    selector := fun h => by cases h }
  exact passes_converge (Cluster.reachable_ofChanges _) hserviceable _ (by simp [Event.isOperators])
    rfl {} fun _ => ⟨"other", "word"⟩

end Authenticator

end AuthProxy
