import AuthProxy.Proofs.Pass.Idempotence

/-! # Repair of a drifted Deployment

A standalone step that goes on has written its Deployment if that did not have the shape of the
proxy, and not otherwise. What the cluster fills in by itself is no part of a shape, so it is never
taken for drift and what was just written is up to date.
-/

namespace AuthProxy

/-- What became of the Deployment `found` at `key`, which should have been like `desired`. -/
structure RepairedExactly (key : ObjectName) (found desired : Deployment) (ready : Int32)
    (c c' : Cluster) : Prop where
  /-- It was written if it had drifted, and only then. -/
  writes : c'.writes = c.writes ++
    if found.SameShape desired then [] else [⟨.update, .deployment, key.name⟩]
  /-- Where nothing was written, nothing at all has happened. -/
  untouched : found.SameShape desired → c' = c
  others : Cluster.OnlyAt .deployment key c c'
  /-- It has the desired shape. Of the metadata only the version may be new, and the ready replicas
  are those of the status, which stays. -/
  stored : ∃ now v, c'.get? .deployment key = some now ∧ now.SameShape desired ∧
    now.metadata = { found.metadata with resourceVersion := v } ∧ now.status = found.status ∧
    (now.status.bind (·.readyReplicas)).getD 0 = ready

theorem Deployment.withDefaults_sameShape (d : Deployment) : d.withDefaults.SameShape d :=
  outline_eq_iff.1 d.outline_withDefaults

namespace Authenticator

open Program

variable {a : Authenticator} {c c' : Cluster} {found desired : Deployment} {key : ObjectName}

theorem Repaired.exactly (hc : c.WellKept) (hfound : c.get? .deployment key = some found)
    (h : Repaired found desired c c') :
    RepairedExactly key found desired (found.readyReplicas?.getD 0) c c' := by
  obtain ⟨only, now, v, hnow, hshape, hmeta, hstatus⟩ := h.stored hc hfound
  refine ⟨?_, fun hsame => ?_, only, now, v, hnow, hshape, hmeta, hstatus, ?_⟩
  · have hname : found.nameAny = key.name := congrArg ObjectName.name (hc.key_eq hfound)
    by_cases hsame : found.SameShape desired
    · rw [Repaired, if_pos hsame] at h
      rw [if_pos hsame, List.append_nil, h]
    · rw [Repaired, if_neg hsame] at h
      obtain ⟨v, -, hwrites⟩ := h
      rw [if_neg hsame, hwrites, hname]
  · rw [Repaired, if_pos hsame] at h
    exact h
  · rw [hstatus]
    rfl

/-- **Drift is repaired, and defaults are no drift.** Two outlines are the same if and only if the
shapes are; defaults change neither, and filling them in twice is filling them in once. A
standalone step that finds its Deployment, whatever that contains, goes on unless it is to lose its
write; if it goes on, it has repaired the Deployment exactly, so that it has the shape of the proxy,
and another step from there goes on with the same ready replicas and changes nothing. -/
theorem drift_repaired_exactly :
    (∀ d x : Deployment, d.outline = x.outline ↔ d.SameShape x) ∧
    (∀ d : Deployment, d.withDefaults.outline = d.outline ∧ d.withDefaults.SameShape d ∧
      d.withDefaults.withDefaults = d.withDefaults) ∧
    ∀ (c : Cluster) (a : Authenticator) (ns secret map : String) (settings : Settings)
      (found : Deployment), c.Reachable → a.metadata.ns = some ns →
      c.get? .deployment ⟨ns, a.ownDeploymentName⟩ = some found → a.Owns found.metadata →
      let step := a.standaloneStep secret map settings
      (∀ n desired, a.chooseReplicas.Yields Cluster.answer c n c →
        a.makeDeployment secret map n settings = .ok desired →
        found.SameShape desired ∨ c.pendingConflict ≠ some .deployment →
          ∃ ready c', step.Yields Cluster.answer c (.proceed ready) c') ∧
      ∀ ready c', step.Yields Cluster.answer c (.proceed ready) c' →
        (∃ n desired, a.chooseReplicas.Yields Cluster.answer c n c ∧ a.WantsReplicas c n ∧
          a.makeDeployment secret map n settings = .ok desired ∧
          desired.IsProxyOf a settings secret map n ∧
          RepairedExactly ⟨ns, a.ownDeploymentName⟩ found desired ready c c') ∧
        step.Yields Cluster.answer c' (.proceed ready) c' := by
  refine ⟨fun d x => Deployment.outline_eq_iff, fun d => ?_, ?_⟩
  · exact ⟨d.outline_withDefaults, d.withDefaults_sameShape, d.withDefaults_withDefaults⟩
  intro c a ns secret map settings found hreachable hns hfound howned step
  have hc := hreachable.wellKept
  refine ⟨fun n desired hn hmade hcalm => ?_, fun ready c' h => ?_⟩
  · exact ⟨_, standaloneStep_of_owned hc hns hfound howned hn hmade hcalm⟩
  · obtain ⟨x, n, desired, hx, -, hn, hmade, hrepaired, rfl⟩ :=
      (standaloneStep_repairs hc rfl).yields h
    rw [dependent_deployment hns] at hx
    obtain rfl : found = x := Option.some.inj (hfound.symm.trans hx)
    have hproxy : desired.IsProxyOf a settings secret map n :=
      (isProxyOf_iff hmade).2 (Deployment.outline_eq_iff.1 rfl)
    refine ⟨⟨n, desired, hn, wantsReplicas_of_yields hn, hmade, hproxy,
      hrepaired.exactly hc hfound⟩, ?_⟩
    have hid := (makeDeployment_eq_ok hmade).1.identified
    rw [← dependent_deployment hns] at hfound
    exact standaloneStep_of_runsProxy hid rfl (hrepaired.runsProxy hc rfl hfound howned hn hmade)

/-- A standalone authenticator. -/
def warden : Authenticator where
  metadata := { name := some "gate", ns := some "apps", uid := some "uid-of-gate" }
  spec := { credentialsSecretRef := "users", appPort := 80, appService := "app", replicas := 2 }

/-- Somebody gave its Deployment another container. -/
def strayed : Cluster :=
  .ofChanges [.place .deployment {
    metadata := {
      name := some "gate-nginx", ns := some "apps"
      ownerReferences := some [{ uid := "uid-of-gate" }] }
    spec := some {
      replicas := some 2
      template := { spec := some { containers := [{ name := "other" }] } } }
    status := some { readyReplicas := some 1 } }]

/-- Its container is replaced, and the cluster fills in how long the history is, of which the
authenticator says nothing. To another step that is no drift. -/
theorem drift_repaired_exactly_where_strayed :
    let step := warden.standaloneStep "users" "gate-nginx-conf" {}
    ∃ c' now, step.Yields Cluster.answer strayed (.proceed 1) c' ∧
      c'.writes = [⟨.update, .deployment, "gate-nginx"⟩] ∧
      c'.get? .deployment ⟨"apps", "gate-nginx"⟩ = some now ∧
      now.IsProxyOf warden {} "users" "gate-nginx-conf" 2 ∧
      now.spec.bind (·.revisionHistoryLimit) = some 10 ∧
      step.Yields Cluster.answer c' (.proceed 1) c' := by
  intro step
  have hsees : (strayed.get? .deployment ⟨"apps", "gate-nginx"⟩).map (fun d : Deployment =>
      (decide (warden.Owns d.metadata), d.readyReplicas?, d.containers.map (·.name))) =
        some (true, some 1, ["other"]) := by decide +kernel
  obtain ⟨found, hfound, hsees⟩ := Option.map_eq_some_iff.1 hsees
  simp only [Prod.mk.injEq, decide_eq_true_eq] at hsees
  obtain ⟨howned, hready, hother⟩ := hsees
  obtain ⟨hgoes, hrepairs⟩ := drift_repaired_exactly.2.2 strayed warden "apps" "users"
    "gate-nginx-conf" {} found (Cluster.reachable_ofChanges _) rfl hfound howned
  obtain ⟨ready, c', hyields⟩ := hgoes 2 _ (chooseReplicas_yields.2 ⟨rfl, rfl⟩) rfl
    (.inr (by decide +kernel))
  obtain ⟨⟨n, desired, -, hwants, hmade, hproxy, hexact⟩, hagain⟩ := hrepairs ready c' hyields
  have hdrift : ¬ found.SameShape desired := by
    intro hsame
    -- The proxy is the only container of what is desired.
    obtain ⟨x, hx, hname⟩ := ((isProxyOf_iff hmade).2 hsame).containers
    rw [hx, List.map_singleton, hname.name] at hother
    exact absurd hother (by decide)
  obtain ⟨now, v, hnow, hshape, -, hstatus, hcount⟩ := hexact.stored
  obtain rfl : 1 = ready := by
    rw [← hcount, hstatus]
    show 1 = found.readyReplicas?.getD 0
    rw [hready]
    rfl
  obtain rfl : n = 2 := hwants.fixed (.inl rfl)
  have hlimit : ((step.run Cluster.answer strayed).store.get? .deployment
      ⟨"apps", "gate-nginx"⟩).map (fun d : Deployment => d.spec.bind (·.revisionHistoryLimit)) =
        some (some 10) := by decide +kernel
  have hstore : (step.run Cluster.answer strayed).store = c' := hyields.2
  rw [hstore, show c'.get? .deployment ⟨"apps", "gate-nginx"⟩ = some now from hnow] at hlimit
  refine ⟨c', now, hyields, ?_, hnow, (isProxyOf_iff hmade).2 hshape, by simpa using hlimit, hagain⟩
  rw [hexact.writes, if_neg hdrift]
  rfl

end Authenticator

end AuthProxy
