import AuthProxy.Proofs.Deployments
import AuthProxy.Proofs.Pass.Adaptive
import Mathlib.Data.List.Basic

/-! # Proxies that are settled

The two steps that put the proxy in front of the workload. Both change Deployments after they have
listed them, so a later listing differs; but not in what the step reads off it: the replicas that
are followed, the workloads that lack a proxy, and the ready replicas.
-/

namespace AuthProxy

namespace Cluster

/-- The Deployment of the authenticator at `key` is as it should be, with as many replicas as it
should have in this cluster, of which `ready` are ready. -/
def RunsProxy (c : Cluster) (settings : Settings) (key : ObjectName) (a : Authenticator)
    (secret map : String) (ready : Int32) : Prop :=
  ∃ d n, c.get? .deployment (key.dependent .deployment) = some d ∧ a.Owns d.metadata ∧
    a.chooseReplicas.Yields answer c n c ∧ a.WantsReplicas c n ∧
      d.IsProxyOf a settings secret map n ∧ (d.status.bind (·.readyReplicas)).getD 0 = ready

/-- No workload that the authenticator selects lacks a proxy that could be added to it, and `ready`
replicas are ready behind its own proxies. -/
def LacksNoProxy (c : Cluster) (settings : Settings) (a : Authenticator) (secret map : String)
    (ready : Int32) : Prop :=
  if a.spec.selector.isEmpty then ready = 0
  else ∃ ns workloads, a.metadata.ns = some ns ∧
    c.list .deployment ns a.spec.selector = .ok workloads ∧
      a.addProxies secret map settings workloads = [] ∧ a.proxiedReady workloads [] = ready

/-- Of the Deployments only the one at `x` may differ, and not in its labels. -/
structure KeepsLabels (x : ObjectName) (c c' : Cluster) : Prop where
  names : ∀ y, y ≠ x → c'.get? .deployment y = c.get? .deployment y
  labels : (c'.get? .deployment x).map (·.metadata.labels) =
    (c.get? .deployment x).map (·.metadata.labels)

theorem KeepsLabels.labels_eq {x : ObjectName} {c c' : Cluster} (h : KeepsLabels x c c')
    (y : ObjectName) : (c'.get? .deployment y).map (·.metadata.labels) =
      (c.get? .deployment y).map (·.metadata.labels) := by
  by_cases hy : y = x
  · rw [hy, h.labels]
  · rw [h.names y hy]

theorem KeepsLabels.list {x : ObjectName} {c c' : Cluster} (h : KeepsLabels x c c')
    (hc : c.WellKept) {ns : String} {selector : LabelSelector} {workloads : List Deployment}
    (hlist : c.list .deployment ns selector = .ok workloads) :
    c'.list .deployment ns selector = .ok (workloads.map (c'.current .deployment)) := by
  refine hc.list_current (fun y => ?_) hlist
  have hlabels := congrArg (Option.map (·.getD .empty)) (h.labels_eq y)
  rw [Option.map_map, Option.map_map] at hlabels
  exact hlabels

end Cluster

namespace Authenticator

open Program

variable {a : Authenticator} {settings : Settings} {c c' d : Cluster} {ns secret map : String}
  {key : ObjectName} {ready : Int32}

/-! ## Standalone -/

/-- The replicas that follow from a listing do not depend on the proxy's own Deployment. -/
theorem followedReplicas_map {f : Deployment → Deployment} {workloads : List Deployment}
    (hname : ∀ d ∈ workloads, (f d).nameAny = d.nameAny)
    (hother : ∀ d ∈ workloads, d.nameAny ≠ a.ownDeploymentName → f d = d) :
    a.followedReplicas (workloads.map f) = a.followedReplicas workloads := by
  rw [followedReplicas, followedReplicas, List.filter_map, List.map_map]
  have hfilter : workloads.filter ((fun d => d.nameAny != a.ownDeploymentName) ∘ f) =
      workloads.filter fun d => d.nameAny != a.ownDeploymentName :=
    List.filter_congr fun d hd => by rw [Function.comp_apply, hname d hd]
  rw [hfilter]
  apply List.map_congr_left
  intro d hd
  obtain ⟨hd, hne⟩ := List.mem_filter.1 hd
  rw [Function.comp_apply, hother d hd (by simpa using hne)]

/-- The choice of replicas fails, or it is the choice that is made when no call fails. -/
theorem chooseReplicas_ensures :
    a.chooseReplicas.Ensures Quiet (fun r c' => c' = c ∧
      ∀ n, r = .ok n → a.chooseReplicas.Yields Cluster.answer c n c) c := by
  suffices h : a.chooseReplicas.Ensures Quiet (fun r c' => c' = c ∧ ∀ n, r = .ok n →
      if a.followsWorkloads then ∃ ns workloads, a.metadata.ns = some ns ∧
        c.list .deployment ns a.spec.selector = .ok workloads ∧
          n = a.replicasFor (a.followedReplicas workloads)
      else n = a.spec.replicas) c from
    h.mono (fun _ _ hq => hq) fun r c' hr =>
      ⟨hr.1, fun n hn => chooseReplicas_yields.2 ⟨rfl, hr.2 n hn⟩⟩
  rw [chooseReplicas, not_followsWorkloads]
  cases a.followsWorkloads with
  | false => exact ⟨rfl, fun n hn => (Except.ok.inj hn).symm⟩
  | true =>
    simp only [Bool.not_true, Bool.false_eq_true, if_false, if_true]
    refine ensures_lift (fun ns hns => ?_) fun _ _ => ⟨rfl, fun n hn => by cases hn⟩
    refine ensures_list (fun h => by cases h) (fun workloads hlist => ?_) fun _ =>
      ⟨rfl, fun n hn => by cases hn⟩
    have hchosen : ∀ n, a.replicasFor (a.followedReplicas workloads) = n →
        ∃ ns workloads, a.metadata.ns = some ns ∧
          c.list .deployment ns a.spec.selector = .ok workloads ∧
            n = a.replicasFor (a.followedReplicas workloads) :=
      fun n hn => ⟨ns, workloads, ownNamespace_eq_ok_iff.1 hns, hlist, hn.symm⟩
    unfold replicasFor at hchosen
    split
    · next hempty =>
      exact ⟨rfl, fun n hn => hchosen n (by simpa [hempty] using Except.ok.inj hn)⟩
    · next hempty =>
      split <;> next hsum =>
        exact ⟨rfl, fun n hn => hchosen n (by simpa [hempty, hsum] using Except.ok.inj hn)⟩

/-- The standalone step has nothing to do where the Deployment is as it should be. -/
theorem standaloneStep_of_runsProxy (hid : a.Identified) (hkey : Kind.authenticator.key a = key)
    (h : c.RunsProxy settings key a secret map ready) :
    (a.standaloneStep secret map settings).Yields Cluster.answer c (.proceed ready) c := by
  obtain ⟨d, n, hd, howned, hn, -, hproxy, rfl⟩ := h
  obtain ⟨desired, hmade⟩ := hid.makeDeployment secret map n settings
  have houtline := Deployment.outline_eq_iff.2 ((isProxyOf_iff hmade).1 hproxy)
  obtain ⟨ns, hns⟩ := Option.isSome_iff_exists.1 hid.ns_isSome
  rw [← hkey, dependent_deployment hns] at hd
  rw [← owns_eq_true_iff] at howned
  refine (yields_lift _ _).2 ⟨ns, ownNamespace_eq_ok_iff.2 hns, ?_⟩
  refine (yields_bind _ _).2 ⟨n, c, hn, (yields_lift _ _).2 ⟨desired, hmade, yields_get.2 ?_⟩⟩
  rw [hd]
  simp [howned, houtline, Deployment.readyReplicas?]

/-- A standalone step that finds its Deployment goes on, unless it has to write it and a conflict
was asked for. -/
theorem standaloneStep_of_owned {found desired : Deployment} {n : Int32} (hc : c.WellKept)
    (hns : a.metadata.ns = some ns)
    (hfound : c.get? .deployment ⟨ns, a.ownDeploymentName⟩ = some found)
    (howned : a.Owns found.metadata) (hn : a.chooseReplicas.Yields Cluster.answer c n c)
    (hmade : a.makeDeployment secret map n settings = .ok desired)
    (hcalm : found.SameShape desired ∨ c.pendingConflict ≠ some .deployment) :
    ∃ c', (a.standaloneStep secret map settings).Yields Cluster.answer c
      (.proceed (found.readyReplicas?.getD 0)) c' := by
  by_cases hshape : found.SameShape desired
  · have hid := (makeDeployment_eq_ok hmade).1.identified
    exact ⟨c, standaloneStep_of_runsProxy hid rfl ⟨found, n, dependent_deployment hns ▸ hfound,
      howned, hn, wantsReplicas_of_yields hn, (isProxyOf_iff hmade).2 hshape, rfl⟩⟩
  · have houtline : ¬ found.outline = desired.outline := mt Deployment.outline_eq_iff.1 hshape
    rw [← owns_eq_true_iff] at howned
    have hself : c.get? .deployment
        (Kind.deployment.key { found with spec := desired.spec }) = some found := by
      rw [← hfound, ← hc.key_eq hfound]
      rfl
    obtain ⟨stored, c', v, hupdate, -, -⟩ := Cluster.update_of_current hself
      (hcalm.resolve_left hshape) (Cluster.isStale_eq_false_iff.2 (.inr rfl))
    refine ⟨c', (yields_lift _ _).2 ⟨ns, ownNamespace_eq_ok_iff.2 hns, ?_⟩⟩
    refine (yields_bind _ _).2 ⟨n, c, hn, (yields_lift _ _).2 ⟨desired, hmade, yields_get.2 ?_⟩⟩
    simp only [hfound, howned, Bool.not_true, Bool.false_eq_true, if_false, houtline]
    refine (yields_tell _ _).2 ((yields_attempt _ _).2 (.inl ⟨stored, c', hupdate, ?_⟩))
    exact yields_pure.2 ⟨rfl, rfl⟩

theorem chooseReplicas_congr {n : Int32} (hn : a.chooseReplicas.Yields Cluster.answer c n c)
    (hd : d.tables.table .deployment = c.tables.table .deployment) :
    a.chooseReplicas.Yields Cluster.answer d n d := by
  obtain ⟨-, hn⟩ := chooseReplicas_yields.1 hn
  refine chooseReplicas_yields.2 ⟨rfl, ?_⟩
  simpa only [Cluster.list_congr hd] using hn

/-- Where the labels of one Deployment stay, and it is the proxy's own or is not selected, the
choice of replicas stays. -/
theorem chooseReplicas_of_keepsLabels {n : Int32} {x : ObjectName} (hc : c.WellKept)
    (hc' : c'.WellKept) (hn : a.chooseReplicas.Yields Cluster.answer c n c)
    (h : Cluster.KeepsLabels x c c')
    (hfree : ∀ s d, a.followsWorkloads = true → a.metadata.ns = some x.ns →
      a.spec.selector.checked = .ok s → c.get? .deployment x = some d →
        s.selects d.metadata.labelMap = true → x.name = a.ownDeploymentName) :
    a.chooseReplicas.Yields Cluster.answer c' n c' := by
  obtain ⟨-, hn⟩ := chooseReplicas_yields.1 hn
  refine chooseReplicas_yields.2 ⟨rfl, ?_⟩
  cases hfollows : a.followsWorkloads with
  | false => simpa [hfollows] using hn
  | true =>
    simp only [hfollows, if_true] at hn ⊢
    obtain ⟨ns, workloads, hns, hlist, rfl⟩ := hn
    refine ⟨ns, _, hns, h.list hc hlist, ?_⟩
    rw [followedReplicas_map]
    · intro d hd
      exact congrArg ObjectName.name (hc'.key_current (k := .deployment) d)
    · -- The proxy does not follow itself.
      intro d hd hother
      obtain ⟨hstored, rfl⟩ := hc.get?_of_list hlist hd
      obtain ⟨s, hs, rfl⟩ := Cluster.list_eq_ok_iff.1 hlist
      have hne : Kind.deployment.key d ≠ x := by
        rintro rfl
        exact hother (hfree s d hfollows hns hs hstored (List.mem_filter.1 hd).2)
      rw [Cluster.current, h.names _ hne, hstored]
      rfl

/-- What a standalone step makes of the Deployment `found` that should be like `desired`: it writes
what has drifted and nothing else. -/
def Repaired (found desired : Deployment) (c c' : Cluster) : Prop :=
  if found.SameShape desired then c' = c
  else ∃ v,
    Cluster.Written c c' .deployment (Kind.deployment.withVersion
      (Deployment.withDefaults { found with spec := desired.spec }) v) ∧
    c'.writes = c.writes ++ [⟨.update, .deployment, found.nameAny⟩]

theorem Repaired.wellKept {found desired : Deployment} (hc : c.WellKept)
    (h : Repaired found desired c c') : c'.WellKept := by
  unfold Repaired at h
  split at h
  · exact h ▸ hc
  · obtain ⟨v, written, -⟩ := h
    exact hc.written written

/-- Afterwards the Deployment has the desired shape, and nothing but its specification and its
version is new. -/
theorem Repaired.stored {found desired : Deployment} {x : ObjectName} (hc : c.WellKept)
    (hfound : c.get? .deployment x = some found) (h : Repaired found desired c c') :
    Cluster.OnlyAt .deployment x c c' ∧ ∃ now v, c'.get? .deployment x = some now ∧
      now.SameShape desired ∧ now.metadata = { found.metadata with resourceVersion := v } ∧
      now.status = found.status := by
  unfold Repaired at h
  split at h
  · next hshape =>
    subst h
    exact ⟨Cluster.onlyAt_refl .., found, _, hfound, hshape, rfl, rfl⟩
  · obtain ⟨v, written, -⟩ := h
    have hkey : Kind.deployment.key (Kind.deployment.withVersion
        (Deployment.withDefaults { found with spec := desired.spec }) v) = x := by
      show Kind.deployment.key found = x
      exact hc.key_eq hfound
    have hnow := written.get?_self
    rw [hkey] at hnow
    refine ⟨written.onlyAt hkey, _, v, hnow, Deployment.outline_eq_iff.1 ?_, rfl, rfl⟩
    exact Deployment.outline_withDefaults { found with spec := desired.spec }

/-- A standalone step that goes on found its Deployment and repaired it. The status was not written,
so the step reports what it read before the write. -/
theorem standaloneStep_repairs (hc : c.WellKept) (hkey : Kind.authenticator.key a = key) :
    (a.standaloneStep secret map settings).Ensures Quiet (goesOn fun ready c' =>
      ∃ found n desired, c.get? .deployment (key.dependent .deployment) = some found ∧
        a.Owns found.metadata ∧ a.chooseReplicas.Yields Cluster.answer c n c ∧
        a.makeDeployment secret map n settings = .ok desired ∧ Repaired found desired c c' ∧
        found.readyReplicas?.getD 0 = ready) c := by
  refine ensures_lift (fun ns hns => ?_) fun _ _ => trivial
  have hobject : key.dependent .deployment = ⟨ns, a.ownDeploymentName⟩ :=
    hkey ▸ dependent_deployment (ownNamespace_eq_ok_iff.1 hns)
  refine (ensures_bind _ _).2 (chooseReplicas_ensures.mono (fun _ _ hq => hq) ?_)
  rintro (e | n) c' ⟨rfl, hn⟩
  · trivial
  replace hn := hn n rfl
  refine ensures_lift (fun desired hmade => ?_) fun _ _ => trivial
  refine ensures_get nofun (fun found hfound => ?_) ?_ fun _ => trivial
  · rw [← hobject] at hfound
    cases hown : a.owns found.metadata with
    | false => simp only [hown]; trivial
    | true =>
      have howned := owns_eq_true_iff.1 hown
      simp only [hown, Bool.not_true, Bool.false_eq_true, if_false, Deployment.outline_eq_iff]
      split
      · next hshape =>
        exact ⟨found, n, desired, hfound, howned, hn, hmade, by rw [Repaired, if_pos hshape], rfl⟩
      · next hshape =>
        refine ensures_attempt nofun (fun failure stored s hd => ?_) (fun _ _ => trivial)
          fun _ _ _ => trivial
        have hupdate := deliver_update (k := .deployment)
          (o := { found with spec := desired.spec }) hd
        obtain ⟨written, -, v, hcontent⟩ := hc.written_of_update (k := .deployment)
          (o := { found with spec := desired.spec }) hfound rfl hupdate
        rw [hcontent] at written
        refine ⟨found, n, desired, hfound, howned, hn, hmade, ?_, rfl⟩
        rw [Repaired, if_neg hshape]
        exact ⟨v, written, Cluster.writes_of_update (k := .deployment)
          (o := { found with spec := desired.spec }) hupdate⟩
  · exact ensures_attempt nofun (fun _ _ _ _ => trivial) (fun _ _ => trivial) fun _ _ _ => trivial

/-- What was repaired runs the proxy. The replicas were chosen before the write and are the same
after it. -/
theorem Repaired.runsProxy {found desired : Deployment} {n : Int32} (hc : c.WellKept)
    (hkey : Kind.authenticator.key a = key)
    (hfound : c.get? .deployment (key.dependent .deployment) = some found)
    (howned : a.Owns found.metadata) (hn : a.chooseReplicas.Yields Cluster.answer c n c)
    (hmade : a.makeDeployment secret map n settings = .ok desired)
    (h : Repaired found desired c c') :
    c'.RunsProxy settings key a secret map (found.readyReplicas?.getD 0) := by
  obtain ⟨only, now, v, hnow, hshape, hmeta, hstatus⟩ := h.stored hc hfound
  obtain ⟨hdependent, -⟩ := makeDeployment_eq_ok hmade
  obtain ⟨ns, hns⟩ := Option.isSome_iff_exists.1 hdependent.identified.ns_isSome
  have hname : (key.dependent .deployment).name = a.ownDeploymentName :=
    congrArg ObjectName.name (hkey ▸ dependent_deployment hns)
  have hlabels : (c'.get? .deployment (key.dependent .deployment)).map (·.metadata.labels) =
      (c.get? .deployment (key.dependent .deployment)).map (·.metadata.labels) := by
    rw [hnow, hfound, Option.map_some, Option.map_some, hmeta]
  have hchosen : a.chooseReplicas.Yields Cluster.answer c' n c' :=
    chooseReplicas_of_keepsLabels hc (h.wellKept hc) hn ⟨only.names, hlabels⟩
      fun _ _ _ _ _ _ _ => hname
  refine ⟨now, n, hnow, ?_, hchosen, wantsReplicas_of_yields hchosen,
    (isProxyOf_iff hmade).2 hshape, ?_⟩
  · rw [hmeta]
    exact howned
  · rw [hstatus]
    rfl

/-- A standalone step that goes on found the desired shape or has just written it. It keeps the
labels of the Deployment. -/
theorem standaloneStep_ensures (hc : c.WellKept) (hkey : Kind.authenticator.key a = key) :
    (a.standaloneStep secret map settings).Ensures Quiet (goesOn fun ready c' =>
      a.Identified ∧ Cluster.OnlyAt .deployment (key.dependent .deployment) c c' ∧
        (c'.get? .deployment (key.dependent .deployment)).map (·.metadata.labels) =
          (c.get? .deployment (key.dependent .deployment)).map (·.metadata.labels) ∧
        c'.RunsProxy settings key a secret map ready) c := by
  refine (standaloneStep_repairs hc hkey).mono (fun _ _ hq => hq) ?_
  rintro (e | ready | reason) c' h
  · trivial
  · obtain ⟨found, n, desired, hfound, howned, hn, hmade, hrepaired, rfl⟩ := h
    obtain ⟨only, now, v, hnow, -, hmeta, -⟩ := hrepaired.stored hc hfound
    have hid := (makeDeployment_eq_ok hmade).1.identified
    refine ⟨hid, only, ?_, hrepaired.runsProxy hc hkey hfound howned hn hmade⟩
    rw [hnow, hfound, Option.map_some, Option.map_some, hmeta]
  · trivial

theorem runsProxy_congr (h : c.RunsProxy settings key a secret map ready)
    (hd : d.tables.table .deployment = c.tables.table .deployment) :
    d.RunsProxy settings key a secret map ready := by
  obtain ⟨o, n, ho, howned, hn, -, hrest⟩ := h
  have hchosen := chooseReplicas_congr hn hd
  exact ⟨o, n, (Cluster.get?_congr hd _).trans ho, howned, hchosen,
    wantsReplicas_of_yields hchosen, hrest⟩

theorem standaloneStep_settles (hc : c.WellKept)
    (h : (a.standaloneStep secret map settings).Yields Cluster.answer c (.proceed ready) c') :
    Cluster.OnlyChanges .deployment c c' ∧
      Settled (a.standaloneStep secret map settings) .deployment c' ready := by
  obtain ⟨hid, only, -, hruns⟩ := (standaloneStep_ensures hc rfl).yields h
  exact ⟨only.kinds, fun d hd => standaloneStep_of_runsProxy hid rfl (runsProxy_congr hruns hd)⟩

/-! ## Sidecar -/

/-- What became of the Deployments when `changed` were written: those are stored, with defaults and
a version, and nothing else differs. -/
structure Rewritten (changed : List Deployment) (c c' : Cluster) : Prop where
  others : Cluster.OnlyChanges .deployment c c'
  conflict : c'.pendingConflict = c.pendingConflict
  kept : ∀ key, (∀ d ∈ changed, Kind.deployment.key d ≠ key) →
    c'.get? .deployment key = c.get? .deployment key
  written : ∀ d ∈ changed, ∃ found v, c.get? .deployment (Kind.deployment.key d) = some found ∧
    c'.get? .deployment (Kind.deployment.key d) = some (Kind.deployment.withVersion
      (Deployment.withDefaults { d with status := found.status }) v)

theorem Rewritten.cons {o stored found : Deployment} {rest : List Deployment} {s : Cluster}
    {v : Option String} (written : Cluster.Written c s .deployment stored)
    (hfound : c.get? .deployment (Kind.deployment.key o) = some found)
    (hstored : stored = Kind.deployment.withVersion
      (Deployment.withDefaults { o with status := found.status }) v)
    (hdistinct : ∀ x ∈ rest, Kind.deployment.key o ≠ Kind.deployment.key x)
    (h : Rewritten rest s c') : Rewritten (o :: rest) c c' := by
  have hkey : Kind.deployment.key stored = Kind.deployment.key o := by
    rw [hstored]
    rfl
  refine ⟨fun j hj => (h.others j hj).trans (written.otherTables j hj),
    h.conflict.trans written.conflict, fun key hne => ?_, fun d hd => ?_⟩
  · rw [h.kept key fun d hd => hne d (List.mem_cons_of_mem _ hd)]
    exact written.get?_of_ne_key (hkey ▸ (hne o List.mem_cons_self).symm)
  · rcases List.mem_cons.1 hd with rfl | hd
    · refine ⟨found, v, hfound, ?_⟩
      rw [h.kept _ fun x hx => (hdistinct x hx).symm, ← hstored, ← hkey, written.get?_self]
    · obtain ⟨x, w, hx, hw⟩ := h.written d hd
      refine ⟨x, w, ?_, hw⟩
      rw [← hx, written.get?_of_ne_key (hkey ▸ (hdistinct d hd).symm)]

/-- Nothing was added or removed. -/
theorem Rewritten.isSome_get? {changed : List Deployment} (h : Rewritten changed c c')
    (key : ObjectName) :
    (c'.get? .deployment key).isSome = (c.get? .deployment key).isSome := by
  by_cases hchanged : ∃ d ∈ changed, Kind.deployment.key d = key
  · obtain ⟨d, hd, rfl⟩ := hchanged
    obtain ⟨found, v, hfound, hnow⟩ := h.written d hd
    rw [hfound, hnow]
    rfl
  · rw [h.kept key fun d hd hkey => hchanged ⟨d, hd, hkey⟩]

/-- If no workload was lost, all of them were written. By induction on the workloads: a write leaves
those that are still to come as they were, because they have other names. -/
theorem writeWorkloads_ensures {changed : List Deployment} {lost : Bool}
    (hdistinct : changed.Pairwise fun d x => Kind.deployment.key d ≠ Kind.deployment.key x) :
    (writeWorkloads ns lost changed).Ensures Quiet (fun r c' =>
      r = .ok false → lost = false ∧ Rewritten changed c c') c := by
  induction changed generalizing c lost with
  | nil =>
    intro hlost
    exact ⟨Except.ok.inj hlost, Cluster.onlyChanges_refl _ _, rfl, fun _ _ => rfl,
      fun d hd => by cases hd⟩
  | cons o rest ih =>
    obtain ⟨hne, hrest⟩ := List.pairwise_cons.1 hdistinct
    refine ensures_attempt nofun (fun failure stored s hd => ?_) (fun s _ => ?_)
      fun _ _ _ h => by cases h
    · obtain ⟨found, v, hfound, -, -, written, hstored⟩ := Cluster.update_eq_ok (deliver_update hd)
      refine (ih hrest).mono (fun _ _ hq => hq) fun r c' h hr => ?_
      exact ⟨(h hr).1, .cons written hfound hstored hne (h hr).2⟩
    · exact (ih hrest).mono (fun _ _ hq => hq) fun r c' h hr => absurd (h hr).1 (by decide)

section Injected

variable {workloads written : List Deployment}

/-- What the proxy was added to is stored as it was listed. -/
theorem get?_of_mem_addProxies (hc : c.WellKept)
    (hlist : c.list .deployment ns a.spec.selector = .ok workloads) {x : Deployment}
    (hx : x ∈ a.addProxies secret map settings workloads) :
    ∃ d, c.get? .deployment (Kind.deployment.key x) = some d ∧ d.carriesProxy = false ∧
      a.addProxyTo? secret map settings d = some x := by
  obtain ⟨d, hd, hlacks, hadded⟩ := mem_addProxies.1 hx
  refine ⟨d, ?_, hlacks, hadded⟩
  rw [key_addProxyTo? hadded]
  exact (hc.get?_of_list hlist hd).1

/-- What became of a Deployment after some of the workloads that lacked a proxy were written: one of
those carries the proxy now, every other one is as it was. -/
theorem current_of_rewritten (hc : c.WellKept)
    (hlist : c.list .deployment ns a.spec.selector = .ok workloads)
    (hwritten : written ⊆ a.addProxies secret map settings workloads)
    (h : Rewritten written c c') {o : Deployment}
    (ho : c.get? .deployment (Kind.deployment.key o) = some o) :
    (∃ x v, x ∈ written ∧ a.addProxyTo? secret map settings o = some x ∧
        c'.current .deployment o = Kind.deployment.withVersion x.withDefaults v) ∨
      c'.current .deployment o = o ∧
        ∀ x ∈ written, Kind.deployment.key x ≠ Kind.deployment.key o := by
  by_cases hchanged : ∃ x ∈ written, Kind.deployment.key x = Kind.deployment.key o
  · obtain ⟨x, hx, hkey⟩ := hchanged
    obtain ⟨d, hd, -, hadded⟩ := get?_of_mem_addProxies hc hlist (hwritten hx)
    obtain ⟨found, v, hfound, hnow⟩ := h.written x hx
    rw [hkey] at hd hfound hnow
    -- The workload that `x` was made of has the name of `o`, so it is `o`.
    obtain rfl : d = o := Option.some.inj (hd.symm.trans ho)
    obtain rfl : found = d := Option.some.inj (hfound.symm.trans ho)
    refine .inl ⟨x, v, hx, hadded, ?_⟩
    rw [Cluster.current, hnow, ← (addProxyTo?_eq_some hadded).2]
    rfl
  · have hne : ∀ x ∈ written, Kind.deployment.key x ≠ Kind.deployment.key o :=
      fun x hx hkey => hchanged ⟨x, hx, hkey⟩
    refine .inr ⟨?_, hne⟩
    rw [Cluster.current, h.kept _ hne, ho]
    rfl

/-- The listing afterwards holds what became of the listed workloads. -/
theorem list_of_rewritten (hc : c.WellKept)
    (hlist : c.list .deployment ns a.spec.selector = .ok workloads)
    (hwritten : written ⊆ a.addProxies secret map settings workloads)
    (h : Rewritten written c c') :
    c'.list .deployment ns a.spec.selector =
      .ok (workloads.map (c'.current .deployment)) := by
  have hmapped := hc.mapped_current h.isSome_get?
  refine hmapped.list (fun key o ho => ?_) hlist
  rcases current_of_rewritten hc hlist hwritten h (hc.key_eq ho ▸ ho) with
    ⟨x, v, -, hadded, hnow⟩ | ⟨hnow, -⟩
  · rw [hnow, Kind.metadata_withVersion]
    show x.metadata.labelMap = o.metadata.labelMap
    rw [(addProxyTo?_eq_some hadded).1]
    rfl
  · rw [hnow]

/-- Then just those lack a proxy that it could be added to before and that were not written. -/
theorem addProxies_of_rewritten (hc : c.WellKept)
    (hlist : c.list .deployment ns a.spec.selector = .ok workloads)
    (hwritten : written ⊆ a.addProxies secret map settings workloads)
    (h : Rewritten written c c') :
    a.addProxies secret map settings (workloads.map (c'.current .deployment)) =
      (a.addProxies secret map settings workloads).filter (· ∉ written) := by
  simp only [addProxies, List.filterMap_filter, List.filterMap_map, List.filter_filterMap]
  apply List.filterMap_congr
  intro o ho
  have hstored := (hc.get?_of_list hlist ho).1
  rcases current_of_rewritten hc hlist hwritten h hstored with
    ⟨x, v, hx, hadded, hnow⟩ | ⟨hnow, hne⟩
  · have hcarries : (c'.current .deployment o).carriesProxy = true := by
      rw [hnow]
      exact (x.carriesProxy_withDefaults).trans (carriesProxy_addProxyTo? hadded)
    cases o.carriesProxy <;> simp [hcarries, hadded, hx, Option.filter_some]
  · rw [Function.comp_apply, hnow]
    cases hlacks : o.carriesProxy with
    | true => simp
    | false =>
      cases hadded : a.addProxyTo? secret map settings o with
      | none => simp
      | some y =>
        have hy : y ∉ written := fun hy => hne y hy (key_addProxyTo? hadded)
        simp [hy, Option.filter_some]

/-- The ready replicas that were counted before the writes are those that are counted after them: a
workload that gets the proxy counts already, and its status stays. -/
theorem proxiedReady_of_rewritten (hc : c.WellKept)
    (hlist : c.list .deployment ns a.spec.selector = .ok workloads)
    (h : Rewritten (a.addProxies secret map settings workloads) c c') :
    a.proxiedReady (workloads.map (c'.current .deployment)) [] =
      a.proxiedReady workloads (a.addProxies secret map settings workloads) := by
  have hall := List.Subset.refl (a.addProxies secret map settings workloads)
  -- A workload counts afterwards if it counted before or was about to get the proxy.
  have hcounts : ∀ o ∈ workloads,
      decide ((c'.current .deployment o).injector? = some a.fullName) =
        (decide (o.injector? = some a.fullName) ||
          (a.addProxies secret map settings workloads).any fun x => x.nameAny = o.nameAny) ∧
      (c'.current .deployment o).readyReplicas? = o.readyReplicas? := by
    intro o ho
    obtain ⟨hstored, hns⟩ := hc.get?_of_list hlist ho
    rcases current_of_rewritten hc hlist hall h hstored with
      ⟨x, v, hx, hadded, hnow⟩ | ⟨hnow, hne⟩
    · have hname : x.nameAny = o.nameAny := congrArg ObjectName.name (key_addProxyTo? hadded)
      have hinjector : (c'.current .deployment o).injector? = some a.fullName := by
        rw [hnow]
        show x.injector? = some a.fullName
        exact injector?_addProxyTo? hadded
      have hany : ((a.addProxies secret map settings workloads).any fun x =>
          x.nameAny = o.nameAny) = true := List.any_eq_true.2 ⟨x, hx, decide_eq_true hname⟩
      refine ⟨by rw [hinjector, hany]; simp, ?_⟩
      rw [hnow]
      exact congrArg (·.bind (·.readyReplicas)) (addProxyTo?_eq_some hadded).2
    · have hany : ((a.addProxies secret map settings workloads).any fun x =>
          x.nameAny = o.nameAny) = false := by
        refine List.any_eq_false.2 fun x hx hname => hne x hx ?_
        obtain ⟨d, hd, -, hadded⟩ := mem_addProxies.1 hx
        have hsame : (Kind.deployment.key x).ns = (Kind.deployment.key o).ns := by
          rw [key_addProxyTo? hadded, (hc.get?_of_list hlist hd).2, hns]
        exact Kind.key_eq_of_nameAny hsame (of_decide_eq_true hname)
      rw [hnow, hany, Bool.or_false]
      exact ⟨rfl, rfl⟩
  simp only [proxiedReady, List.any_nil, Bool.or_false, List.filter_map, List.filterMap_map,
    Function.comp_def]
  refine congrArg Replicas.heldSum ?_
  rw [List.filter_congr fun o ho => (hcounts o ho).1]
  exact List.filterMap_congr fun o ho => (hcounts o (List.mem_filter.1 ho).1).2

end Injected

/-- The workload step has nothing to do where no selected workload lacks a proxy. -/
theorem workloadsStep_of_lacksNoProxy (h : c.LacksNoProxy settings a secret map ready) :
    (a.workloadsStep secret map settings).Yields Cluster.answer c (.proceed ready) c := by
  unfold Cluster.LacksNoProxy at h
  unfold workloadsStep
  cases hempty : a.spec.selector.isEmpty with
  | true =>
    rw [hempty] at h
    exact (yields_tell _ _).2 (yields_pure.2 ⟨congrArg _ h, rfl⟩)
  | false =>
    simp only [hempty, Bool.false_eq_true, if_false] at h ⊢
    obtain ⟨ns, workloads, hns, hlist, hnone, hready⟩ := h
    refine (yields_lift _ _).2 ⟨ns, ownNamespace_eq_ok_iff.2 hns, yields_list.2 ⟨_, hlist, ?_⟩⟩
    rw [yields_tellAll, hnone, hready]
    exact (yields_bind _ _).2 ⟨false, c, yields_pure.2 ⟨rfl, rfl⟩, yields_pure.2 ⟨rfl, rfl⟩⟩

/-- What a workload step that goes on with `ready` has made of the cluster: of the workloads that it
listed, those that lacked a proxy were written, and it counted its own. -/
def Injects (settings : Settings) (a : Authenticator) (secret map : String) (ready : Int32)
    (c c' : Cluster) : Prop :=
  if a.spec.selector.isEmpty then ready = 0 ∧ c' = c
  else ∃ ns workloads, a.metadata.ns = some ns ∧
    c.list .deployment ns a.spec.selector = .ok workloads ∧
      Rewritten (a.addProxies secret map settings workloads) c c' ∧
        ready = a.proxiedReady workloads (a.addProxies secret map settings workloads)

theorem workloadsStep_injects (hc : c.WellKept) :
    (a.workloadsStep secret map settings).Ensures Quiet
      (goesOn fun ready c' => Injects settings a secret map ready c c') c := by
  unfold workloadsStep Injects
  cases a.spec.selector.isEmpty with
  | true => exact ⟨rfl, rfl⟩
  | false =>
    simp only [Bool.false_eq_true, if_false]
    refine ensures_lift (fun ns hns => ?_) fun _ _ => trivial
    refine ensures_list nofun (fun workloads hlist => ?_) fun _ => trivial
    have hdistinct : (a.addProxies secret map settings workloads).Pairwise
        fun d x => Kind.deployment.key d ≠ Kind.deployment.key x :=
      addProxies_distinct (hc.list_distinct hlist)
    refine (ensures_tellAll _ _).2 ((ensures_bind _ _).2
      ((writeWorkloads_ensures hdistinct).mono (fun _ _ hq => hq) ?_))
    rintro (e | lost) c' hwrite
    · trivial
    cases lost with
    | true => trivial
    | false =>
      obtain ⟨-, hrewritten⟩ := hwrite rfl
      exact ⟨ns, workloads, ownNamespace_eq_ok_iff.1 hns, hlist, hrewritten, rfl⟩

/-- Then every selected workload has a proxy, so far as it can carry one, and the ready replicas
that were counted would be counted again. -/
theorem Injects.lacksNoProxy (hc : c.WellKept) (h : Injects settings a secret map ready c c') :
    Cluster.OnlyChanges .deployment c c' ∧ c'.LacksNoProxy settings a secret map ready := by
  unfold Injects at h
  unfold Cluster.LacksNoProxy
  cases hempty : a.spec.selector.isEmpty with
  | true =>
    simp only [hempty, if_true] at h ⊢
    obtain ⟨hready, rfl⟩ := h
    exact ⟨Cluster.onlyChanges_refl _ _, hready⟩
  | false =>
    simp only [hempty, Bool.false_eq_true, if_false] at h ⊢
    obtain ⟨ns, workloads, hns, hlist, hrewritten, rfl⟩ := h
    have hall := List.Subset.refl (a.addProxies secret map settings workloads)
    refine ⟨hrewritten.others, ns, _, hns, list_of_rewritten hc hlist hall hrewritten, ?_,
      proxiedReady_of_rewritten hc hlist hrewritten⟩
    rw [addProxies_of_rewritten hc hlist hall hrewritten]
    simp

/-- A workload step that goes on leaves every selected workload with a proxy, so far as it can carry
one, and counts the ready replicas that would be counted again. -/
theorem workloadsStep_ensures (hc : c.WellKept) :
    (a.workloadsStep secret map settings).Ensures Quiet (goesOn fun ready c' =>
      Cluster.OnlyChanges .deployment c c' ∧ c'.LacksNoProxy settings a secret map ready) c := by
  refine (workloadsStep_injects hc).mono (fun _ _ hq => hq) ?_
  rintro (e | ready | reason) c' h
  · trivial
  · exact Injects.lacksNoProxy hc h
  · trivial

theorem workloadsStep_settles (hc : c.WellKept)
    (h : (a.workloadsStep secret map settings).Yields Cluster.answer c (.proceed ready) c') :
    Cluster.OnlyChanges .deployment c c' ∧
      Settled (a.workloadsStep secret map settings) .deployment c' ready := by
  obtain ⟨only, hlacks⟩ := (workloadsStep_ensures hc).yields h
  refine ⟨only, fun d hd => workloadsStep_of_lacksNoProxy ?_⟩
  unfold Cluster.LacksNoProxy at hlacks ⊢
  simpa only [Cluster.list_congr hd] using hlacks

/-! ## Either mode -/

theorem proxyStep_of_standalone (h : a.spec.mode = .standalone) :
    a.proxyStep secret map settings = a.standaloneStep secret map settings := by
  rw [proxyStep, h]

theorem proxyStep_of_sidecar (h : a.spec.mode = .sidecar) :
    a.proxyStep secret map settings = a.workloadsStep secret map settings := by
  rw [proxyStep, h]

theorem proxyStep_ensures (hc : c.WellKept) (hkey : Kind.authenticator.key a = key) :
    (a.proxyStep secret map settings).Ensures Quiet (goesOn fun ready c' =>
      Cluster.OnlyChanges .deployment c c' ∧
        (a.spec.mode = .standalone →
          Cluster.OnlyAt .deployment (key.dependent .deployment) c c' ∧
          (c'.get? .deployment (key.dependent .deployment)).map (·.metadata.labels) =
            (c.get? .deployment (key.dependent .deployment)).map (·.metadata.labels) ∧
          c'.RunsProxy settings key a secret map ready) ∧
        (a.spec.mode = .sidecar → c'.LacksNoProxy settings a secret map ready)) c := by
  cases hmode : a.spec.mode with
  | standalone =>
    rw [proxyStep_of_standalone hmode]
    refine (standaloneStep_ensures hc hkey).mono (fun _ _ hq => hq) ?_
    rintro (e | ready | reason) c' h
    · trivial
    · exact ⟨h.2.1.kinds, fun _ => h.2, nofun⟩
    · trivial
  | sidecar =>
    rw [proxyStep_of_sidecar hmode]
    refine (workloadsStep_ensures hc).mono (fun _ _ hq => hq) ?_
    rintro (e | ready | reason) c' h
    · trivial
    · exact ⟨h.1, nofun, fun _ => h.2⟩
    · trivial

theorem proxyStep_settles (hc : c.WellKept)
    (h : (a.proxyStep secret map settings).Yields Cluster.answer c (.proceed ready) c') :
    Cluster.OnlyChanges .deployment c c' ∧
      Settled (a.proxyStep secret map settings) .deployment c' ready := by
  cases hmode : a.spec.mode with
  | standalone =>
    rw [proxyStep_of_standalone hmode] at h ⊢
    exact standaloneStep_settles hc h
  | sidecar =>
    rw [proxyStep_of_sidecar hmode] at h ⊢
    exact workloadsStep_settles hc h

end Authenticator

end AuthProxy
