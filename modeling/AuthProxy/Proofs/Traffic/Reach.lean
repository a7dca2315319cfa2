import AuthProxy.Proofs.Traffic.Done
import AuthProxy.Proofs.Traffic.Takeover

/-! # How far a pass reaches

What a pass may leave otherwise than it found it (`Authenticator.Reaches`): its authenticator, the
dependents of that, and in sidecar mode workloads that were selected and lacked a proxy. A call of a
pass changes at most one object, under the name of the object that it was made from; so whatever
calls fail, and wherever the pass ends, all other objects stay as they were, with their versions,
and no object goes missing.
-/

namespace AuthProxy

/-- Under which names a pass over `a`, the authenticator at `key`, may leave another object than it
finds in the cluster `c`. -/
inductive Authenticator.Reaches (a : Authenticator) (key : ObjectName) (c : Cluster) :
    Kind → ObjectName → Prop where
  | itself : Reaches a key c .authenticator key
  /-- The Secret is created if it is absent, and not written otherwise. -/
  | secret (absent : c.get? .secret (key.dependent .secret) = none) :
    Reaches a key c .secret (key.dependent .secret)
  | configMap : Reaches a key c .configMap (key.dependent .configMap)
  | deployment (alone : a.spec.mode = .standalone) :
    Reaches a key c .deployment (key.dependent .deployment)
  | workload {s : Selector} {d : Deployment} {name : String} (along : a.spec.mode = .sidecar)
    (selective : a.spec.selector.isEmpty = false) (checked : a.spec.selector.checked = .ok s)
    (stored : c.get? .deployment ⟨key.ns, name⟩ = some d)
    (selected : s.selects d.metadata.labelMap = true) (specified : d.spec.isSome = true)
    (lacks : d.carriesProxy = false) : Reaches a key c .deployment ⟨key.ns, name⟩

/-- What is reached under a name depends on nothing but what is stored there. -/
theorem Authenticator.Reaches.congr {a : Authenticator} {key key' : ObjectName} {c d : Cluster}
    {k : Kind} (h : a.Reaches key c k key') (hsame : d.get? k key' = c.get? k key') :
    a.Reaches key d k key' := by
  cases h with
  | itself => exact .itself
  | secret absent => exact .secret (hsame.trans absent)
  | configMap => exact .configMap
  | deployment alone => exact .deployment alone
  | workload along selective checked stored selected specified lacks =>
    exact .workload along selective checked (hsame.trans stored) selected specified lacks

namespace Cluster.Written

variable {c c' : Cluster} {k : Kind} {o : k.Object}

/-- A write changes nothing but what is stored under the name of the written object. -/
theorem eq_of_changed (h : Written c c' k o) {j : Kind} {key : ObjectName}
    (hne : c'.get? j key ≠ c.get? j key) : j = k ∧ key = k.key o :=
  Prod.mk.inj (by_contra fun heq => hne (h.get?_of_ne heq))

end Cluster.Written

/-! ## One call -/

namespace Underway.Sound

variable {u : Underway} {c c' : Cluster} {a : Authenticator}

/-- What was made for an authenticator that the pass has read lies where its dependent lies. -/
theorem key_dependent (h : u.Sound c) (read : u.calls.HasRead .authenticator u.key a) {k : Kind}
    {o : k.Object}
    (dependent : Authenticator.Dependent a (a.nameAny ++ k.dependentSuffix) (k.metadata o)) :
    k.key o = u.key.dependent k := by
  rw [dependent.key_eq_dependent, (h.read read).1]

/-- An injected workload was listed, so it was selected. The write finds the very workload that was
listed. -/
theorem reaches_of_injected (h : u.Sound c)
    (listed : ∀ {k ns selector} {os : List k.Object}, u.calls.HasListed k ns selector os →
      ∃ s, selector.checked = .ok s ∧ ∀ o ∈ os, s.selects (k.metadata o).labelMap = true)
    {secret map : String} {d o : Deployment}
    (call : PassCall u.settings u.key u.fresh u.calls (.update .deployment o))
    (added : a.addProxyTo? secret map u.settings d = some o) (lacks : d.carriesProxy = false)
    (before : c.get? .deployment (Kind.deployment.key d) = some d) :
    ∃ b, u.calls.HasRead .authenticator u.key b ∧
      b.Reaches u.key c .deployment (Kind.deployment.key d) := by
  have hkey : Kind.deployment.key o = Kind.deployment.key d := Authenticator.key_addProxyTo? added
  cases call with
  | @updateDeployment b ns secret map n found desired read alone ns_eq readDeployment =>
    have hobject : Kind.deployment.key d = u.key.dependent .deployment := by
      rw [← hkey, ← (h.read read).1, Authenticator.dependent_deployment ns_eq]
      exact (h.read readDeployment).1
    exact ⟨b, read, hobject ▸ .deployment alone⟩
  | @inject b ns secret map workloads _ read along ns_eq selective wasListed changed =>
    obtain ⟨x, hx, -, hadded⟩ := Authenticator.mem_addProxies.1 changed
    obtain ⟨hns, hrem⟩ := h.listed wasListed x hx
    obtain ⟨s, checked, hselects⟩ := listed wasListed
    have hversion : Kind.deployment.versionOf d = Kind.deployment.versionOf x := by
      have hmeta := (Authenticator.addProxyTo?_eq_some added).1.symm.trans
        (Authenticator.addProxyTo?_eq_some hadded).1
      exact (congrArg ObjectMeta.resourceVersion hmeta :)
    obtain rfl : d = x := hrem.eq_of_version before hversion
    have hobject : Kind.deployment.key d = ⟨u.key.ns, d.nameAny⟩ := by
      rw [← (h.read read).1, Authenticator.ns_key ns_eq, ← hns]
      rfl
    have hspec : d.spec.isSome = true := by
      cases hs : d.spec with
      | none => rw [Authenticator.addProxyTo?, hs] at added; cases added
      | some s => rfl
    rw [hobject] at before ⊢
    exact ⟨b, read, .workload along selective checked before (hselects d hx) hspec lacks⟩

end Underway.Sound

namespace Traffic

/-- Every call that passes made was answered by a cluster, unless it failed before. -/
theorem answered_after (c : Cluster) (es : List Event) :
    ∀ r ∈ (after c es).calls, ∃ failure d, (deliver failure r.call d).1 = r.result := by
  induction es using List.reverseRecOn with
  | nil => exact fun _ hr => absurd hr List.not_mem_nil
  | append_singleton es e ih =>
    rw [after_snoc]
    cases e with
    | start settings key fresh => exact ih
    | cut i => exact ih
    | change x => exact ih
    | call i failure =>
      rcases (after c es).step_call i failure with hs | ⟨u, call, r, hs⟩
      · rw [hs]; exact ih
      · rw [hs.calls]
        intro x hx
        rcases List.mem_append.1 hx with hx | hx
        · exact ih x hx
        · rw [List.mem_singleton.1 hx]
          exact ⟨failure, _, congrArg Prod.fst hs.delivered⟩

/-- What a pass has listed was selected. -/
theorem selected_after {c : Cluster} (hc : c.WellKept) (es : List Event) {u : Underway}
    (hu : u ∈ (after c es).passes) {k : Kind} {ns : String} {selector : LabelSelector}
    {os : List k.Object} (h : u.calls.HasListed k ns selector os) :
    ∃ s, selector.checked = .ok s ∧ ∀ o ∈ os, s.selects (k.metadata o).labelMap = true := by
  obtain ⟨failure, d, hd⟩ := answered_after c es _ ((sound_after hc es).recorded u hu h)
  cases failure with
  | some f => cases f <;> cases hd
  | none =>
    obtain ⟨s, hs, rfl⟩ := Cluster.list_eq_ok_iff.1 (show d.list k ns selector = .ok os from hd)
    exact ⟨s, hs, fun o ho => (List.mem_filter.1 ho).2⟩

/-- **A call changes nothing out of reach**, in whatever traffic its pass is. -/
theorem reaches_of_call {c : Cluster} (hc : c.WellKept) (es : List Event) {i : Nat} {u : Underway}
    {failure : Option Failure} {call : Call} {r : call.Result} {t' : Traffic}
    (hs : (after c es).Calls i u failure call r t') {k : Kind} {key : ObjectName}
    (hne : t'.cluster.get? k key ≠ (after c es).cluster.get? k key) :
    ∃ a, u.calls.HasRead .authenticator u.key a ∧
      a.Reaches u.key (after c es).cluster k key := by
  have hsound := sound_after hc es
  have hmem := List.mem_of_getElem? hs.pass
  have hu := hsound.passes u hmem
  have hkept := hsound.wellKept
  obtain ⟨next, hn, -⟩ := hs.next
  have hcall := (hu.lawful.nextCall hn).1
  cases hsound.effect hs with
  | nothing same => exact absurd (same.get? k key) hne
  | @secretCreated a s stored read _ made absent created written =>
    obtain ⟨rfl, rfl⟩ := written.eq_of_changed hne
    have hobject := hu.key_dependent (k := .secret) read (Authenticator.makeSecret_eq_ok made).1
    rw [created.key, hobject]
    exact ⟨a, read, .secret (hobject ▸ absent)⟩
  | @configMapCreated a m stored read made absent created written =>
    obtain ⟨rfl, rfl⟩ := written.eq_of_changed hne
    rw [created.key, hu.key_dependent (k := .configMap) read
      (Authenticator.makeConfigMap_eq_ok made).1]
    exact ⟨a, read, .configMap⟩
  | @deploymentCreated a _ _ _ d stored read alone made absent created written =>
    obtain ⟨rfl, rfl⟩ := written.eq_of_changed hne
    rw [created.key, hu.key_dependent (k := .deployment) read
      (Authenticator.makeDeployment_eq_ok made).1]
    exact ⟨a, read, .deployment alone⟩
  | @referenceSet a stored v read _ _ before stored_eq written =>
    obtain ⟨rfl, rfl⟩ := written.eq_of_changed hne
    have hobject : Kind.authenticator.key stored = u.key := by
      rw [stored_eq, ← hkept.key_eq before]
      rfl
    exact ⟨a, read, hobject ▸ .itself⟩
  | @configMapUpdated a ns found stored desired v read ns_eq _ before stored_eq written =>
    obtain ⟨rfl, rfl⟩ := written.eq_of_changed hne
    have hobject : Kind.configMap.key stored = u.key.dependent .configMap := by
      rw [← (hu.read read).1, Authenticator.dependent_configMap ns_eq, ← hkept.key_eq before,
        stored_eq]
      rfl
    exact ⟨a, read, hobject ▸ .configMap⟩
  | @deploymentUpdated a ns _ _ _ found stored desired v read alone ns_eq _ _ before stored_eq
      written =>
    obtain ⟨rfl, rfl⟩ := written.eq_of_changed hne
    have hobject : Kind.deployment.key stored = u.key.dependent .deployment := by
      rw [← (hu.read read).1, Authenticator.dependent_deployment ns_eq, ← hkept.key_eq before,
        stored_eq]
      rfl
    exact ⟨a, read, hobject ▸ .deployment alone⟩
  | @injected a secret map d o stored v _ _ lacks added before stored_eq written =>
    obtain ⟨rfl, rfl⟩ := written.eq_of_changed hne
    have hobject : Kind.deployment.key stored = Kind.deployment.key d := by
      rw [stored_eq, ← Authenticator.key_addProxyTo? added]
      rfl
    rw [hobject]
    exact hu.reaches_of_injected (selected_after hc es hmem) hcall added lacks before
  | @reported a stored n v read before stored_eq written =>
    obtain ⟨rfl, rfl⟩ := written.eq_of_changed hne
    have hobject : Kind.authenticator.key stored = u.key := by
      rw [stored_eq, ← hkept.key_eq before]
      rfl
    exact ⟨a, read, hobject ▸ .itself⟩

/-! ## A whole pass -/

theorem alone_snoc (c : Cluster) (settings : Settings) (key : ObjectName) (fresh : Credentials)
    (failures : List (Option Failure)) (failure : Option Failure) :
    alone c settings key fresh (failures ++ [failure]) =
      (alone c settings key fresh failures).step (.call 0 failure) := by
  rw [alone, List.map_append, ← List.cons_append]
  exact after_snoc ..

/-- The traffic is that of one pass over `key`, which began in the cluster `c`. Before its first
call nothing has changed, and that call alone reads an authenticator. -/
def BeganIn (c : Cluster) (key : ObjectName) (t : Traffic) : Prop :=
  ∃ u, t.passes = [u] ∧ u.key = key ∧ (u.calls = [] → t.cluster = c) ∧
    ∀ a, u.calls.HasRead .authenticator key a → c.get? .authenticator key = some a

theorem BeganIn.call {c : Cluster} {key : ObjectName} {t : Traffic} (h : t.BeganIn c key)
    (hkeeps : ∀ u ∈ t.passes, u.Keeps GuardedCall GuardedEnd) (failure : Option Failure) :
    (t.step (.call 0 failure)).BeganIn c key := by
  obtain ⟨u, hu, rfl, hstart, hread⟩ := h
  rcases t.step_call 0 failure with hs | ⟨v, call, r, hs⟩
  · rw [hs]
    exact ⟨u, hu, rfl, hstart, hread⟩
  · obtain rfl : u = v := Option.some.inj ((congrArg (·[0]?) hu).symm.trans hs.pass)
    obtain ⟨next, hn, hp⟩ := hs.next
    refine ⟨u.resume call r (next r), by rw [hp, hu]; rfl, rfl, fun hnil => ?_, fun a ha => ?_⟩
    · exact absurd hnil (by simp [Underway.resume])
    · rcases List.mem_append.1 ha with ha | ha
      · exact hread a ha
      · obtain ⟨rfl, hr⟩ := CallRecord.mk.inj (List.mem_singleton.1 ha)
        have hguarded := ((hkeeps u (hu ▸ List.mem_singleton.2 rfl)).left.nextCall hn).1
        have hdelivered : (deliver failure (.get .authenticator u.key.ns u.key.name) t.cluster).1 =
            .ok (some a) := by rw [hs.delivered, eq_of_heq hr]
        rw [← hstart (hguarded.first _ _ rfl)]
        exact (deliver_get hdelivered).1

theorem beganIn_alone (c : Cluster) (settings : Settings) (key : ObjectName) (fresh : Credentials)
    (failures : List (Option Failure)) :
    (alone c settings key fresh failures).BeganIn c key := by
  induction failures using List.reverseRecOn with
  | nil => exact ⟨.start settings key fresh, rfl, rfl, fun _ => rfl, fun a ha => by cases ha⟩
  | append_singleton failures failure ih =>
    rw [alone_snoc]
    exact ih.call (keeps_after Authenticator.pass_guarded c _) failure

/-- **A pass changes nothing out of its reach**, whichever of its calls fail and however far it has
come. No object goes missing, and where another object is stored than before, or the same one with
another version, the authenticator reaches. Without the authenticator nothing changes at all. -/
theorem pass_stays_in_reach {c : Cluster} (h : c.Reachable) (settings : Settings)
    (key : ObjectName) (fresh : Credentials) (failures : List (Option Failure)) :
    let t := alone c settings key fresh failures
    (∀ k key', (c.get? k key').isSome = true → (t.cluster.get? k key').isSome = true) ∧
    ∀ k key', t.cluster.get? k key' ≠ c.get? k key' →
      ∃ a, c.get? .authenticator key = some a ∧ a.Reaches key c k key' := by
  intro t
  induction failures using List.reverseRecOn with
  | nil => exact ⟨fun _ _ hsome => hsome, fun _ _ hne => absurd rfl hne⟩
  | append_singleton failures failure ih =>
    obtain ⟨hstays, hreaches⟩ := ih
    have hsound : (alone c settings key fresh failures).Sound := sound_after h.wellKept _
    obtain ⟨u, hu, hkey, -, hread⟩ := beganIn_alone c settings key fresh failures
    simp only [t, alone_snoc]
    rcases (alone c settings key fresh failures).step_call 0 failure with hs | ⟨v, call, r, hs⟩
    · rw [hs]
      exact ⟨hstays, hreaches⟩
    · obtain rfl : u = v := Option.some.inj ((congrArg (·[0]?) hu).symm.trans hs.pass)
      refine ⟨fun k key' hsome => (hsound.objectChange hs).stays (hstays k key' hsome),
        fun k key' hne => ?_⟩
      by_cases hbefore : (alone c settings key fresh failures).cluster.get? k key' = c.get? k key'
      · -- This call has changed what was there from the beginning.
        obtain ⟨a, ha, hreach⟩ := reaches_of_call h.wellKept _ hs (hbefore ▸ hne)
        rw [hkey] at ha hreach
        exact ⟨a, hread a ha, hreach.congr hbefore.symm⟩
      · exact hreaches k key' hbefore

set_option maxRecDepth 10000 in
/-- The sixth call of the pass over `gate` injects the proxy into its workload; the pass fails right
after that. -/
theorem pass_stays_in_reach_when_cut :
    let t := alone Authenticator.drifted {} ⟨"apps", "gate"⟩ ⟨"user", "word"⟩
      (List.replicate 6 none ++ [some (.error Failure.unspecified)])
    (t.cluster.get? .secret ⟨"apps", "users"⟩).isSome = true ∧
      ∃ a, Authenticator.drifted.get? .authenticator ⟨"apps", "gate"⟩ = some a ∧
        a.Reaches ⟨"apps", "gate"⟩ Authenticator.drifted .deployment ⟨"apps", "web"⟩ := by
  intro t
  have hreachable : Authenticator.drifted.Reachable := Cluster.reachable_ofChanges _
  obtain ⟨hstays, hreaches⟩ := pass_stays_in_reach hreachable {}
    ⟨"apps", "gate"⟩ ⟨"user", "word"⟩ (List.replicate 6 none ++ [some (.error Failure.unspecified)])
  have hnow : (t.cluster.get? .deployment ⟨"apps", "web"⟩).map (·.carriesProxy) = some true := rfl
  have hbefore : (Authenticator.drifted.get? .deployment ⟨"apps", "web"⟩).map (·.carriesProxy) =
      some false := rfl
  exact ⟨hstays _ _ rfl, hreaches _ _ fun heq =>
    absurd (hnow.symm.trans ((congrArg _ heq).trans hbefore)) (by decide)⟩

end Traffic

end AuthProxy
