import AuthProxy.Proofs.Traffic.Takeover

/-! # One proxy per workload

Several passes can list the same workload without a proxy, and each prepares a copy with its own;
the first one to write wins, because the others are then based on a stale read. A workload that
carries a proxy is left alone, except that a standalone authenticator keeps its own Deployment as it
should be.
-/

namespace AuthProxy

/-- What a call of the pass `u` made of the Deployment under `key`, that of a standalone
authenticator. Only the specification of what was there is replaced. -/
structure Rebuilds (u : Underway) (c : Cluster) (key : ObjectName) (after : Deployment) : Prop where
  authenticator : ∃ a, u.calls.HasRead .authenticator u.key a ∧ a.spec.mode = .standalone ∧
    ∀ before, c.get? .deployment key = some before → a.owns before.metadata = true
  key_eq : key = u.key.dependent .deployment
  count : after.proxyCount = 1
  annotations : ∀ before, c.get? .deployment key = some before →
    after.metadata.annotations = before.metadata.annotations

/-- A call of the pass `u` added the proxy of a sidecar authenticator to the Deployment under
`key`. -/
structure Injects (u : Underway) (c : Cluster) (key : ObjectName) (after : Deployment) : Prop where
  authenticator : ∃ a, u.calls.HasRead .authenticator u.key a ∧ a.spec.mode = .sidecar
  lacked : ∃ before, c.get? .deployment key = some before ∧ before.carriesProxy = false
  count : after.proxyCount = 1

/-- **Where the Deployments of a cluster come from** after a call of a pass. -/
theorem Effect.deployment_cases {u : Underway} {c c' : Cluster} {r : CallRecord}
    (h : Effect u c c' r) (hu : u.Sound c) (hc : c.WellKept) {key : ObjectName} {d : Deployment}
    (hd : c'.get? .deployment key = some d) :
    c.get? .deployment key = some d ∨ Rebuilds u c key d ∨ Injects u c key d := by
  have other : ∀ {k : Kind} {o : k.Object}, k ≠ .deployment → Cluster.Written c c' k o →
      c.get? .deployment key = some d :=
    fun hk written => (written.get?_of_ne_kind (Ne.symm hk) key).symm.trans hd
  cases h with
  | nothing same _ => exact .inl (same.get? .deployment key ▸ hd)
  | secretCreated _ _ _ _ _ written => exact .inl (other (by decide) written)
  | configMapCreated _ _ _ _ written => exact .inl (other (by decide) written)
  | referenceSet _ _ _ _ _ written => exact .inl (other (by decide) written)
  | configMapUpdated _ _ _ _ _ written => exact .inl (other (by decide) written)
  | reported _ _ _ written => exact .inl (other (by decide) written)
  | @deploymentCreated a secret map n o stored read alone made absent created written =>
    rcases written.get?_cases_of_kind hd with ⟨rfl, rfl⟩ | hd
    · obtain ⟨dependent, hspec⟩ := Authenticator.makeDeployment_eq_ok made
      have habsent : c.get? .deployment (Kind.deployment.key d) = none := created.key ▸ absent
      have hnone : ∀ before, c.get? .deployment (Kind.deployment.key d) ≠ some before := by
        simp [habsent]
      refine .inr (.inl ⟨⟨a, read, alone, fun x hx => absurd hx (hnone x)⟩, ?_, ?_,
        fun x hx => absurd hx (hnone x)⟩)
      · rw [created.key, ← (hu.read read).1]
        exact dependent.key_eq_dependent (k := .deployment)
      · obtain ⟨uid, v, rfl⟩ := created.content
        show (Deployment.withDefaults { o with status := none }).proxyCount = 1
        rw [Deployment.proxyCount_withDefaults]
        exact Authenticator.proxyCount_of_deploymentSpec hspec
    · exact .inl hd
  | @deploymentUpdated a ns secret map n found stored desired v read alone ns_eq owned made before
      stored_eq written =>
    rcases written.get?_cases_of_kind hd with ⟨rfl, rfl⟩ | hd
    · obtain ⟨-, hspec⟩ := Authenticator.makeDeployment_eq_ok made
      have hkey : Kind.deployment.key d = Kind.deployment.key found := by rw [stored_eq]; rfl
      have hfound : ∀ x, c.get? .deployment (Kind.deployment.key d) = some x → x = found := by
        intro x hx
        rw [hkey, hc.key_eq before, before] at hx
        exact (Option.some.inj hx).symm
      refine .inr (.inl ⟨⟨a, read, alone, fun x hx => hfound x hx ▸ owned⟩, ?_, ?_, fun x hx => ?_⟩)
      · rw [hkey, hc.key_eq before, ← (hu.read read).1, Authenticator.dependent_deployment ns_eq]
      · rw [stored_eq]
        show (Deployment.withDefaults { found with spec := desired.spec }).proxyCount = 1
        rw [Deployment.proxyCount_withDefaults]
        exact Authenticator.proxyCount_of_deploymentSpec hspec
      · rw [hfound x hx, stored_eq]
        rfl
    · exact .inl hd
  | @injected a secret map x o stored v read along lacks added before stored_eq written =>
    rcases written.get?_cases_of_kind hd with ⟨rfl, rfl⟩ | hd
    · have hkey : Kind.deployment.key d = Kind.deployment.key x := by
        rw [stored_eq, ← Authenticator.key_addProxyTo? added]
        rfl
      refine .inr (.inr ⟨⟨a, read, along⟩, ⟨x, hkey ▸ before, lacks⟩, ?_⟩)
      have hnone : x.proxyCount = 0 := by
        by_contra hne
        rw [Deployment.carriesProxy_iff.2 (Nat.pos_of_ne_zero hne)] at lacks
        cases lacks
      rw [stored_eq]
      show (Deployment.withDefaults o).proxyCount = 1
      rw [Deployment.proxyCount_withDefaults, Authenticator.proxyCount_addProxyTo? added, hnone]
    · exact .inl hd

namespace Traffic

/-- The changes from outside among the events leave no Deployment with two proxies, unless they
found it so. -/
def AddsNoSecondProxy (c : Cluster) (es : List Event) : Prop :=
  ∀ earlier x later, es = earlier ++ .change x :: later →
    ∀ key d, (x.apply (after c earlier).cluster).get? .deployment key = some d →
      (after c earlier).cluster.get? .deployment key = some d ∨ d.proxyCount ≤ 1

theorem AddsNoSecondProxy.earlier {c : Cluster} {es : List Event} {e : Event}
    (h : AddsNoSecondProxy c (es ++ [e])) : AddsNoSecondProxy c es := by
  intro earlier x later hes
  refine h earlier x (later ++ [e]) ?_
  simp only [hes, List.append_assoc, List.cons_append]

/-- No Deployment carries two proxies, at any time. -/
theorem proxyCount_after {c : Cluster} (hc : c.WellKept) (es : List Event)
    (start : ∀ key d, c.get? .deployment key = some d → d.proxyCount ≤ 1)
    (spared : AddsNoSecondProxy c es) (key : ObjectName) (d : Deployment)
    (hd : (after c es).cluster.get? .deployment key = some d) : d.proxyCount ≤ 1 := by
  induction es using List.reverseRecOn generalizing key d with
  | nil => exact start key d hd
  | append_singleton es e ih =>
    have hbefore := ih spared.earlier
    rw [after_snoc] at hd
    cases e with
    | start settings key' fresh => exact hbefore key d hd
    | cut i => exact hbefore key d hd
    | change x =>
      rcases spared es x [] rfl key d hd with hd | hd
      · exact hbefore key d hd
      · exact hd
    | call i failure =>
      rcases (after c es).step_call i failure with hs | ⟨u, call, r, hs⟩
      · rw [hs] at hd
        exact hbefore key d hd
      · have hsound := sound_after hc es
        have hu := hsound.passes u (List.mem_of_getElem? hs.pass)
        rcases (hsound.effect hs).deployment_cases hu hsound.wellKept hd with
          hd | rebuilds | injects
        · exact hbefore key d hd
        · exact Nat.le_of_eq rebuilds.count
        · exact Nat.le_of_eq injects.count

/-- A call leaves a Deployment that carries a proxy as it is, or it keeps the own Deployment of a
standalone authenticator as it should be. -/
theorem Sound.proxied_kept {t : Traffic} (h : t.Sound) (i : Nat) (failure : Option Failure)
    {key : ObjectName} {d : Deployment} (hd : t.cluster.get? .deployment key = some d)
    (hcarries : d.carriesProxy = true) :
    ∃ d', (t.step (.call i failure)).cluster.get? .deployment key = some d' ∧
      (d' = d ∨ ∃ u, t.passes[i]? = some u ∧ Rebuilds u t.cluster key d') := by
  rcases t.step_call i failure with hs | ⟨u, call, r, hs⟩
  · rw [hs]
    exact ⟨d, hd, .inl rfl⟩
  · have hu := h.passes u (List.mem_of_getElem? hs.pass)
    obtain ⟨d', hd'⟩ := Option.isSome_iff_exists.1
      ((h.objectChange hs).stays (k := .deployment) (by rw [hd]; rfl))
    refine ⟨d', hd', ?_⟩
    rcases (h.effect hs).deployment_cases hu h.wellKept hd' with hsame | rebuilds | injects
    · exact .inl (Option.some.inj (hsame.symm.trans hd))
    · exact .inr ⟨u, hs.pass, rebuilds⟩
    · obtain ⟨before, hbefore, hlacks⟩ := injects.lacked
      obtain rfl := Option.some.inj (hbefore.symm.trans hd)
      rw [hcarries] at hlacks
      cases hlacks

/-- **At most one proxy per workload**, in whatever traffic. Unless someone else adds a second one,
no Deployment ever carries two. One that carries a proxy is not changed by a pass over a sidecar
authenticator; by no pass does it lose the proxy or the name of whose proxy it is; and if a call
changes it at all, it is the own Deployment of the standalone authenticator that its pass is
about. -/
theorem at_most_one_proxy {c : Cluster} (h : c.Reachable) (es : List Event)
    (start : ∀ key d, c.get? .deployment key = some d → d.proxyCount ≤ 1)
    (spared : AddsNoSecondProxy c es) :
    let t := after c es
    (∀ key d, t.cluster.get? .deployment key = some d → d.proxyCount ≤ 1) ∧
    (∀ i failure u a key d, t.passes[i]? = some u → u.calls.Fetched u.key a →
      a.spec.mode = .sidecar → t.cluster.get? .deployment key = some d → d.carriesProxy = true →
        (t.step (.call i failure)).cluster.get? .deployment key = some d) ∧
    ∀ i failure key d, t.cluster.get? .deployment key = some d → d.carriesProxy = true →
      ∃ d', (t.step (.call i failure)).cluster.get? .deployment key = some d' ∧
        d'.carriesProxy = true ∧ d'.injector? = d.injector? ∧
        (d' ≠ d → ∃ u a, t.passes[i]? = some u ∧ u.calls.Fetched u.key a ∧
          a.spec.mode = .standalone ∧ key = u.key.dependent .deployment ∧
            a.owns d.metadata = true) := by
  intro t
  have hsound : t.Sound := sound_after h.wellKept es
  have hkeeps := keeps_after Authenticator.pass_guarded c es
  refine ⟨proxyCount_after h.wellKept es start spared, ?_, ?_⟩
  · intro i failure u a key d hu hfetched along hd hcarries
    obtain ⟨d', hd', rfl | ⟨v, hv, rebuilds⟩⟩ := hsound.proxied_kept i failure hd hcarries
    · exact hd'
    · -- What the pass has read is what it fetched, so it is not over a standalone authenticator.
      obtain rfl := Option.some.inj (hu.symm.trans hv)
      obtain ⟨b, hread, alone, -⟩ := rebuilds.authenticator
      have hb := (hkeeps u (List.mem_of_getElem? hu)).fetched_of_hasRead hread
      rw [hfetched.unique hb, alone] at along
      cases along
  · intro i failure key d hd hcarries
    obtain ⟨d', hd', rfl | ⟨u, hu, rebuilds⟩⟩ := hsound.proxied_kept i failure hd hcarries
    · exact ⟨d', hd', hcarries, rfl, fun hne => absurd rfl hne⟩
    · obtain ⟨a, hread, alone, howned⟩ := rebuilds.authenticator
      have hfetched := (hkeeps u (List.mem_of_getElem? hu)).fetched_of_hasRead hread
      refine ⟨d', hd', ?_, ?_, fun _ => ⟨u, a, hu, hfetched, alone, rebuilds.key_eq, howned d hd⟩⟩
      · rw [Deployment.carriesProxy_iff, rebuilds.count]
        exact Nat.one_pos
      · rw [Deployment.injector?, Deployment.injector?, ObjectMeta.annotation?,
          ObjectMeta.annotation?, rebuilds.annotations d hd]

/-- An authenticator whose proxy runs in the workloads that it selects. -/
def side : Authenticator where
  metadata := { name := some "side", ns := some "apps", uid := some "uid-of-side" }
  spec := {
    mode := .sidecar, credentialsSecretRef := "users", appPort := 80
    selector := { matchLabels := some (.ofList [("app", "web")]) } }

/-- A cluster in which the own Deployment of a standalone authenticator lacks its proxy and is among
the workloads of a sidecar authenticator. -/
def contested : Cluster :=
  .ofChanges [
    .place .authenticator side,
    .place .authenticator {
      metadata := { name := some "gate", ns := some "apps", uid := some "uid-of-gate" }
      spec := { credentialsSecretRef := "users", appPort := 80, appService := "app" } },
    .place .secret { metadata := { name := some "users", ns := some "apps" } },
    .place .configMap {
      metadata := {
        name := some "gate-nginx-conf", ns := some "apps"
        ownerReferences := some [{ uid := "uid-of-gate" }] } },
    .place .configMap {
      metadata := {
        name := some "side-nginx-conf", ns := some "apps"
        ownerReferences := some [{ uid := "uid-of-side" }] } },
    .place .deployment {
      metadata := {
        name := some "gate-nginx", ns := some "apps", labels := some (.ofList [("app", "web")])
        ownerReferences := some [{ uid := "uid-of-gate" }] }
      spec := some {} }]

theorem contested_start (key : ObjectName) (d : Deployment)
    (hd : contested.get? .deployment key = some d) : d.proxyCount ≤ 1 := by
  have hmem : (key, d) ∈ contested.tables.deployments.entries := SortedMap.get?_eq_some_iff.1 hd
  obtain ⟨rfl, rfl⟩ := Prod.mk.inj (List.mem_singleton.1 hmem)
  decide

/-- Two passes over `side` list the workload without a proxy; then the first one injects its own. -/
def rivals : List Event :=
  [.start {} ⟨"apps", "side"⟩ ⟨"user", "word"⟩, .start {} ⟨"apps", "side"⟩ ⟨"user", "word"⟩] ++
    List.replicate 5 (.call 0 none) ++ List.replicate 4 (.call 1 none) ++ [.call 0 none]

set_option maxRecDepth 10000 in
theorem at_most_one_proxy_of_rivals :
    let t := after contested rivals
    ∃ d, t.cluster.get? .deployment ⟨"apps", "gate-nginx"⟩ = some d ∧ d.proxyCount ≤ 1 ∧
      (t.step (.call 1 none)).cluster.get? .deployment ⟨"apps", "gate-nginx"⟩ = some d := by
  intro t
  obtain ⟨hcount, hkept, -⟩ := at_most_one_proxy (Cluster.reachable_ofChanges _) rivals
    contested_start (by
      intro earlier x later hes
      have hmem : Event.change x ∈ earlier ++ .change x :: later := by simp
      rw [← hes] at hmem
      simp [rivals] at hmem)
  have hcarries : (t.cluster.get? .deployment ⟨"apps", "gate-nginx"⟩).map (·.carriesProxy) =
      some true := rfl
  obtain ⟨d, hd, hcarries⟩ := Option.map_eq_some_iff.1 hcarries
  have hpass : 1 < t.passes.length := by decide
  refine ⟨d, hd, hcount _ d hd, hkept 1 none _ { side with metadata := { side.metadata with
    resourceVersion := some "1" } } _ d (List.getElem?_eq_getElem hpass) rfl rfl hd hcarries⟩

set_option maxRecDepth 10000 in
/-- That the workload is the own Deployment of another authenticator makes a difference: the pass
over `gate` is about to replace the volumes that the pass over `side` has added, and there is a
proxy before and after that. -/
theorem injected_volumes_overwritten_by_owner :
    let t := after contested (
      .start {} ⟨"apps", "side"⟩ ⟨"user", "word"⟩ :: List.replicate 6 (.call 0 none) ++
        .start {} ⟨"apps", "gate"⟩ ⟨"user", "word"⟩ :: List.replicate 5 (.call 1 none))
    let workload (c : Cluster) := (c.get? .deployment ⟨"apps", "gate-nginx"⟩).map fun d =>
      (d.injector?, d.carriesProxy, d.pod?.bind (·.volumes))
    (∀ key d, contested.get? .deployment key = some d → d.proxyCount ≤ 1) ∧
      workload t.cluster =
        some (some "apps/side", true, some (Proxy.volumes "users" "side-nginx-conf")) ∧
      workload (t.step (.call 1 none)).cluster =
        some (some "apps/side", true, some (Proxy.volumes "users" "gate-nginx-conf")) :=
  ⟨contested_start, rfl, rfl⟩

end Traffic

end AuthProxy
