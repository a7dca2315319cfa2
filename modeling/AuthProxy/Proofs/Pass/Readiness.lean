import AuthProxy.Proofs.Pass.Idempotence
import AuthProxy.Proofs.Replicas

/-! # Ready replicas of sidecars

What a pass over a sidecar authenticator counts: the ready replicas of the workloads that carry a
proxy of this authenticator when the pass is over, whether the pass added it or an earlier one did.
The pass counts before it writes; but what it writes are just the workloads that count without
saying so yet. A workload with a proxy is not written again, so it goes on counting for the
authenticator that came first, and for no other.
-/

namespace AuthProxy

/-- What an API server guarantees of every Deployment: it has a specification, and the ready
replicas, if there is a report of them, are not negative. -/
structure Deployment.AsServed (d : Deployment) : Prop where
  specified : d.spec.isSome = true
  ready_nonneg : ∀ n, d.readyReplicas? = some n → 0 ≤ n.toInt

/-- In one namespace the text of a name tells which it is. -/
theorem ObjectName.eq_of_text {x y : ObjectName} (hns : x.ns = y.ns) (h : x.text = y.text) :
    x = y := by
  rw [text, text, hns, String.append_right_inj] at h
  cases x
  cases y
  exact congr (congrArg mk hns) h

namespace Cluster

/-- Every Deployment is as an API server serves it. -/
def AsServed (c : Cluster) : Prop :=
  ∀ key d, c.get? .deployment key = some d → d.AsServed

/-- The Deployments that the authenticator `a` at `key` selects and that carry a proxy which, by
their annotation, is that of `key`. -/
def proxiedBy (c : Cluster) (key : ObjectName) (a : Authenticator) : List Deployment :=
  match a.spec.selector.checked with
  | .error _ => []
  | .ok s =>
    if a.spec.selector.isEmpty then []
    else (c.inNamespace .deployment key.ns).filter fun d =>
      s.selects d.metadata.labelMap && (d.carriesProxy && d.injector? = some key.text)

variable {c c' : Cluster} {key : ObjectName} {a : Authenticator} {d : Deployment}

/-- What is proxied lies in the namespace of the authenticator, carries a proxy and names it. -/
theorem mem_proxiedBy (h : d ∈ c.proxiedBy key a) :
    (∃ x, c.get? .deployment x = some d ∧ x.ns = key.ns) ∧ d.carriesProxy = true ∧
      d.injector? = some key.text := by
  unfold proxiedBy at h
  split at h
  · cases h
  · split at h
    · cases h
    · simp only [List.mem_filter, Bool.and_eq_true, decide_eq_true_eq] at h
      exact ⟨mem_inNamespace h.1, h.2.2⟩

theorem proxiedBy_congr (h : c'.tables.table .deployment = c.tables.table .deployment) :
    c'.proxiedBy key a = c.proxiedBy key a := by
  simp only [proxiedBy, inNamespace, h]

end Cluster

/-- The ready replicas of the Deployments together; without a report there are none. -/
def Deployment.totalReady (ds : List Deployment) : Int :=
  Replicas.exactSum (ds.map fun d => d.readyReplicas?.getD 0)

/-- A sum in which Deployments without a report are left out is the same. -/
theorem Deployment.totalReady_eq (ds : List Deployment) :
    totalReady ds = Replicas.exactSum (ds.filterMap (·.readyReplicas?)) := by
  induction ds with
  | nil => rfl
  | cons d rest ih =>
    have hcons : totalReady (d :: rest) = (d.readyReplicas?.getD 0).toInt + totalReady rest := rfl
    rw [hcons, ih]
    cases h : d.readyReplicas? <;> simp [h, Replicas.exactSum]

namespace Authenticator

open Program

variable {a b : Authenticator} {settings : Settings} {fresh : Credentials} {c c' : Cluster}
  {key : ObjectName} {secret map : String} {ready : Int32} {d : Deployment}

/-! ## One workload step -/

/-- A Deployment that carries a proxy is not written. -/
theorem Injects.proxied_kept (hc : c.WellKept) (h : Injects settings a secret map ready c c')
    (hd : c.get? .deployment key = some d) (hcarries : d.carriesProxy = true) :
    c'.get? .deployment key = some d := by
  unfold Injects at h
  split at h
  · rw [h.2, hd]
  · obtain ⟨ns, workloads, -, hlist, hrewritten, -⟩ := h
    rw [hrewritten.kept key, hd]
    intro o ho hkey
    obtain ⟨x, hx, hlacks, hadded⟩ := mem_addProxies.1 ho
    rw [key_addProxyTo? hadded] at hkey
    have hstored := (hc.get?_of_list hlist hx).1
    obtain rfl : x = d := Option.some.inj ((hkey ▸ hstored).symm.trans hd)
    rw [hcarries] at hlacks
    cases hlacks

/-- What is written keeps a specification and the status. -/
theorem Injects.asServed (h : Injects settings a secret map ready c c') (hserved : c.AsServed) :
    c'.AsServed := by
  unfold Injects at h
  split at h
  · rw [h.2]
    exact hserved
  · obtain ⟨ns, workloads, -, -, hrewritten, -⟩ := h
    intro key d hd
    by_cases hchanged : ∃ o ∈ a.addProxies secret map settings workloads,
        Kind.deployment.key o = key
    · obtain ⟨o, ho, rfl⟩ := hchanged
      obtain ⟨found, v, hfound, hnow⟩ := hrewritten.written o ho
      obtain ⟨x, -, -, hadded⟩ := mem_addProxies.1 ho
      obtain rfl := Option.some.inj (hd.symm.trans hnow)
      refine ⟨?_, fun n hn => (hserved _ _ hfound).ready_nonneg n hn⟩
      cases hx : x.spec with
      | none => rw [addProxyTo?, hx] at hadded; cases hadded
      | some s =>
        rw [addProxyTo?, hx] at hadded
        cases hadded
        rfl
    · rw [hrewritten.kept key fun o ho hkey => hchanged ⟨o, ho, hkey⟩] at hd
      exact hserved key d hd

/-- What a workload step that goes on has counted is what the authenticator proxies afterwards. -/
theorem Injects.ready_eq (hc : c.WellKept) (hkey : Kind.authenticator.key a = key)
    (h : Injects settings a secret map ready c c') (hserved : c.AsServed) :
    ready.toInt = min Replicas.greatest (Deployment.totalReady (c'.proxiedBy key a)) := by
  have hserved' := h.asServed hserved
  have hlacks := (h.lacksNoProxy hc).2
  unfold Cluster.LacksNoProxy at hlacks
  unfold Cluster.proxiedBy
  cases hempty : a.spec.selector.isEmpty with
  | true =>
    simp only [hempty, if_true] at hlacks ⊢
    rw [hlacks]
    split <;> rfl
  | false =>
    simp only [hempty, Bool.false_eq_true, if_false] at hlacks ⊢
    obtain ⟨ns, workloads, hns, hlist, hnone, rfl⟩ := hlacks
    obtain rfl : key.ns = ns := hkey ▸ ns_key hns
    obtain ⟨s, hs, hworkloads⟩ : ∃ s, a.spec.selector.checked = .ok s ∧
        workloads = (c'.inNamespace .deployment key.ns).filter fun d : Deployment =>
          s.selects d.metadata.labelMap := Cluster.list_eq_ok_iff.1 hlist
    -- All that is listed carries a proxy, because nothing is left to which one could be added.
    have hcarries : ∀ d ∈ workloads, d.carriesProxy = true := by
      intro d hd
      by_contra hlacks
      obtain ⟨x, hx, -⟩ := Cluster.mem_of_list hlist hd
      obtain ⟨o, ho⟩ := addProxyTo?_of_spec a secret map settings (hserved' x d hx).specified
      have hmem := mem_addProxies.2 ⟨d, hd, by simpa using hlacks, ho⟩
      rw [hnone] at hmem
      cases hmem
    have hcounted : ((c'.inNamespace .deployment key.ns).filter fun d : Deployment =>
        s.selects d.metadata.labelMap && (d.carriesProxy && d.injector? = some key.text)) =
        workloads.filter fun d => d.injector? = some a.fullName := by
      rw [show a.fullName = key.text from hkey ▸ rfl, hworkloads, List.filter_filter]
      refine List.filter_congr fun d hd => ?_
      cases hselects : s.selects d.metadata.labelMap with
      | false => simp
      | true => simp [hcarries d (hworkloads ▸ List.mem_filter.2 ⟨hd, hselects⟩)]
    rw [hs]
    dsimp only
    rw [hcounted, Deployment.totalReady_eq, proxiedReady]
    simp only [List.any_nil, Bool.or_false]
    apply Replicas.toInt_heldSum
    intro n hn
    obtain ⟨d, hd, hready⟩ := List.mem_filterMap.1 hn
    obtain ⟨x, hx, -⟩ := Cluster.mem_of_list hlist (List.mem_filter.1 hd).1
    exact (hserved' x d hx).ready_nonneg n hready

/-! ## A whole pass -/

theorem asServed_congr (hserved : c.AsServed)
    (h : c'.tables.table .deployment = c.tables.table .deployment) : c'.AsServed :=
  fun key d hd => hserved key d ((Cluster.get?_congr h key).symm.trans hd)

/-- What a pass over the sidecar authenticator `a` at `key` that is done with `ready` replicas has
made of the cluster. -/
structure Counts (key : ObjectName) (a : Authenticator) (ready : Int32) (c c' : Cluster) :
    Prop where
  ready_eq : ready.toInt = min Replicas.greatest (Deployment.totalReady (c'.proxiedBy key a))
  asServed : c'.AsServed
  proxied_kept : ∀ x d, c.get? .deployment x = some d → d.carriesProxy = true →
    c'.get? .deployment x = some d
  others_kept : ∀ x, x ≠ key → c'.get? .authenticator x = c.get? .authenticator x

/-- Only its workload step changes Deployments, and only its report changes an authenticator. -/
theorem pass_counts (hc : c.WellKept) (hserved : c.AsServed)
    (hget : c.get? .authenticator key = some a) (along : a.spec.mode = .sidecar)
    (h : (pass settings key.ns key.name fresh).Yields Cluster.answer c (.done ready) c') :
    Counts key a ready c c' := by
  obtain ⟨x, hx, hconverge⟩ := pass_yields_done.1 h
  obtain rfl : a = x := Option.some.inj (hget.symm.trans hx)
  obtain ⟨secret, map, c₁, c₂, c₃, h₁, h₂, h₃, h₄⟩ := converge_yields_done.1 hconverge
  rw [proxyStep_of_sidecar along] at h₃
  obtain ⟨rfl, -⟩ := credentialsStep_settles h₁
  have hc₂ := hc.yields h₂
  obtain ⟨only₂, -⟩ := configurationStep_settles hc h₂
  obtain ⟨only₃, -⟩ := workloadsStep_settles hc₂ h₃
  have hinjects := (workloadsStep_injects hc₂).yields h₃
  have authenticators : ∀ x, c₃.get? .authenticator x = c₁.get? .authenticator x :=
    Cluster.get?_congr ((only₃ _ (by decide)).trans (only₂ _ (by decide)))
  obtain ⟨only₄, -⟩ := (reportStep_ensures (fun _ _ => True) (hc₂.yields h₃)
    ((authenticators key).trans hget) trivial).yields h₄
  have before : c₂.tables.table .deployment = c₁.tables.table .deployment := only₂ _ (by decide)
  have after : c'.tables.table .deployment = c₃.tables.table .deployment :=
    only₄.kinds _ (by decide)
  have hserved₂ := asServed_congr hserved before
  refine ⟨?_, asServed_congr (hinjects.asServed hserved₂) after, fun x d hd hcarries => ?_,
    fun x hne => (only₄.names x hne).trans (authenticators x)⟩
  · rw [Cluster.proxiedBy_congr after]
    exact hinjects.ready_eq hc₂ (hc.key_eq hget) hserved₂
  · rw [Cluster.get?_congr after]
    exact hinjects.proxied_kept hc₂ ((Cluster.get?_congr before x).trans hd) hcarries

/-- **Ready replicas are counted for their injector alone.** A pass over a sidecar authenticator
that is done reports the ready replicas of the selected workloads that carry its proxy when the pass
is over, all together, or the greatest number there is. If a pass over another sidecar authenticator
follows and is done as well, it reports those of its own; and no workload counts in both, however
the selectors overlap. -/
theorem ready_replicas_counted_once {x : ObjectName} {r : Int32} (h : c.Reachable)
    (hserved : c.AsServed) (settings : Settings) (fresh : Credentials)
    (hget : c.get? .authenticator x = some a) (along : a.spec.mode = .sidecar)
    (hdone : ((pass settings x.ns x.name fresh).run Cluster.answer c).result = .ok (.done r)) :
    let left := ((pass settings x.ns x.name fresh).run Cluster.answer c).store
    r.toInt = min Replicas.greatest (Deployment.totalReady (left.proxiedBy x a)) ∧
      ∀ settings' fresh' y b s, y ≠ x → c.get? .authenticator y = some b →
        b.spec.mode = .sidecar →
        let next := (pass settings' y.ns y.name fresh').run Cluster.answer left
        next.result = .ok (.done s) →
          s.toInt = min Replicas.greatest (Deployment.totalReady (next.store.proxiedBy y b)) ∧
            ∀ d ∈ left.proxiedBy x a, ∀ e ∈ next.store.proxiedBy y b,
              Kind.deployment.key d ≠ Kind.deployment.key e := by
  intro left
  have hyields := yields_of_result hdone
  have hc : left.WellKept := h.wellKept.yields hyields
  have hfirst := pass_counts h.wellKept hserved hget along hyields
  refine ⟨hfirst.ready_eq, ?_⟩
  intro settings' fresh' y b s hne hgetb alongb next hdone'
  have hyields' := yields_of_result hdone'
  have hc' : next.store.WellKept := hc.yields hyields'
  have hsecond := pass_counts hc hfirst.asServed ((hfirst.others_kept y hne).trans hgetb) alongb
    hyields'
  refine ⟨hsecond.ready_eq, fun d hd e he heq => ?_⟩
  -- What the first one counts carries a proxy, so the second one leaves it as it is.
  obtain ⟨⟨p, hp, hns⟩, hcarries, hinjector⟩ := Cluster.mem_proxiedBy hd
  obtain ⟨⟨q, hq, hns'⟩, -, hinjector'⟩ := Cluster.mem_proxiedBy he
  have hkept := hsecond.proxied_kept p d hp hcarries
  rw [hc'.key_eq hkept, hc'.key_eq hq] at heq
  subst heq
  obtain rfl : d = e := Option.some.inj (hkept.symm.trans hq)
  exact hne (ObjectName.eq_of_text (hns'.symm.trans hns)
    (Option.some.inj (hinjector'.symm.trans hinjector)))

/-- Two sidecar authenticators select the same workloads: `web` lacks a proxy, `shop` carries that
of the door. -/
def sharedWorkloads : Cluster :=
  let selected : Labels := .ofList [("app", "web")]
  let sidecar (name : String) : Authenticator :=
    { metadata := { name := some name, ns := some "apps", uid := some name }
      spec := {
        mode := .sidecar, credentialsSecretRef := "users", appPort := 80
        selector := { matchLabels := some selected } } }
  let configMap (name : String) : ConfigMap :=
    { metadata := {
        name := some (name ++ "-nginx-conf"), ns := some "apps"
        ownerReferences := some [{ uid := name }] } }
  .ofChanges [
    .place .secret { metadata := { name := some "users", ns := some "apps" } },
    .place .authenticator (sidecar "gate"), .place .configMap (configMap "gate"),
    .place .authenticator (sidecar "door"), .place .configMap (configMap "door"),
    .place .deployment {
      metadata := { name := some "web", ns := some "apps", labels := some selected }
      spec := some {}, status := some { readyReplicas := some 2 } },
    .place .deployment {
      metadata := {
        name := some "shop", ns := some "apps", labels := some selected
        annotations := some (.ofList [(Proxy.injectedByKey, "apps/door")]) }
      spec := some {
        template := { spec := some { containers := [{ name := Proxy.containerName }] } } }
      status := some { readyReplicas := some 5 } }]

theorem ready_replicas_counted_once_at_shared_workloads :
    let left := ((pass {} "apps" "gate" ⟨"user", "word"⟩).run Cluster.answer sharedWorkloads).store
    let next := (pass {} "apps" "door" ⟨"user", "word"⟩).run Cluster.answer left
    ∃ a b, sharedWorkloads.get? .authenticator ⟨"apps", "gate"⟩ = some a ∧
      sharedWorkloads.get? .authenticator ⟨"apps", "door"⟩ = some b ∧
      2 = min Replicas.greatest (Deployment.totalReady (left.proxiedBy ⟨"apps", "gate"⟩ a)) ∧
      5 = min Replicas.greatest (Deployment.totalReady (next.store.proxiedBy ⟨"apps", "door"⟩ b)) ∧
      ∀ d ∈ left.proxiedBy ⟨"apps", "gate"⟩ a, ∀ e ∈ next.store.proxiedBy ⟨"apps", "door"⟩ b,
        Kind.deployment.key d ≠ Kind.deployment.key e := by
  intro left next
  have hserved : sharedWorkloads.AsServed := by
    have hall : (sharedWorkloads.tables.table .deployment).entries.all (fun e =>
        e.2.spec.isSome && e.2.readyReplicas?.all (0 ≤ ·.toInt)) = true := by decide +kernel
    intro key d hd
    have hd := List.all_eq_true.1 hall _ (SortedMap.get?_eq_some_iff.1 hd)
    simp only [Bool.and_eq_true, Option.all_eq_true, decide_eq_true_eq] at hd
    exact ⟨hd.1, hd.2⟩
  have hmodes : ∀ name ∈ ["gate", "door"], (sharedWorkloads.get? .authenticator
      ⟨"apps", name⟩).map (·.spec.mode) = some .sidecar := by decide +kernel
  obtain ⟨a, hgate, hgateMode⟩ := Option.map_eq_some_iff.1 (hmodes "gate" (by decide))
  obtain ⟨b, hdoor, hdoorMode⟩ := Option.map_eq_some_iff.1 (hmodes "door" (by decide))
  obtain ⟨hready, hnext⟩ := ready_replicas_counted_once (x := ⟨"apps", "gate"⟩) (r := 2)
    (Cluster.reachable_ofChanges _) hserved {} ⟨"user", "word"⟩ hgate hgateMode (by decide +kernel)
  obtain ⟨hready', hdisjoint⟩ := hnext {} ⟨"user", "word"⟩ ⟨"apps", "door"⟩ b 5 (by decide) hdoor
    hdoorMode (by decide +kernel)
  exact ⟨a, b, hgate, hdoor, hready, hready', hdisjoint⟩

end Authenticator

end AuthProxy
