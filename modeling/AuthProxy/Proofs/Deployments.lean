import AuthProxy.Proofs.Cluster.Calls
import AuthProxy.Proxy.Dependents
import AuthProxy.Proxy.Injection
import AuthProxy.Proxy.Outline

/-! # Deployments and what is written to them

The defaults that a cluster fills in change neither the outline of a Deployment nor whether it
carries a proxy. A workload that the proxy was added to carries one more, says whose it is, and is
otherwise known by the same name and labels.
-/

namespace AuthProxy

/-! ## Defaults -/

theorem Container.outline_withDefaults (c : Container) : c.withDefaults.outline = c.outline := by
  cases hp : c.ports <;> simp [outline, withDefaults, hp, ContainerPort.withDefaults,
    Function.comp_def]

theorem DeploymentSpec.outline_withDefaults (s : DeploymentSpec) :
    s.withDefaults.outline = s.outline := by
  cases hs : s.template.spec <;> simp [outline, withDefaults, hs, PodSpec.withDefaults,
    Container.outline_withDefaults, Function.comp_def]

theorem Container.withDefaults_withDefaults (c : Container) :
    c.withDefaults.withDefaults = c.withDefaults := by
  cases hp : c.ports <;> simp [withDefaults, hp, fillIn_fillIn, ContainerPort.withDefaults,
    Function.comp_def]

theorem PodSpec.withDefaults_withDefaults (p : PodSpec) :
    p.withDefaults.withDefaults = p.withDefaults := by
  simp [withDefaults, fillIn_fillIn, Container.withDefaults_withDefaults, Function.comp_def]

theorem DeploymentSpec.withDefaults_withDefaults (s : DeploymentSpec) :
    s.withDefaults.withDefaults = s.withDefaults := by
  cases hs : s.template.spec <;> simp [withDefaults, hs, fillIn_fillIn,
    PodSpec.withDefaults_withDefaults]

namespace Deployment

/-- **Defaults are no drift.** -/
theorem outline_withDefaults (d : Deployment) : d.withDefaults.outline = d.outline := by
  cases hs : d.spec <;> simp [outline, withDefaults, hs, DeploymentSpec.outline_withDefaults]

/-- What has its defaults gets no others. -/
theorem withDefaults_withDefaults (d : Deployment) :
    d.withDefaults.withDefaults = d.withDefaults := by
  cases hs : d.spec <;> simp [withDefaults, hs, DeploymentSpec.withDefaults_withDefaults]

/-- How many of the containers are proxies. -/
def proxyCount (d : Deployment) : Nat :=
  ((d.pod?.map (·.containers)).getD []).countP fun c => c.name = Proxy.containerName

theorem carriesProxy_iff {d : Deployment} : d.carriesProxy = true ↔ 0 < d.proxyCount := by
  cases hp : d.pod? <;>
    simp [carriesProxy, proxyCount, hp, PodSpec.hasProxy, List.countP_pos_iff]

/-- Whether a Deployment carries a proxy depends only on how many it carries. -/
theorem carriesProxy_congr {d x : Deployment} (h : d.proxyCount = x.proxyCount) :
    d.carriesProxy = x.carriesProxy := by
  rw [Bool.eq_iff_iff, carriesProxy_iff, carriesProxy_iff, h]

theorem proxyCount_withDefaults (d : Deployment) : d.withDefaults.proxyCount = d.proxyCount := by
  cases hs : d.spec with
  | none => simp [proxyCount, pod?, withDefaults, hs]
  | some s =>
    cases hp : s.template.spec <;> simp [proxyCount, pod?, withDefaults, hs, hp,
      DeploymentSpec.withDefaults, PodSpec.withDefaults, Container.withDefaults, List.countP_map,
      Function.comp_def]

theorem carriesProxy_withDefaults (d : Deployment) :
    d.withDefaults.carriesProxy = d.carriesProxy :=
  carriesProxy_congr d.proxyCount_withDefaults

end Deployment

/-! ## Injection -/

namespace Authenticator

variable {a : Authenticator} {secret map : String} {settings : Settings} {d o : Deployment}
  {workloads : List Deployment}

theorem addProxyTo?_eq_some (h : a.addProxyTo? secret map settings d = some o) :
    o.metadata = d.metadata.annotate Proxy.injectedByKey a.fullName ∧ o.status = d.status := by
  unfold addProxyTo? at h
  cases hs : d.spec with
  | none => rw [hs] at h; cases h
  | some s => rw [hs] at h; cases h; exact ⟨rfl, rfl⟩

/-- The proxy can be added to whatever specifies anything. -/
theorem addProxyTo?_of_spec (a : Authenticator) (secret map : String) (settings : Settings)
    (h : d.spec.isSome = true) : ∃ o, a.addProxyTo? secret map settings d = some o := by
  obtain ⟨s, hs⟩ := Option.isSome_iff_exists.1 h
  exact ⟨_, by rw [addProxyTo?, hs]; rfl⟩

theorem key_addProxyTo? (h : a.addProxyTo? secret map settings d = some o) :
    Kind.deployment.key o = Kind.deployment.key d := by
  have hm : Kind.deployment.metadata o = d.metadata.annotate Proxy.injectedByKey a.fullName :=
    (addProxyTo?_eq_some h).1
  apply Kind.key_congr <;> rw [hm] <;> rfl

theorem proxyCount_addProxyTo? (h : a.addProxyTo? secret map settings d = some o) :
    o.proxyCount = d.proxyCount + 1 := by
  unfold addProxyTo? at h
  cases hs : d.spec with
  | none => rw [hs] at h; cases h
  | some s =>
    rw [hs] at h
    cases h
    cases hp : s.template.spec <;>
      simp [Deployment.proxyCount, Deployment.pod?, hs, hp, PodSpec.addProxy, proxy,
        Proxy.container, List.countP_append]

/-- The added container is found again by its name. -/
theorem carriesProxy_addProxyTo? (h : a.addProxyTo? secret map settings d = some o) :
    o.carriesProxy = true := by
  rw [Deployment.carriesProxy_iff, proxyCount_addProxyTo? h]
  exact Nat.succ_pos _

/-- The proxy's own Deployment runs the proxy and nothing else. -/
theorem proxyCount_of_deploymentSpec {n : Int32}
    (h : d.spec = some (a.deploymentSpec secret map n settings)) : d.proxyCount = 1 := by
  simp [Deployment.proxyCount, Deployment.pod?, h, deploymentSpec, proxyTemplate, proxy,
    Proxy.container]

theorem injector?_addProxyTo? (h : a.addProxyTo? secret map settings d = some o) :
    o.injector? = some a.fullName := by
  simp [Deployment.injector?, (addProxyTo?_eq_some h).1, ObjectMeta.annotation?,
    ObjectMeta.annotate, SortedMap.get?_insert]

theorem mem_addProxies :
    o ∈ a.addProxies secret map settings workloads ↔
      ∃ d ∈ workloads, d.carriesProxy = false ∧ a.addProxyTo? secret map settings d = some o := by
  simp only [addProxies, List.mem_filterMap, List.mem_filter, Bool.not_eq_true', and_assoc]

/-- If the workloads have different names, so have those that the proxy is added to. -/
theorem addProxies_distinct
    (h : workloads.Pairwise fun d x => Kind.deployment.key d ≠ Kind.deployment.key x) :
    (a.addProxies secret map settings workloads).Pairwise
      fun d x => Kind.deployment.key d ≠ Kind.deployment.key x := by
  refine List.Pairwise.filterMap _ (fun d x hne d' hd' x' hx' => ?_) (h.filter _)
  rw [key_addProxyTo? hd', key_addProxyTo? hx']
  exact hne

end Authenticator

end AuthProxy
