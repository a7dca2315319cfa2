import AuthProxy.Proofs.Deployments
import AuthProxy.Proofs.Shapes

/-! # What injection adds

The workloads that get the proxy, and what each of them is afterwards: one container more, at most
two volumes more, the annotation, and nothing else (`AddsProxy`). Volumes are added by name. So a
workload that already has a volume of such a name keeps it, and the proxy runs with that one
(`MountsServed`).
-/

namespace AuthProxy

/-! ## What a workload consists of -/

namespace DeploymentSpec

/-- The specification without containers and volumes. Pods that are not specified count as empty. -/
def bare (s : DeploymentSpec) : DeploymentSpec :=
  let pod := { s.template.spec.getD {} with containers := [], volumes := none }
  { s with template := { s.template with spec := some pod } }

end DeploymentSpec

namespace Deployment

/-- All but the containers, the volumes and the annotations. -/
def bare (d : Deployment) : Deployment :=
  { d with
    metadata := { d.metadata with annotations := none }
    spec := d.spec.map (·.bare) }

/-- Whether the proxy can be added: there is a specification, and none of its containers is a
proxy. -/
def takesProxy (d : Deployment) : Bool :=
  d.spec.isSome && d.containers.all (·.name != "basic-auth-proxy")

theorem carriesProxy_eq_any (d : Deployment) :
    d.carriesProxy = d.containers.any (·.name = Proxy.containerName) := by
  rw [carriesProxy, containers, ← pod?]
  cases d.pod? <;> simp [PodSpec.hasProxy]

theorem takesProxy_eq (d : Deployment) : d.takesProxy = (d.spec.isSome && !d.carriesProxy) := by
  rw [takesProxy, carriesProxy_eq_any, List.not_any_eq_all_not, Proxy.containerName]
  simp only [bne, beq_eq_decide]

end Deployment

/-! ## Volumes -/

/-- Whether none of the volumes has the name. -/
def Volume.isNewIn (v : Volume) (volumes : List Volume) : Bool :=
  volumes.all fun w => w.name != v.name

/-- Of volumes with different names, just those are added whose name was not taken before. By
induction on the volumes to add: one that was added takes no name of those that follow it. -/
theorem PodSpec.addVolumes_eq {volumes more : List Volume}
    (h : more.Pairwise fun v w => v.name ≠ w.name) :
    addVolumes volumes more = volumes ++ more.filter (·.isNewIn volumes) := by
  induction more generalizing volumes with
  | nil => simp [addVolumes]
  | cons v rest ih =>
    obtain ⟨hv, hrest⟩ := List.pairwise_cons.1 h
    by_cases htaken : volumes.any (fun w => w.name = v.name) = true
    · have hnew : ¬ v.isNewIn volumes = true := by simpa [Volume.isNewIn] using htaken
      rw [addVolumes, if_pos htaken, ih hrest, List.filter_cons, if_neg hnew]
    · have hnew : v.isNewIn volumes = true := by simpa [Volume.isNewIn] using htaken
      have hfilter : rest.filter (·.isNewIn (volumes ++ [v])) =
          rest.filter (·.isNewIn volumes) := by
        apply List.filter_congr
        intro w hw
        simp [Volume.isNewIn, hv w hw]
      rw [addVolumes, if_neg htaken, ih hrest, hfilter, List.filter_cons, if_pos hnew,
        List.append_assoc, List.singleton_append]

theorem Proxy.volumes_distinct (secret map : String) :
    (Proxy.volumes secret map).Pairwise fun v w => v.name ≠ w.name := by
  simp [Proxy.volumes, confVolume, credentialsVolume]

/-! ## One workload -/

/-- The Deployment `o` is `d` with the proxy of the authenticator added. -/
structure AddsProxy (a : Authenticator) (secret map : String) (settings : Settings)
    (d o : Deployment) : Prop where
  /-- The container comes after those that were there. -/
  containers : o.containers = d.containers ++ [{
    name := "basic-auth-proxy"
    image := some settings.image
    ports := some [{
      name := some "basic-auth"
      containerPort := a.spec.proxyPort.getD settings.defaultPort }]
    volumeMounts := some [
      { name := "basic-auth-nginx-conf", mountPath := "/etc/nginx/conf.d", readOnly := some true },
      { name := "basic-auth-credentials", mountPath := "/etc/nginx/secret"
        readOnly := some true }] }]
  /-- So do the volumes with the configuration and with the credentials, each unless its name was
  taken. -/
  volumes : o.volumes = d.volumes ++ List.filter (·.isNewIn d.volumes) [
    { name := "basic-auth-nginx-conf", configMap := some { name := map } },
    { name := "basic-auth-credentials", secret := some { secretName := some secret } }]
  /-- The annotation names the authenticator, whatever it said before. -/
  annotation : ∀ k, o.metadata.annotation? k =
    if k = "authenticator.snappcloud.io/injected-by" then
      some (a.metadata.ns.getD "" ++ "/" ++ (a.metadata.name <|> a.metadata.generateName).getD "")
    else d.metadata.annotation? k
  /-- All else stays. -/
  bare : o.bare = d.bare

namespace AddsProxy

variable {a : Authenticator} {secret map : String} {settings : Settings} {d o : Deployment}

/-- The container is the one that the authenticator's own Deployment would run, -/
theorem containers_eq (h : AddsProxy a secret map settings d o) :
    o.containers = d.containers ++ [a.proxy settings] := h.containers

/-- and so are the volumes. -/
theorem volumes_eq (h : AddsProxy a secret map settings d o) :
    o.volumes = d.volumes ++ (Proxy.volumes secret map).filter (·.isNewIn d.volumes) := h.volumes

end AddsProxy

namespace Authenticator

variable {a : Authenticator} {secret map : String} {settings : Settings} {d o : Deployment}

theorem addsProxy_of_eq_some (h : a.addProxyTo? secret map settings d = some o) :
    AddsProxy a secret map settings d o := by
  unfold addProxyTo? at h
  cases hs : d.spec with
  | none => rw [hs] at h; cases h
  | some s =>
    rw [hs] at h
    cases h
    refine ⟨?_, ?_, fun k => ?_, ?_⟩
    · show _ = d.containers ++ [a.proxy settings]
      cases hp : s.template.spec <;> simp [Deployment.containers, hs, hp, PodSpec.addProxy]
    · show _ = d.volumes ++ (Proxy.volumes secret map).filter (·.isNewIn d.volumes)
      rw [← PodSpec.addVolumes_eq (Proxy.volumes_distinct secret map)]
      cases hp : s.template.spec <;> simp [Deployment.volumes, hs, hp, PodSpec.addProxy]
    · show _ = if k = Proxy.injectedByKey then some a.fullName else d.metadata.annotation? k
      cases hm : d.metadata.annotations <;>
        simp [ObjectMeta.annotation?, ObjectMeta.annotate, SortedMap.get?_insert, hm]
    · simp [Deployment.bare, DeploymentSpec.bare, ObjectMeta.annotate, PodSpec.addProxy, hs]

/-- In the order in which they are listed, the workloads that can take the proxy get it. -/
theorem addProxies_forall₂ (a : Authenticator) (secret map : String) (settings : Settings)
    (workloads : List Deployment) :
    List.Forall₂ (fun d o => a.addProxyTo? secret map settings d = some o)
      (workloads.filter (·.takesProxy)) (a.addProxies secret map settings workloads) := by
  induction workloads with
  | nil => exact .nil
  | cons d rest ih =>
    have htakes := d.takesProxy_eq
    unfold addProxies at ih ⊢
    cases hc : d.carriesProxy with
    | true =>
      rw [hc, Bool.not_true, Bool.and_false] at htakes
      simpa [htakes, hc] using ih
    | false =>
      rw [hc, Bool.not_false, Bool.and_true] at htakes
      cases hs : d.spec with
      | none =>
        have hnone : a.addProxyTo? secret map settings d = none := by simp [addProxyTo?, hs]
        simpa [htakes, hc, hs, hnone] using ih
      | some s =>
        obtain ⟨o, ho⟩ := a.addProxyTo?_of_spec secret map settings (d := d) (by simp [hs])
        simpa [htakes, hc, hs, ho] using ih

theorem addProxies_eq_nil (h : ∀ d ∈ workloads, d.carriesProxy = true) :
    a.addProxies secret map settings workloads = [] := by
  rw [List.eq_nil_iff_forall_not_mem]
  intro o ho
  obtain ⟨d, hd, hcarries, -⟩ := mem_addProxies.1 ho
  rw [h d hd] at hcarries
  cases hcarries

/-- **Injection adds a proxy where there is none, and nothing else.** Afterwards nobody has
anything left to inject into the workloads that got one. -/
theorem addProxies_exact (a : Authenticator) (secret map : String) (settings : Settings)
    (workloads : List Deployment) :
    List.Forall₂ (AddsProxy a secret map settings) (workloads.filter (·.takesProxy))
      (a.addProxies secret map settings workloads) ∧
    ∀ (b : Authenticator) (secret' map' : String) (settings' : Settings),
      b.addProxies secret' map' settings' (a.addProxies secret map settings workloads) = [] := by
  refine ⟨(a.addProxies_forall₂ secret map settings workloads).imp fun d o => addsProxy_of_eq_some,
    fun b secret' map' settings' => addProxies_eq_nil fun o ho => ?_⟩
  obtain ⟨d, -, -, hd⟩ := mem_addProxies.1 ho
  exact carriesProxy_addProxyTo? hd

end Authenticator

/-! ## What the mounts find -/

namespace Proxy

/-- Where the proxy sees its configuration. -/
def confMount : VolumeMount := readOnlyMount confVolume confMountPath

/-- Where the proxy sees the credentials. -/
def credentialsMount : VolumeMount := readOnlyMount credentialsVolume credentialsMountPath

end Proxy

/-- The volumes of the pods that have the name that the mount asks for. -/
def Deployment.behind (d : Deployment) (m : VolumeMount) : List Volume :=
  d.volumes.filter (·.name = m.name)

/-- What the proxy in `o` finds behind its mounts when `d` is what the workload was before. -/
structure MountsServed (secret map : String) (d o : Deployment) : Prop where
  /-- A name that was taken stays with the volumes that had it. -/
  kept : ∀ m, d.behind m ≠ [] → o.behind m = d.behind m
  /-- Otherwise the configuration comes from the ConfigMap, -/
  configuration : d.behind Proxy.confMount = [] →
    o.behind Proxy.confMount = [{ name := Proxy.confVolume, configMap := some { name := map } }]
  /-- and the credentials from the Secret. -/
  credentials : d.behind Proxy.credentialsMount = [] →
    o.behind Proxy.credentialsMount =
      [{ name := Proxy.credentialsVolume, secret := some { secretName := some secret } }]

section Mounts

variable {a : Authenticator} {secret map : String} {settings : Settings} {d o : Deployment}

theorem Deployment.behind_eq_nil {m : VolumeMount} :
    d.behind m = [] ↔ ∀ w ∈ d.volumes, w.name ≠ m.name := by
  simp [behind]

/-- A volume is new exactly where nothing is behind the mounts that ask for it. -/
theorem Volume.isNewIn_iff {v : Volume} {m : VolumeMount} (h : v.name = m.name) :
    v.isNewIn d.volumes = true ↔ d.behind m = [] := by
  simp [Deployment.behind_eq_nil, isNewIn, h]

theorem AddsProxy.behind_eq (h : AddsProxy a secret map settings d o) (m : VolumeMount) :
    o.behind m = d.behind m ++
      if d.behind m = [] then (Proxy.volumes secret map).filter (·.name = m.name) else [] := by
  have hnew : ((Proxy.volumes secret map).filter (·.isNewIn d.volumes)).filter (·.name = m.name) =
      if d.behind m = [] then (Proxy.volumes secret map).filter (·.name = m.name) else [] := by
    rw [List.filter_filter]
    split_ifs with hnone
    · apply List.filter_congr
      intro v _
      by_cases hname : v.name = m.name
      · simp [hname, (Volume.isNewIn_iff hname).2 hnone]
      · simp [hname]
    · rw [List.filter_eq_nil_iff]
      intro v _ hboth
      rw [Bool.and_eq_true, decide_eq_true_eq] at hboth
      exact hnone ((Volume.isNewIn_iff hboth.1).1 hboth.2)
  rw [Deployment.behind, h.volumes_eq, List.filter_append, hnew, Deployment.behind]

theorem AddsProxy.mountsServed (h : AddsProxy a secret map settings d o) :
    MountsServed secret map d o where
  kept m hm := by rw [h.behind_eq, if_neg hm, List.append_nil]
  configuration hnone := by
    rw [h.behind_eq, if_pos hnone, hnone]
    simp [Proxy.volumes, Proxy.confMount, Proxy.readOnlyMount, Proxy.confVolume,
      Proxy.credentialsVolume]
  credentials hnone := by
    rw [h.behind_eq, if_pos hnone, hnone]
    simp [Proxy.volumes, Proxy.credentialsMount, Proxy.readOnlyMount, Proxy.confVolume,
      Proxy.credentialsVolume]

/-- **The mounts of an injected proxy are served.** Behind each of them are the volumes that the
workload had under that name and, where it had none, the authenticator's own. -/
theorem Authenticator.injected_mounts_served (a : Authenticator) (secret map : String)
    (settings : Settings) (workloads : List Deployment) :
    (a.proxy settings).volumeMounts = some [Proxy.confMount, Proxy.credentialsMount] ∧
    List.Forall₂
      (fun d o => a.proxy settings ∈ o.containers ∧ MountsServed secret map d o)
      (workloads.filter (·.takesProxy)) (a.addProxies secret map settings workloads) := by
  refine ⟨rfl, (a.addProxies_forall₂ secret map settings workloads).imp fun d o h => ?_⟩
  have hadds := addsProxy_of_eq_some h
  exact ⟨by simp [hadds.containers_eq], hadds.mountsServed⟩

/-- A workload whose proxy somebody took out by hand, leaving the volumes. -/
def Deployment.vacated : Deployment where
  metadata := { name := some "web", ns := some "apps" }
  spec := some { template := { spec := some {
    containers := [{ name := "app" }]
    volumes := some (Proxy.volumes "their-credentials" "their-conf") } } }

/-- **Whose credentials the proxy checks is up to the volumes that were there.** A workload that
keeps the volumes of an earlier proxy gets a proxy that runs on them. -/
theorem Authenticator.vacated_keeps_their_volumes :
    (∃ o, Authenticator.gate.addProxies "credentials" "conf" {} [Deployment.vacated] = [o] ∧
      o.volumes = Proxy.volumes "their-credentials" "their-conf") ∧
    ¬ ∀ (a : Authenticator) (secret map : String) (settings : Settings)
        (workloads : List Deployment), ∀ o ∈ a.addProxies secret map settings workloads,
      (∃ v, o.behind Proxy.confMount = [v] ∧ v.configMap.map (·.name) = some map) ∧
      ∃ v, o.behind Proxy.credentialsMount = [v] ∧
        v.secret.bind (·.secretName) = some secret := by
  have hgot : ∃ o, Authenticator.gate.addProxies "credentials" "conf" {} [Deployment.vacated] =
      [o] ∧ o.volumes = Proxy.volumes "their-credentials" "their-conf" := ⟨_, rfl, rfl⟩
  refine ⟨hgot, fun h => ?_⟩
  obtain ⟨o, ho, hvolumes⟩ := hgot
  obtain ⟨v, hv, hconf⟩ := (h _ _ _ _ _ o (by rw [ho]; exact List.mem_singleton_self o)).1
  have htheirs : v ∈ o.behind Proxy.confMount := by rw [hv]; exact List.mem_singleton_self v
  rw [Deployment.behind, hvolumes] at htheirs
  simp [Proxy.volumes, Proxy.confMount, Proxy.readOnlyMount, Proxy.confVolume,
    Proxy.credentialsVolume] at htheirs
  simp [htheirs] at hconf

end Mounts

end AuthProxy
