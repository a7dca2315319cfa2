import AuthProxy.Proofs.Pass.Idempotence
import AuthProxy.Proofs.Pass.Law
import AuthProxy.Proofs.Pass.Reconfiguration
import AuthProxy.Proofs.Selector
import AuthProxy.Proofs.Serviceable

/-! # What an undisturbed pass achieves

A pass over a serviceable authenticator, in a cluster that makes no update fail: it is done, or it
makes one of the things that are missing and runs again because of that (`Achieves`). It never
fails.
-/

namespace AuthProxy

/-- A pass left the cluster `c'` with something that was missing in `c`: a reference, the ConfigMap,
or the Deployment of a standalone proxy. -/
inductive Achieves (key : ObjectName) (a : Authenticator) (c c' : Cluster) : Prop where
  | reference {b : Authenticator} (unset : a.spec.credentialsSecretRef = "")
    (now : c'.get? .authenticator key = some b) (set : b.spec.credentialsSecretRef ≠ "")
  | configMap (absent : (c.get? .configMap (key.dependent .configMap)).isSome = false)
    (there : (c'.get? .configMap (key.dependent .configMap)).isSome = true)
  | deployment (alone : a.spec.mode = .standalone)
    (absent : (c.get? .deployment (key.dependent .deployment)).isSome = false)
    (there : (c'.get? .deployment (key.dependent .deployment)).isSome = true)

/-- A requeue that the pass caused by its own writes. -/
def Requeue.IsSelfCaused (reason : Requeue) : Prop := ∃ k, reason = .created k ∨ reason = .adopted k

namespace Cluster

variable {c : Cluster} {k : Kind} {o found : k.Object}

/-- An update of what was just read takes place. -/
theorem update_of_read (calm : c.pendingConflict = none) (hf : c.get? k (k.key o) = some found)
    (hv : k.versionOf o = k.versionOf found) :
    ∃ stored c' v, c.update k o = (.ok stored, c') ∧ Written c c' k stored ∧
      stored = k.withVersion (k.withDefaults (k.withStatusOf found o)) v :=
  update_of_current hf (by simp [calm]) (isStale_eq_false_iff.2 (.inr hv))

end Cluster

namespace Authenticator

open Program

variable {a : Authenticator} {settings : Settings} {fresh : Credentials} {c : Cluster}
  {key : ObjectName} {ns secret map : String}

/-! ## Credentials -/

theorem ownSecretName_ne (a : Authenticator) : a.ownSecretName ≠ "" := by
  simp [ownSecretName]

/-- A dependent that is missing can be created, and then it is there. -/
theorem Dependent.create_absent {k : Kind} {o : k.Object}
    (h : Dependent a (a.nameAny ++ k.dependentSuffix) (k.metadata o))
    (hkey : Kind.authenticator.key a = key) (habsent : c.get? k (key.dependent k) = none) :
    ∃ stored c', c.create k o = (.ok stored, c') ∧ Cluster.Written c c' k stored ∧
      c'.get? k (key.dependent k) = some stored := by
  have hobject : k.key o = key.dependent k := hkey ▸ h.key_eq_dependent
  rw [← hobject] at habsent ⊢
  obtain ⟨stored, c', hcreate, written, created⟩ := Cluster.create_of_none habsent
  exact ⟨stored, c', hcreate, written, created.key ▸ written.get?_self⟩

/-- A reference can be set to a Secret that is there. -/
theorem setReference_yields {name : String} (reason : Requeue) (calm : c.pendingConflict = none)
    (hget : c.get? .authenticator key = some a) (hkey : Kind.authenticator.key a = key)
    (hns : a.metadata.ns = some ns) {s : Secret} (hsecret : c.get? .secret ⟨ns, name⟩ = some s) :
    ∃ c' b, (a.setReference name reason).Yields Cluster.answer c (.requeue reason) c' ∧
      c'.get? .authenticator key = some b ∧ b.spec.credentialsSecretRef = name := by
  have hself : c.get? .authenticator (Kind.authenticator.key (a.referring name)) = some a := by
    rw [← hget, ← hkey]
    rfl
  obtain ⟨stored, c', v, hupdate, written, hstored⟩ := Cluster.update_of_read calm hself rfl
  have hkey' : Kind.authenticator.key stored = key := by
    rw [hstored, ← hkey]
    rfl
  refine ⟨c', stored, ?_, hkey' ▸ written.get?_self, by rw [hstored]; rfl⟩
  refine (yields_lift _ _).2 ⟨ns, ownNamespace_eq_ok_iff.2 hns, ?_⟩
  refine (yields_attempt _ _).2 (.inl ⟨stored, c', hupdate, (yields_tell _ _).2 (yields_get.2 ?_)⟩)
  rw [written.get?_of_ne_kind (by decide), hsecret]
  exact yields_pure.2 ⟨rfl, rfl⟩

/-- A Secret that is there already gets referred to. -/
theorem credentialsStep_adopts (hc : c.WellKept) (calm : c.pendingConflict = none)
    (hs : Serviceable c key a) (hset : a.hasReference = false) {s : Secret}
    (hsecret : c.get? .secret (key.dependent .secret) = some s) (fresh : Credentials) :
    ∃ c', (a.credentialsStep fresh).Yields Cluster.answer c (.requeue (.adopted .secret)) c' ∧
      Achieves key a c c' := by
  have hunset := hasReference_eq_false_iff.1 hset
  have howned : a.owns s.metadata = true := hs.credentials hunset s hsecret
  obtain ⟨ns, hns⟩ := Option.isSome_iff_exists.1 hs.identified.ns_isSome
  have hkey := hc.key_eq hs.found
  rw [← hkey, dependent_secret hns] at hsecret
  obtain ⟨c', b, hyields, hb, hname⟩ :=
    setReference_yields (.adopted .secret) calm hs.found hkey hns hsecret
  refine ⟨c', ?_, .reference hunset hb (hname ▸ ownSecretName_ne a)⟩
  refine (yields_lift _ _).2 ⟨ns, ownNamespace_eq_ok_iff.2 hns, ?_⟩
  simp only [hset, Bool.false_eq_true, if_false]
  refine yields_get.2 ?_
  simp only [hsecret]
  rw [if_pos howned]
  exact hyields

/-- A Secret that is missing gets created and referred to. -/
theorem credentialsStep_creates (hc : c.WellKept) (calm : c.pendingConflict = none)
    (hs : Serviceable c key a) (hset : a.hasReference = false)
    (hsecret : c.get? .secret (key.dependent .secret) = none) (fresh : Credentials) :
    ∃ c', (a.credentialsStep fresh).Yields Cluster.answer c (.requeue (.created .secret)) c' ∧
      Achieves key a c c' := by
  obtain ⟨ns, hns⟩ := Option.isSome_iff_exists.1 hs.identified.ns_isSome
  have hkey := hc.key_eq hs.found
  obtain ⟨s, hmade⟩ := hs.identified.makeSecret a.ownSecretName fresh
  obtain ⟨stored, c₁, hcreate, written, hstored⟩ :=
    Dependent.create_absent (k := .secret) (makeSecret_eq_ok hmade).1 hkey hsecret
  rw [← hkey, dependent_secret hns] at hsecret hstored
  -- Nothing comes between the creation and the reference.
  have hget : c₁.get? .authenticator key = some a := by
    rw [written.get?_of_ne_kind (by decide), hs.found]
  obtain ⟨c', b, hyields, hb, hname⟩ := setReference_yields (.created .secret)
    (written.conflict.trans calm) hget hkey hns hstored
  refine ⟨c', ?_, .reference (hasReference_eq_false_iff.1 hset) hb (hname ▸ ownSecretName_ne a)⟩
  refine (yields_lift _ _).2 ⟨ns, ownNamespace_eq_ok_iff.2 hns, ?_⟩
  simp only [hset, Bool.false_eq_true, if_false]
  refine yields_get.2 ?_
  simp only [hsecret]
  refine (yields_lift _ _).2 ⟨s, hmade, (yields_attempt _ _).2 (.inl ⟨stored, c₁, hcreate, ?_⟩)⟩
  exact (yields_tell _ _).2 hyields

/-- The credentials step goes on, or it sets the reference and runs again. -/
theorem credentialsStep_achieves (hc : c.WellKept) (calm : c.pendingConflict = none)
    (hs : Serviceable c key a) (fresh : Credentials) :
    (∃ secret, (a.credentialsStep fresh).Yields Cluster.answer c (.proceed secret) c) ∨
      ∃ reason c', reason.IsSelfCaused ∧
        (a.credentialsStep fresh).Yields Cluster.answer c (.requeue reason) c' ∧
          Achieves key a c c' := by
  cases hset : a.hasReference with
  | true =>
    have hne := hasReference_eq_true_iff.1 hset
    obtain ⟨ns, hns⟩ := Option.isSome_iff_exists.1 hs.identified.ns_isSome
    obtain ⟨s, hstored⟩ := hs.reference hne
    rw [← hc.key_eq hs.found, ns_key hns] at hstored
    exact .inl ⟨_, credentialsStep_of_referenced hns hne hstored⟩
  | false =>
    cases hsecret : c.get? .secret (key.dependent .secret) with
    | some s =>
      obtain ⟨c', h⟩ := credentialsStep_adopts hc calm hs hset hsecret fresh
      exact .inr ⟨_, c', ⟨.secret, .inr rfl⟩, h⟩
    | none =>
      obtain ⟨c', h⟩ := credentialsStep_creates hc calm hs hset hsecret fresh
      exact .inr ⟨_, c', ⟨.secret, .inl rfl⟩, h⟩

/-! ## Configuration -/

/-- The configuration step goes on, or it creates the ConfigMap and runs again. -/
theorem configurationStep_achieves (hc : c.WellKept) (calm : c.pendingConflict = none)
    (hs : Serviceable c key a) (settings : Settings) :
    (∃ map c', (a.configurationStep settings).Yields Cluster.answer c (.proceed map) c') ∨
      ∃ reason c', reason.IsSelfCaused ∧
        (a.configurationStep settings).Yields Cluster.answer c (.requeue reason) c' ∧
          Achieves key a c c' := by
  obtain ⟨ns, hns⟩ := Option.isSome_iff_exists.1 hs.identified.ns_isSome
  have hkey := hc.key_eq hs.found
  have hobject : key.dependent .configMap = ⟨ns, a.ownConfigMapName⟩ :=
    hkey ▸ dependent_configMap hns
  obtain ⟨desired, hmade⟩ := hs.identified.makeConfigMap hs.appService settings
  cases hfound : c.get? .configMap ⟨ns, a.ownConfigMapName⟩ with
  | none =>
    obtain ⟨stored, c', hcreate, -, hstored⟩ := Dependent.create_absent (k := .configMap)
      (makeConfigMap_eq_ok hmade).1 hkey (hobject ▸ hfound)
    refine .inr ⟨.created .configMap, c', ⟨.configMap, .inl rfl⟩, ?_, .configMap ?_ ?_⟩
    · refine (yields_lift _ _).2 ⟨ns, ownNamespace_eq_ok_iff.2 hns, ?_⟩
      refine (yields_lift _ _).2 ⟨desired, hmade, yields_get.2 ?_⟩
      simp only [hfound]
      refine (yields_attempt _ _).2 (.inl ⟨stored, c', hcreate, (yields_tell _ _).2 ?_⟩)
      exact yields_pure.2 ⟨rfl, rfl⟩
    · rw [hobject, hfound]
      rfl
    · rw [hstored]
      rfl
  | some found =>
    have howned : a.owns found.metadata = true := hs.configMap found (hobject ▸ hfound)
    rw [owns_eq_true_iff] at howned
    obtain ⟨text, htext⟩ := confText_of_service hs.appService settings
    obtain ⟨c', hstep, -⟩ := configurationStep_of_owned hc hs.identified hns hfound howned htext
      (.inr (by simp [calm]))
    exact .inl ⟨_, c', hstep⟩

/-! ## Standalone -/

theorem chooseReplicas_of_checked (hid : a.Identified) (alone : a.spec.mode = .standalone)
    (hselector : a.consultsSelector = true → ∃ s, a.spec.selector.checked = .ok s) :
    ∃ n, a.chooseReplicas.Yields Cluster.answer c n c := by
  obtain ⟨ns, hns⟩ := Option.isSome_iff_exists.1 hid.ns_isSome
  have hconsults : a.consultsSelector = a.followsWorkloads := by rw [consultsSelector, alone]; rfl
  cases hfollows : a.followsWorkloads with
  | false => exact ⟨_, chooseReplicas_yields.2 ⟨rfl, by rw [hfollows]; exact rfl⟩⟩
  | true =>
    obtain ⟨s, hs⟩ := hselector (hconsults.trans hfollows)
    obtain ⟨workloads, hlist⟩ := c.list_of_checked .deployment ns hs
    refine ⟨a.replicasFor (a.followedReplicas workloads), chooseReplicas_yields.2 ⟨rfl, ?_⟩⟩
    rw [hfollows]
    exact ⟨ns, workloads, hns, hlist, rfl⟩

/-- The standalone step goes on, or it creates the Deployment and runs again. -/
theorem standaloneStep_achieves (hc : c.WellKept) (calm : c.pendingConflict = none)
    (hid : a.Identified) (alone : a.spec.mode = .standalone)
    (hkey : Kind.authenticator.key a = key)
    (hfree : c.FreeFor a .deployment (key.dependent .deployment))
    (hselector : a.consultsSelector = true → ∃ s, a.spec.selector.checked = .ok s)
    (secret map : String) (settings : Settings) :
    (∃ ready c', (a.standaloneStep secret map settings).Yields Cluster.answer c
        (.proceed ready) c') ∨
      ∃ c', (a.standaloneStep secret map settings).Yields Cluster.answer c
          (.requeue (.created .deployment)) c' ∧
        (c.get? .deployment (key.dependent .deployment)).isSome = false ∧
          (c'.get? .deployment (key.dependent .deployment)).isSome = true := by
  obtain ⟨ns, hns⟩ := Option.isSome_iff_exists.1 hid.ns_isSome
  have hobject : key.dependent .deployment = ⟨ns, a.ownDeploymentName⟩ :=
    hkey ▸ dependent_deployment hns
  obtain ⟨n, hn⟩ := chooseReplicas_of_checked (c := c) hid alone hselector
  obtain ⟨desired, hmade⟩ := hid.makeDeployment secret map n settings
  cases hfound : c.get? .deployment ⟨ns, a.ownDeploymentName⟩ with
  | none =>
    obtain ⟨stored, c', hcreate, -, hstored⟩ := Dependent.create_absent (k := .deployment)
      (makeDeployment_eq_ok hmade).1 hkey (hobject ▸ hfound)
    refine .inr ⟨c', ?_, by rw [hobject, hfound]; rfl, ?_⟩
    · refine (yields_lift _ _).2 ⟨ns, ownNamespace_eq_ok_iff.2 hns, ?_⟩
      refine (yields_bind _ _).2 ⟨n, c, hn, (yields_lift _ _).2 ⟨desired, hmade, yields_get.2 ?_⟩⟩
      simp only [hfound]
      refine (yields_attempt _ _).2 (.inl ⟨stored, c', hcreate, (yields_tell _ _).2 ?_⟩)
      exact yields_pure.2 ⟨rfl, rfl⟩
    · rw [hstored]
      rfl
  | some found =>
    have howned : a.owns found.metadata = true := hfree found (hobject ▸ hfound)
    rw [owns_eq_true_iff] at howned
    obtain ⟨c', h⟩ := standaloneStep_of_owned hc hns hfound howned hn hmade (.inr (by simp [calm]))
    exact .inl ⟨_, c', h⟩

/-! ## Sidecar -/

/-- All workloads are written if each was just read. By induction on them: the others keep their
versions, because they have other names. -/
theorem writeWorkloads_yields (ns : String) (lost : Bool) {changed : List Deployment}
    (calm : c.pendingConflict = none)
    (hread : ∀ d ∈ changed, ∃ x, c.get? .deployment (Kind.deployment.key d) = some x ∧
      Kind.deployment.versionOf d = Kind.deployment.versionOf x)
    (hdistinct : changed.Pairwise fun d x => Kind.deployment.key d ≠ Kind.deployment.key x) :
    ∃ c', (writeWorkloads ns lost changed).Yields Cluster.answer c lost c' := by
  induction changed generalizing c with
  | nil => exact ⟨c, yields_pure.2 ⟨rfl, rfl⟩⟩
  | cons d rest ih =>
    obtain ⟨hne, hrest⟩ := List.pairwise_cons.1 hdistinct
    obtain ⟨x, hx, hversion⟩ := hread d List.mem_cons_self
    obtain ⟨stored, s, v, hupdate, written, hstored⟩ := Cluster.update_of_read calm hx hversion
    have hkey : Kind.deployment.key stored = Kind.deployment.key d := by
      rw [hstored]
      rfl
    have hlater : ∀ y ∈ rest, ∃ x, s.get? .deployment (Kind.deployment.key y) = some x ∧
        Kind.deployment.versionOf y = Kind.deployment.versionOf x := by
      intro y hy
      rw [written.get?_of_ne_key (hkey ▸ (hne y hy).symm)]
      exact hread y (List.mem_cons_of_mem d hy)
    obtain ⟨c', h⟩ := ih (written.conflict.trans calm) hlater hrest
    exact ⟨c', (yields_attempt _ _).2 (.inl ⟨stored, s, hupdate, (yields_tell _ _).2 h⟩)⟩

/-- The workload step goes on if the selector is valid. -/
theorem workloadsStep_of_checked (hc : c.WellKept) (calm : c.pendingConflict = none)
    (hns : a.metadata.ns = some ns) (hvalid : ∃ s, a.spec.selector.checked = .ok s)
    (secret map : String) (settings : Settings) :
    ∃ ready c', (a.workloadsStep secret map settings).Yields Cluster.answer c
      (.proceed ready) c' := by
  unfold workloadsStep
  cases a.spec.selector.isEmpty with
  | true => exact ⟨0, c, (yields_tell _ _).2 (yields_pure.2 ⟨rfl, rfl⟩)⟩
  | false =>
    obtain ⟨s, hs⟩ := hvalid
    obtain ⟨workloads, hlist⟩ := c.list_of_checked .deployment ns hs
    have hread : ∀ d ∈ a.addProxies secret map settings workloads, ∃ x,
        c.get? .deployment (Kind.deployment.key d) = some x ∧
          Kind.deployment.versionOf d = Kind.deployment.versionOf x := by
      intro o ho
      obtain ⟨d, hd, -, hadded⟩ := mem_addProxies.1 ho
      refine ⟨d, ?_, ?_⟩
      · rw [key_addProxyTo? hadded]
        exact (hc.get?_of_list hlist hd).1
      · show o.metadata.resourceVersion = d.metadata.resourceVersion
        rw [(addProxyTo?_eq_some hadded).1]
        rfl
    obtain ⟨c', hwrite⟩ := writeWorkloads_yields ns false calm hread
      (addProxies_distinct (hc.list_distinct hlist))
    refine ⟨a.proxiedReady workloads (a.addProxies secret map settings workloads), c', ?_⟩
    simp only [Bool.false_eq_true, if_false]
    refine (yields_lift _ _).2 ⟨ns, ownNamespace_eq_ok_iff.2 hns, yields_list.2 ⟨_, hlist, ?_⟩⟩
    refine (yields_tellAll _ _).2 ((yields_bind _ _).2 ⟨false, c', hwrite, ?_⟩)
    exact yields_pure.2 ⟨rfl, rfl⟩

/-- An empty selector is valid, so it is enough that one that is consulted is. -/
theorem workloadsStep_yields (hc : c.WellKept) (calm : c.pendingConflict = none)
    (hid : a.Identified) (along : a.spec.mode = .sidecar)
    (hselector : a.consultsSelector = true → ∃ s, a.spec.selector.checked = .ok s)
    (secret map : String) (settings : Settings) :
    ∃ ready c', (a.workloadsStep secret map settings).Yields Cluster.answer c
      (.proceed ready) c' := by
  obtain ⟨ns, hns⟩ := Option.isSome_iff_exists.1 hid.ns_isSome
  refine workloadsStep_of_checked hc calm hns ?_ secret map settings
  cases hempty : a.spec.selector.isEmpty with
  | true => exact ⟨_, LabelSelector.isEmpty_iff_checked.1 hempty⟩
  | false => exact hselector (by rw [consultsSelector, along, hempty]; rfl)

/-! ## Report -/

theorem reportStep_yields (n : Int32) (calm : c.pendingConflict = none)
    (hget : c.get? .authenticator (Kind.authenticator.key a) = some a) :
    ∃ c', (a.reportStep n).Yields Cluster.answer c (.proceed ()) c' := by
  unfold reportStep
  split
  · exact ⟨c, yields_pure.2 ⟨rfl, rfl⟩⟩
  · obtain ⟨stored, c', v, hupdate, -, -⟩ := Cluster.updateStatus_of_current
      (k := .authenticator) (o := a.reporting n) hget (by simp [calm]) rfl
    refine ⟨c', (yields_attempt _ _).2 (.inl ⟨stored, c', hupdate, (yields_tell _ _).2 ?_⟩)⟩
    exact yields_pure.2 ⟨rfl, rfl⟩

/-! ## The whole pass -/

/-- The proxy step goes on, or it creates the Deployment of a standalone proxy and runs again. -/
theorem proxyStep_achieves (hc : c.WellKept) (calm : c.pendingConflict = none)
    (hid : a.Identified) (hkey : Kind.authenticator.key a = key)
    (hfree : a.spec.mode = .standalone → c.FreeFor a .deployment (key.dependent .deployment))
    (hselector : a.consultsSelector = true → ∃ s, a.spec.selector.checked = .ok s)
    (secret map : String) (settings : Settings) :
    (∃ ready c', (a.proxyStep secret map settings).Yields Cluster.answer c (.proceed ready) c') ∨
      a.spec.mode = .standalone ∧ ∃ c', (a.proxyStep secret map settings).Yields Cluster.answer c
          (.requeue (.created .deployment)) c' ∧
        (c.get? .deployment (key.dependent .deployment)).isSome = false ∧
          (c'.get? .deployment (key.dependent .deployment)).isSome = true := by
  cases hmode : a.spec.mode with
  | standalone =>
    rw [proxyStep_of_standalone hmode]
    exact (standaloneStep_achieves hc calm hid hmode hkey (hfree hmode) hselector ..).imp_right
      fun h => ⟨rfl, h⟩
  | sidecar =>
    rw [proxyStep_of_sidecar hmode]
    exact .inl (workloadsStep_yields hc calm hid hmode hselector ..)

/-- The steps of a pass are done, or achieve something and run again. -/
theorem converge_achieves (hc : c.WellKept) (calm : c.pendingConflict = none)
    (hs : Serviceable c key a) (settings : Settings) (fresh : Credentials) :
    (∃ ready c', (a.converge settings fresh).Yields Cluster.answer c (.done ready) c') ∨
      ∃ reason c', reason.IsSelfCaused ∧
        (a.converge settings fresh).Yields Cluster.answer c (.requeue reason) c' ∧
          Achieves key a c c' := by
  rcases credentialsStep_achieves hc calm hs fresh with
    ⟨secret, h₁⟩ | ⟨reason, c', hreason, h₁, hachieves⟩
  case inr =>
    exact .inr ⟨reason, c', hreason, yields_thenStep.2 (.inr ⟨reason, h₁, rfl⟩), hachieves⟩
  rcases configurationStep_achieves hc calm hs settings with
    ⟨map, c₂, h₂⟩ | ⟨reason, c', hreason, h₂, hachieves⟩
  case inr =>
    refine .inr ⟨reason, c', hreason, yields_thenStep.2 (.inl ⟨secret, c, h₁, ?_⟩), hachieves⟩
    exact yields_thenStep.2 (.inr ⟨reason, h₂, rfl⟩)
  -- The steps so far have changed neither the authenticator nor a Deployment.
  have hc₂ := hc.yields h₂
  have calm₂ : c₂.pendingConflict = none := h₂.2 ▸ Cluster.run_pendingConflict calm _
  have only₂ := (configurationStep_settles hc h₂).1
  have deployments₂ : c₂.tables.table .deployment = c.tables.table .deployment :=
    only₂ _ (by decide)
  have hget₂ : c₂.get? .authenticator key = some a :=
    (Cluster.get?_congr (only₂ _ (by decide)) _).trans hs.found
  have hkey := hc.key_eq hs.found
  have hfree : a.spec.mode = .standalone →
      c₂.FreeFor a .deployment (key.dependent .deployment) := fun alone o ho =>
    hs.deployment alone o ((Cluster.get?_congr deployments₂ _).symm.trans ho)
  rcases proxyStep_achieves hc₂ calm₂ hs.identified hkey hfree hs.selector secret map
      settings with ⟨ready, c₃, h₃⟩ | ⟨alone, c', h₃, habsent, hthere⟩
  case inr =>
    refine .inr ⟨.created .deployment, c', ⟨_, .inl rfl⟩, ?_, .deployment alone ?_ hthere⟩
    · refine yields_thenStep.2 (.inl ⟨secret, c, h₁, yields_thenStep.2 (.inl ⟨map, c₂, h₂, ?_⟩)⟩)
      exact yields_thenStep.2 (.inr ⟨_, h₃, rfl⟩)
    · rw [← Cluster.get?_congr deployments₂, habsent]
  have calm₃ : c₃.pendingConflict = none := h₃.2 ▸ Cluster.run_pendingConflict calm₂ _
  have only₃ := (proxyStep_settles hc₂ h₃).1
  have hget₃ : c₃.get? .authenticator (Kind.authenticator.key a) = some a := by
    rw [Cluster.get?_congr (only₃ _ (by decide)), hkey, hget₂]
  obtain ⟨c', h₄⟩ := reportStep_yields ready calm₃ hget₃
  exact .inl ⟨ready, c', converge_yields_done.2 ⟨secret, map, c, c₂, c₃, h₁, h₂, h₃, h₄⟩⟩

/-- **An undisturbed pass is done, or achieves something** and runs again because of that. -/
theorem pass_achieves (hc : c.WellKept) (calm : c.pendingConflict = none)
    (hs : Serviceable c key a) (settings : Settings) (fresh : Credentials) :
    (∃ ready c', (pass settings key.ns key.name fresh).Yields Cluster.answer c (.done ready) c') ∨
      ∃ reason c', reason.IsSelfCaused ∧
        (pass settings key.ns key.name fresh).Yields Cluster.answer c (.requeue reason) c' ∧
          Achieves key a c c' := by
  have hpass : ∀ o c', (a.converge settings fresh).Yields Cluster.answer c o c' →
      (pass settings key.ns key.name fresh).Yields Cluster.answer c o c' := by
    intro o c' h
    refine yields_get.2 ?_
    rw [show c.get? .authenticator ⟨key.ns, key.name⟩ = some a from hs.found]
    exact h
  rcases converge_achieves hc calm hs settings fresh with
    ⟨ready, c', h⟩ | ⟨reason, c', hreason, h, hachieves⟩
  · exact .inl ⟨ready, c', hpass _ _ h⟩
  · exact .inr ⟨reason, c', hreason, hpass _ _ h, hachieves⟩

end Authenticator

end AuthProxy
