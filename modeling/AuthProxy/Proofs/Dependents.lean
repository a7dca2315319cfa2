import AuthProxy.Credentials
import AuthProxy.Proxy.Dependents

/-! # Dependents and their owner

Every object that is made for an authenticator lies in its namespace, under the name that was asked
for, and names it as an owner. It can be made as soon as the authenticator has a name, a namespace
and a uid.
-/

namespace AuthProxy

/-- What the names of the dependents of a kind end with. -/
def Kind.dependentSuffix : Kind → String
  | authenticator => ""
  | configMap => "-nginx-conf"
  | deployment => "-nginx"
  | secret => "-credentials"

/-- Where the dependent of a kind lies that is made for the authenticator at `key`. -/
def ObjectName.dependent (key : ObjectName) (k : Kind) : ObjectName :=
  ⟨key.ns, key.name ++ k.dependentSuffix⟩

theorem ObjectName.dependent_authenticator (key : ObjectName) :
    key.dependent .authenticator = key := by
  simp [dependent, Kind.dependentSuffix]

/-- No two authenticators have a dependent in common. -/
theorem ObjectName.dependent_inj {key key' : ObjectName} {k : Kind}
    (h : key.dependent k = key'.dependent k) : key = key' := by
  obtain ⟨hns, hname⟩ := ObjectName.mk.inj h
  cases key
  cases key'
  exact congr (congrArg ObjectName.mk hns) (String.append_left_inj _ |>.1 hname)

/-- An owner is known by its uid, which has to be there. -/
theorem ObjectMeta.belongsTo_eq_true_iff {m owner : ObjectMeta} :
    m.belongsTo owner = true ↔
      ∃ uid, owner.uid = some uid ∧ ∃ r ∈ m.owners, r.uid = uid := by
  unfold belongsTo
  cases owner.uid with
  | none => simp
  | some uid => simp only [List.any_eq_true, decide_eq_true_eq, Option.some.injEq, exists_eq_left']

/-- The data are a single file, and that is the configuration. -/
def ConfigMap.Holds (m : ConfigMap) (text : String) : Prop :=
  m.data.map (·.entries) = some [("nginx.conf", text)]

/-- A ConfigMap that holds a configuration holds no other. -/
theorem ConfigMap.Holds.iff_eq {m : ConfigMap} {text text' : String} (h : m.Holds text) :
    m.Holds text' ↔ text = text' := by
  unfold Holds at h ⊢
  simp [h]

theorem ConfigMap.holds_iff {m : ConfigMap} {text : String} :
    m.Holds text ↔ m.data = some (Authenticator.confData text) := by
  constructor
  · intro h
    obtain ⟨data, hdata, hentries⟩ := Option.map_eq_some_iff.1 h
    rw [hdata, Option.some.injEq]
    exact SortedMap.ext hentries
  · intro h
    rw [Holds, h]
    rfl

instance (m : ConfigMap) (text : String) : Decidable (m.Holds text) :=
  inferInstanceAs (Decidable (_ = _))

namespace Authenticator

variable {a : Authenticator} {name : String} {m : ObjectMeta}

/-- The metadata refer to the authenticator as an owner. -/
def Owns (a : Authenticator) (m : ObjectMeta) : Prop :=
  ∃ uid, a.metadata.uid = some uid ∧ ∃ r ∈ m.ownerReferences.getD [], r.uid = uid

theorem owns_eq_true_iff : a.owns m = true ↔ a.Owns m := ObjectMeta.belongsTo_eq_true_iff

instance : Decidable (a.Owns m) := decidable_of_iff _ owns_eq_true_iff

/-- Ownership is read off the uid of the one and the owners of the other, and nothing else. -/
theorem owns_congr {b : Authenticator} {x : ObjectMeta} (huid : b.metadata.uid = a.metadata.uid)
    (howners : x.ownerReferences = m.ownerReferences) : b.owns x = a.owns m := by
  simp only [owns, ObjectMeta.belongsTo, ObjectMeta.owners, huid, howners]

section Names

variable {ns : String}

theorem ownNamespace_eq_ok_iff : a.ownNamespace = .ok ns ↔ a.metadata.ns = some ns := by
  unfold ownNamespace
  cases a.metadata.ns <;> simp

theorem ns_key (h : a.metadata.ns = some ns) : (Kind.authenticator.key a).ns = ns :=
  congrArg (·.getD "") h

theorem dependent_secret (h : a.metadata.ns = some ns) :
    (Kind.authenticator.key a).dependent .secret = ⟨ns, a.ownSecretName⟩ :=
  congrArg (ObjectName.mk · a.ownSecretName) (ns_key h)

theorem dependent_configMap (h : a.metadata.ns = some ns) :
    (Kind.authenticator.key a).dependent .configMap = ⟨ns, a.ownConfigMapName⟩ :=
  congrArg (ObjectName.mk · a.ownConfigMapName) (ns_key h)

theorem ownConfigMapName_eq {key : ObjectName} (h : Kind.authenticator.key a = key) :
    a.ownConfigMapName = (key.dependent .configMap).name := by
  rw [← h]
  rfl

theorem dependent_deployment (h : a.metadata.ns = some ns) :
    (Kind.authenticator.key a).dependent .deployment = ⟨ns, a.ownDeploymentName⟩ :=
  congrArg (ObjectName.mk · a.ownDeploymentName) (ns_key h)

end Names

/-- What an authenticator needs in order to have dependents. -/
structure Identified (a : Authenticator) : Prop where
  name_isSome : a.metadata.name.isSome = true
  ns_isSome : a.metadata.ns.isSome = true
  uid_isSome : a.metadata.uid.isSome = true

/-- The metadata of an object made for the authenticator. -/
structure Dependent (a : Authenticator) (name : String) (m : ObjectMeta) : Prop where
  identified : a.Identified
  name_eq : m.name = some name
  ns_eq : m.ns = a.metadata.ns
  owned : a.owns m = true

/-- A dependent lies under its name, in the namespace of the authenticator. -/
theorem Dependent.key_eq {k : Kind} {o : k.Object} (h : Dependent a name (k.metadata o)) :
    k.key o = ⟨(Kind.authenticator.key a).ns, name⟩ := by
  have hns : (k.metadata o).namespaceAny = a.metadata.namespaceAny := by
    simp only [ObjectMeta.namespaceAny, h.ns_eq]
  have hname : (k.metadata o).nameAny = name := by
    simp only [ObjectMeta.nameAny, h.name_eq]
    rfl
  simp only [Kind.key, Kind.nameAny, hns, hname]
  rfl

/-- Under the name of the dependent of a kind it lies where that dependent lies. -/
theorem Dependent.key_eq_dependent {k : Kind} {o : k.Object}
    (h : Dependent a (a.nameAny ++ k.dependentSuffix) (k.metadata o)) :
    k.key o = (Kind.authenticator.key a).dependent k := h.key_eq

/-- The metadata name the authenticator as the only owner, and as one that controls the object. -/
def OwnsAlone (a : Authenticator) (m : ObjectMeta) : Prop :=
  ∃ r, m.ownerReferences = some [r] ∧ a.metadata.name = some r.name ∧
    a.metadata.uid = some r.uid ∧ r.controller = some true

theorem OwnsAlone.owns (h : a.OwnsAlone m) : a.owns m = true := by
  obtain ⟨r, hm, -, huid, -⟩ := h
  refine owns_eq_true_iff.2 ⟨r.uid, huid, r, ?_, rfl⟩
  simp [hm]

/-- What is made for an authenticator has it as the only owner. -/
theorem ownsAlone_dependentMeta (h : a.dependentMeta name = .ok m) :
    a.Identified ∧ m.name = some name ∧ m.ns = a.metadata.ns ∧ a.OwnsAlone m := by
  unfold dependentMeta ownNamespace at h
  cases hns : a.metadata.ns with
  | none => rw [hns] at h; cases h
  | some ns =>
    rw [hns] at h
    simp only [ObjectMeta.declareOwner, Kind.ownerReference?, bind, Except.bind, Option.bind] at h
    cases hname : a.metadata.name with
    | none => rw [hname] at h; cases h
    | some n =>
      cases huid : a.metadata.uid with
      | none => rw [hname, huid] at h; cases h
      | some uid =>
        rw [hname, huid] at h
        obtain rfl := Except.ok.inj h
        have hid : a.Identified := ⟨by rw [hname]; rfl, by rw [hns]; rfl, by rw [huid]; rfl⟩
        exact ⟨hid, rfl, rfl, _, rfl, hname, huid, rfl⟩

theorem dependentMeta_eq_ok (h : a.dependentMeta name = .ok m) : Dependent a name m := by
  obtain ⟨hid, hname, hns, howner⟩ := ownsAlone_dependentMeta h
  exact ⟨hid, hname, hns, howner.owns⟩

theorem Identified.dependentMeta (h : a.Identified) (name : String) :
    ∃ m, a.dependentMeta name = .ok m := by
  obtain ⟨n, hn⟩ := Option.isSome_iff_exists.1 h.name_isSome
  obtain ⟨ns, hns⟩ := Option.isSome_iff_exists.1 h.ns_isSome
  obtain ⟨uid, huid⟩ := Option.isSome_iff_exists.1 h.uid_isSome
  simp only [Authenticator.dependentMeta, ownNamespace, hns, ObjectMeta.declareOwner,
    Kind.ownerReference?, hn, huid]
  exact ⟨_, rfl⟩

theorem Identified.makeSecret (h : a.Identified) (name : String) (fresh : Credentials) :
    ∃ s, a.makeSecret name fresh = .ok s := by
  obtain ⟨m, hm⟩ := h.dependentMeta name
  exact ⟨_, by rw [Authenticator.makeSecret, hm]; rfl⟩

theorem Identified.makeConfigMap_of_text (h : a.Identified) {settings : Settings} {text : String}
    (htext : a.confText settings = .ok text) :
    ∃ o, a.makeConfigMap settings = .ok o ∧ o.data = some (confData text) := by
  obtain ⟨m, hm⟩ := h.dependentMeta a.ownConfigMapName
  exact ⟨_, by rw [Authenticator.makeConfigMap, hm, htext]; rfl, rfl⟩

/-- A configuration needs a Service only in standalone mode. -/
theorem confText_of_service (hservice : a.spec.mode = .standalone → a.spec.appService ≠ "")
    (settings : Settings) : ∃ text, a.confText settings = .ok text := by
  have hhost : ∃ host, a.backendHost = .ok host := by
    unfold backendHost
    cases hmode : a.spec.mode with
    | sidecar => exact ⟨_, rfl⟩
    | standalone =>
      have hne : a.spec.appService.isEmpty = false := by simpa using hservice hmode
      simp only [hne, Bool.false_eq_true, if_false]
      exact ⟨_, rfl⟩
  obtain ⟨host, hhost⟩ := hhost
  exact ⟨_, by rw [confText, proxyConf, hhost]; rfl⟩

theorem Identified.makeConfigMap (h : a.Identified)
    (hservice : a.spec.mode = .standalone → a.spec.appService ≠ "") (settings : Settings) :
    ∃ o, a.makeConfigMap settings = .ok o := by
  obtain ⟨text, htext⟩ := confText_of_service hservice settings
  obtain ⟨o, ho, -⟩ := h.makeConfigMap_of_text htext
  exact ⟨o, ho⟩

theorem Identified.makeDeployment (h : a.Identified) (secret map : String) (n : Int32)
    (settings : Settings) : ∃ d, a.makeDeployment secret map n settings = .ok d := by
  obtain ⟨m, hm⟩ := h.dependentMeta a.ownDeploymentName
  exact ⟨_, by rw [Authenticator.makeDeployment, hm]; rfl⟩

theorem makeSecret_meta {fresh : Credentials} {s : Secret} (h : a.makeSecret name fresh = .ok s) :
    a.dependentMeta name = .ok s.metadata ∧ s.data = some fresh.data := by
  unfold makeSecret at h
  cases hm : a.dependentMeta name with
  | error e => rw [hm] at h; cases h
  | ok m =>
    rw [hm] at h
    obtain rfl := Except.ok.inj h
    exact ⟨rfl, rfl⟩

theorem makeSecret_eq_ok {fresh : Credentials} {s : Secret}
    (h : a.makeSecret name fresh = .ok s) :
    Dependent a name s.metadata ∧ s.data = some fresh.data :=
  (makeSecret_meta h).imp_left dependentMeta_eq_ok

theorem makeConfigMap_meta {settings : Settings} {o : ConfigMap}
    (h : a.makeConfigMap settings = .ok o) :
    a.dependentMeta a.ownConfigMapName = .ok o.metadata ∧
      ∃ text, a.confText settings = .ok text ∧ o.data = some (confData text) := by
  unfold makeConfigMap at h
  cases hm : a.dependentMeta a.ownConfigMapName with
  | error e => rw [hm] at h; cases h
  | ok m =>
    rw [hm] at h
    cases ht : a.confText settings with
    | error e => rw [ht] at h; cases h
    | ok text =>
      rw [ht] at h
      obtain rfl := Except.ok.inj h
      exact ⟨rfl, text, rfl, rfl⟩

theorem makeConfigMap_eq_ok {settings : Settings} {o : ConfigMap}
    (h : a.makeConfigMap settings = .ok o) :
    Dependent a a.ownConfigMapName o.metadata ∧
      ∃ text, a.confText settings = .ok text ∧ o.data = some (confData text) :=
  (makeConfigMap_meta h).imp_left dependentMeta_eq_ok

theorem makeDeployment_meta {secret map : String} {n : Int32} {settings : Settings}
    {d : Deployment} (h : a.makeDeployment secret map n settings = .ok d) :
    a.dependentMeta a.ownDeploymentName = .ok d.metadata ∧
      d.spec = some (a.deploymentSpec secret map n settings) := by
  unfold makeDeployment at h
  cases hm : a.dependentMeta a.ownDeploymentName with
  | error e => rw [hm] at h; cases h
  | ok m =>
    rw [hm] at h
    obtain rfl := Except.ok.inj h
    exact ⟨rfl, rfl⟩

theorem makeDeployment_eq_ok {secret map : String} {n : Int32} {settings : Settings}
    {d : Deployment} (h : a.makeDeployment secret map n settings = .ok d) :
    Dependent a a.ownDeploymentName d.metadata ∧
      d.spec = some (a.deploymentSpec secret map n settings) :=
  (makeDeployment_meta h).imp_left dependentMeta_eq_ok

end Authenticator

end AuthProxy
