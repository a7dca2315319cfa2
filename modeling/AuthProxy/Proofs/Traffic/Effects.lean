import AuthProxy.Proofs.Dependents
import AuthProxy.Proofs.Deployments
import AuthProxy.Proofs.Traffic.Basic

/-! # What a call of a pass does

All that a call of a pass can do to a cluster (`Effect`), with what the pass had seen before it.
Other passes and changes from outside may come between a read and the write that follows from it;
still every object that a write replaces is the very one that the pass has read.
-/

namespace AuthProxy

/-- What a call of the pass `u` does to the cluster `c`, and how it ends. -/
inductive Effect (u : Underway) (c c' : Cluster) : CallRecord → Prop where
  /-- A read, or a write that failed. -/
  | nothing {call : Call} {r : call.Result} (same : Cluster.SameObjects c c')
    (refused : call.operation.isWrite = true → ∃ e, r = .error e) : Effect u c c' ⟨call, r⟩
  | secretCreated {a : Authenticator} {s stored : Secret}
    (read : u.calls.HasRead .authenticator u.key a) (unset : a.hasReference = false)
    (made : a.makeSecret a.ownSecretName u.fresh = .ok s)
    (absent : c.get? .secret (Kind.secret.key s) = none)
    (created : Cluster.CreatedFrom .secret s stored)
    (written : Cluster.Written c c' .secret stored) : Effect u c c' ⟨.create .secret s, .ok stored⟩
  | configMapCreated {a : Authenticator} {m stored : ConfigMap}
    (read : u.calls.HasRead .authenticator u.key a) (made : a.makeConfigMap u.settings = .ok m)
    (absent : c.get? .configMap (Kind.configMap.key m) = none)
    (created : Cluster.CreatedFrom .configMap m stored)
    (written : Cluster.Written c c' .configMap stored) :
    Effect u c c' ⟨.create .configMap m, .ok stored⟩
  | deploymentCreated {a : Authenticator} {secret map : String} {n : Int32} {d stored : Deployment}
    (read : u.calls.HasRead .authenticator u.key a) (alone : a.spec.mode = .standalone)
    (made : a.makeDeployment secret map n u.settings = .ok d)
    (absent : c.get? .deployment (Kind.deployment.key d) = none)
    (created : Cluster.CreatedFrom .deployment d stored)
    (written : Cluster.Written c c' .deployment stored) :
    Effect u c c' ⟨.create .deployment d, .ok stored⟩
  | referenceSet {a stored : Authenticator} {v : Option String}
    (read : u.calls.HasRead .authenticator u.key a) (unset : a.hasReference = false)
    (there : u.calls.HasCredentials a u.fresh) (before : c.get? .authenticator u.key = some a)
    (stored_eq : stored = Kind.authenticator.withVersion (a.referring a.ownSecretName) v)
    (written : Cluster.Written c c' .authenticator stored) :
    Effect u c c' ⟨.update .authenticator (a.referring a.ownSecretName), .ok stored⟩
  | configMapUpdated {a : Authenticator} {ns : String} {found stored desired : ConfigMap}
    {v : Option String} (read : u.calls.HasRead .authenticator u.key a)
    (ns_eq : a.metadata.ns = some ns) (owned : a.owns found.metadata = true)
    (before : c.get? .configMap ⟨ns, a.ownConfigMapName⟩ = some found)
    (stored_eq : stored = Kind.configMap.withVersion { found with data := desired.data } v)
    (written : Cluster.Written c c' .configMap stored) :
    Effect u c c' ⟨.update .configMap { found with data := desired.data }, .ok stored⟩
  | deploymentUpdated {a : Authenticator} {ns secret map : String} {n : Int32}
    {found stored desired : Deployment} {v : Option String}
    (read : u.calls.HasRead .authenticator u.key a) (alone : a.spec.mode = .standalone)
    (ns_eq : a.metadata.ns = some ns) (owned : a.owns found.metadata = true)
    (made : a.makeDeployment secret map n u.settings = .ok desired)
    (before : c.get? .deployment ⟨ns, a.ownDeploymentName⟩ = some found)
    (stored_eq : stored =
      Kind.deployment.withVersion (Deployment.withDefaults { found with spec := desired.spec }) v)
    (written : Cluster.Written c c' .deployment stored) :
    Effect u c c' ⟨.update .deployment { found with spec := desired.spec }, .ok stored⟩
  | injected {a : Authenticator} {secret map : String} {d o stored : Deployment} {v : Option String}
    (read : u.calls.HasRead .authenticator u.key a) (along : a.spec.mode = .sidecar)
    (lacks : d.carriesProxy = false) (added : a.addProxyTo? secret map u.settings d = some o)
    (before : c.get? .deployment (Kind.deployment.key d) = some d)
    (stored_eq : stored = Kind.deployment.withVersion o.withDefaults v)
    (written : Cluster.Written c c' .deployment stored) :
    Effect u c c' ⟨.update .deployment o, .ok stored⟩
  | reported {a stored : Authenticator} {n : Int32} {v : Option String}
    (read : u.calls.HasRead .authenticator u.key a)
    (before : c.get? .authenticator u.key = some a)
    (stored_eq : stored = Kind.authenticator.withVersion (a.reporting n) v)
    (written : Cluster.Written c c' .authenticator stored) :
    Effect u c c' ⟨.updateStatus .authenticator (a.reporting n), .ok stored⟩

namespace Underway

variable {u : Underway} {c : Cluster}

/-- A read and a failed write do nothing. -/
theorem effect_of_error {call : Call} {c' : Cluster} {r : call.Result} {e : Error}
    (hr : r = .error e) (same : Cluster.SameObjects c c') : Effect u c c' ⟨call, r⟩ :=
  .nothing same fun _ => ⟨e, hr⟩

/-- The law of a pass and what it remembers say what its next call does. One case for each call that
the law allows. -/
theorem Sound.effect_answer (h : u.Sound c) {call : Call}
    (hc : PassCall u.settings u.key u.fresh u.calls call) :
    Effect u c (Cluster.answer call c).2 ⟨call, (Cluster.answer call c).1⟩ := by
  cases hc with
  | get k ns name => exact .nothing ⟨rfl, rfl⟩ (by simp [Call.operation, Operation.isWrite])
  | list k ns selector => exact .nothing ⟨rfl, rfl⟩ (by simp [Call.operation, Operation.isWrite])
  | @createSecret a s read unset made =>
    rw [Cluster.answer_create]
    rcases c.create_cases .secret s with ⟨e, he⟩ | ⟨absent, stored, c', hok, written, created⟩
    · rw [he]; exact effect_of_error rfl ⟨rfl, rfl⟩
    · rw [hok]; exact .secretCreated read unset made absent created written
  | @createConfigMap a m read made =>
    rw [Cluster.answer_create]
    rcases c.create_cases .configMap m with ⟨e, he⟩ | ⟨absent, stored, c', hok, written, created⟩
    · rw [he]; exact effect_of_error rfl ⟨rfl, rfl⟩
    · rw [hok]; exact .configMapCreated read made absent created written
  | @createDeployment a secret map n d read alone made =>
    rw [Cluster.answer_create]
    rcases c.create_cases .deployment d with ⟨e, he⟩ | ⟨absent, stored, c', hok, written, created⟩
    · rw [he]; exact effect_of_error rfl ⟨rfl, rfl⟩
    · rw [hok]; exact .deploymentCreated read alone made absent created written
  | @setReference a read unset there =>
    obtain ⟨hkey, hrem⟩ := h.read read
    rw [Cluster.answer_update]
    rcases hrem.update_cases (o := a.referring a.ownSecretName) rfl with
      ⟨e, c', he, same⟩ | ⟨before, v, c', hok, written⟩
    · rw [he]; exact effect_of_error rfl same
    · rw [hok]; exact .referenceSet read unset there (hkey ▸ before) rfl written
  | @updateConfigMap a ns found desired read ns_eq readMap owned made =>
    obtain ⟨hkey, hrem⟩ := h.read readMap
    rw [Cluster.answer_update]
    rcases hrem.update_cases (k := .configMap) (o := { found with data := desired.data }) rfl with
      ⟨e, c', he, same⟩ | ⟨before, v, c', hok, written⟩
    · rw [he]; exact effect_of_error rfl same
    · rw [hok]; exact .configMapUpdated read ns_eq owned (hkey ▸ before) rfl written
  | @updateDeployment a ns secret map n found desired read alone ns_eq readDeployment owned made =>
    obtain ⟨hkey, hrem⟩ := h.read readDeployment
    rw [Cluster.answer_update]
    rcases hrem.update_cases (k := .deployment) (o := { found with spec := desired.spec }) rfl with
      ⟨e, c', he, same⟩ | ⟨before, v, c', hok, written⟩
    · rw [he]; exact effect_of_error rfl same
    · rw [hok]; exact .deploymentUpdated read alone ns_eq owned made (hkey ▸ before) rfl written
  | @inject a ns secret map workloads o read along ns_eq selective listed changed =>
    obtain ⟨d, hd, lacks, added⟩ := Authenticator.mem_addProxies.1 changed
    obtain ⟨-, hrem⟩ := h.listed listed d hd
    obtain ⟨hmeta, hstatus⟩ := Authenticator.addProxyTo?_eq_some added
    have hversion : Kind.deployment.versionOf o = Kind.deployment.versionOf d := by
      show o.metadata.resourceVersion = d.metadata.resourceVersion
      rw [hmeta]
      rfl
    -- The workload was listed with its status, so an update keeps the status that it has.
    have hsame : Kind.deployment.withStatusOf d o = o := by
      show { o with status := d.status } = o
      rw [← hstatus]
    rw [Cluster.answer_update]
    rcases hrem.update_cases hversion with ⟨e, c', he, same⟩ | ⟨before, v, c', hok, written⟩
    · rw [he]; exact effect_of_error rfl same
    · rw [Authenticator.key_addProxyTo? added] at before
      rw [hsame] at hok written
      rw [hok]; exact .injected read along lacks added before rfl written
  | @report a n read =>
    obtain ⟨hkey, hrem⟩ := h.read read
    rw [Cluster.answer_updateStatus]
    rcases hrem.updateStatus_cases (o := a.reporting n) rfl with
      ⟨e, c', he, same⟩ | ⟨before, v, c', hok, written⟩
    · rw [he]; exact effect_of_error rfl same
    · rw [hok]; exact .reported read (hkey ▸ before) rfl written

/-- A write that fails ends with an error. -/
theorem failure_result_of_isWrite (f : Failure) {call : Call} (h : call.operation.isWrite = true) :
    ∃ e, f.result call = .error e := by
  cases call <;> cases f <;> first | exact ⟨_, rfl⟩ | cases h

theorem Sound.effect (h : u.Sound c) {call : Call}
    (hc : PassCall u.settings u.key u.fresh u.calls call) (failure : Option Failure) :
    Effect u c (deliver failure call c).2 ⟨call, (deliver failure call c).1⟩ := by
  cases failure with
  | some f => exact .nothing ⟨rfl, rfl⟩ (failure_result_of_isWrite f)
  | none => exact h.effect_answer hc

end Underway

/-! ## The objects that a call changes -/

/-- How a call of the pass `u` changes the objects of a cluster: in no way, by one more object,
which belongs to the authenticator that the pass is about, or by replacing one. Only what is no
Secret is replaced, and the owners stay. -/
inductive ObjectChange (u : Underway) (c c' : Cluster) : Prop where
  | same (same : Cluster.SameObjects c c')
  | added {a : Authenticator} {k : Kind} {o : k.Object}
    (read : u.calls.HasRead .authenticator u.key a) (key : k.key o = u.key.dependent k)
    (owned : a.owns (k.metadata o) = true) (absent : c.get? k (k.key o) = none)
    (written : Cluster.Written c c' k o)
  | replaced {k : Kind} {o found : k.Object} (kind : k ≠ .secret)
    (before : c.get? k (k.key o) = some found)
    (owners : (k.metadata o).ownerReferences = (k.metadata found).ownerReferences)
    (written : Cluster.Written c c' k o)

namespace Effect

variable {u : Underway} {c c' : Cluster} {r : CallRecord}

/-- What was made for the authenticator and did not exist is one more object of it. -/
theorem objectChange_of_created {a : Authenticator} {k : Kind} {o stored : k.Object}
    (hu : u.Sound c) (read : u.calls.HasRead .authenticator u.key a)
    (absent : c.get? k (k.key o) = none) (created : Cluster.CreatedFrom k o stored)
    (written : Cluster.Written c c' k stored)
    (dependent : Authenticator.Dependent a (a.nameAny ++ k.dependentSuffix) (k.metadata o)) :
    ObjectChange u c c' := by
  refine .added read ?_ ?_ (created.key ▸ absent) written
  · rw [created.key, dependent.key_eq_dependent, (hu.read read).1]
  · rw [Authenticator.owns_congr rfl created.owners]
    exact dependent.owned

theorem objectChange_of_replaced {k : Kind} {key : ObjectName} {o found : k.Object}
    (hc : c.WellKept) (written : Cluster.Written c c' k o) (kind : k ≠ .secret)
    (before : c.get? k key = some found) (hkey : k.key o = k.key found)
    (owners : (k.metadata o).ownerReferences = (k.metadata found).ownerReferences) :
    ObjectChange u c c' := by
  refine .replaced kind ?_ owners written
  rw [hkey, hc.key_eq before]
  exact before

/-- A new version, a reference, data, a specification, a report or an annotation: none of them has
to do with the owners. -/
theorem objectChange (h : Effect u c c' r) (hu : u.Sound c) (hc : c.WellKept) :
    ObjectChange u c c' := by
  cases h with
  | nothing same _ => exact .same same
  | secretCreated read _ made absent created written =>
    obtain ⟨dependent, -⟩ := Authenticator.makeSecret_eq_ok made
    exact objectChange_of_created hu read absent created written dependent
  | configMapCreated read made absent created written =>
    obtain ⟨dependent, -⟩ := Authenticator.makeConfigMap_eq_ok made
    exact objectChange_of_created hu read absent created written dependent
  | deploymentCreated read _ made absent created written =>
    obtain ⟨dependent, -⟩ := Authenticator.makeDeployment_eq_ok made
    exact objectChange_of_created hu read absent created written dependent
  | referenceSet _ _ _ before stored_eq written =>
    subst stored_eq
    exact objectChange_of_replaced hc written (by decide) before rfl rfl
  | configMapUpdated _ _ _ before stored_eq written =>
    subst stored_eq
    exact objectChange_of_replaced hc written (by decide) before rfl rfl
  | deploymentUpdated _ _ _ _ _ before stored_eq written =>
    subst stored_eq
    exact objectChange_of_replaced hc written (by decide) before rfl rfl
  | @injected a secret map d x stored v _ _ _ added before stored_eq written =>
    subst stored_eq
    have howners : x.metadata.ownerReferences = d.metadata.ownerReferences := by
      rw [(Authenticator.addProxyTo?_eq_some added).1]
      rfl
    have hkey : Kind.deployment.key (Kind.deployment.withVersion x.withDefaults v) =
        Kind.deployment.key d := by
      rw [← Authenticator.key_addProxyTo? added]
      rfl
    exact objectChange_of_replaced hc written (by decide) before hkey howners
  | reported _ before stored_eq written =>
    subst stored_eq
    exact objectChange_of_replaced hc written (by decide) before rfl rfl

end Effect

/-- No call of a pass removes an object. -/
theorem ObjectChange.stays {u : Underway} {c c' : Cluster} {k : Kind} {key : ObjectName}
    (h : ObjectChange u c c') (hs : (c.get? k key).isSome = true) :
    (c'.get? k key).isSome = true := by
  cases h with
  | same same => rwa [same.get?]
  | added _ _ _ _ written => exact written.stays hs
  | replaced _ _ _ written => exact written.stays hs

/-- **What the call of a pass does**, in whatever traffic. -/
theorem Traffic.Sound.effect {t t' : Traffic} (h : t.Sound) {i : Nat} {u : Underway}
    {failure : Option Failure} {call : Call} {r : call.Result}
    (hs : t.Calls i u failure call r t') :
    Effect u t.cluster t'.cluster ⟨call, r⟩ := by
  obtain ⟨next, hn, -⟩ := hs.next
  have hu := h.passes u (List.mem_of_getElem? hs.pass)
  have he := hu.effect (hu.lawful.nextCall hn).1 failure
  rw [hs.delivered] at he
  exact he

/-- How the call of a pass changes the objects, in whatever traffic. -/
theorem Traffic.Sound.objectChange {t t' : Traffic} (h : t.Sound) {i : Nat} {u : Underway}
    {failure : Option Failure} {call : Call} {r : call.Result}
    (hs : t.Calls i u failure call r t') : ObjectChange u t.cluster t'.cluster :=
  (h.effect hs).objectChange (h.passes u (List.mem_of_getElem? hs.pass)) h.wellKept

end AuthProxy
