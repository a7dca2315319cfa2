import AuthProxy.Proofs.Injection
import AuthProxy.Proofs.Pass.Proxies

/-! # What is in place when a pass reports

What a proxy needs (`InPlace`), and what every step of a pass contributes to it: a step that goes on
has put its own part in place and left the parts of the others alone. So all of it is in place when
a pass comes to report, whatever it found and whichever of its calls failed (`pass_ensures`).
-/

namespace AuthProxy

/-- If the selector of the authenticator at `key` asks for anything, it is valid, and every workload
whose labels match, and that specifies anything, has a container with the name of the proxy. -/
def Cluster.ProxiesWorkloads (c : Cluster) (key : ObjectName) (a : Authenticator) : Prop :=
  a.spec.selector.Selective → (∀ r ∈ a.spec.selector.requirements, r.WellFormed) ∧
    ∀ name d, c.get? .deployment ⟨key.ns, name⟩ = some d →
      a.spec.selector.Matches (d.metadata.labels.getD .empty) → d.spec.isSome = true →
        ∃ x ∈ d.containers, x.name = "basic-auth-proxy"

/-- All that the proxy of the authenticator `a` at `key` needs is in place in the cluster. -/
structure InPlace (settings : Settings) (key : ObjectName) (a : Authenticator) (ready : Int32)
    (c : Cluster) : Prop where
  identified : a.Identified
  reference : a.spec.credentialsSecretRef ≠ ""
  secret : ∃ s, c.get? .secret ⟨key.ns, a.spec.credentialsSecretRef⟩ = some s
  configMap : c.Configures settings key a
  deployment : a.spec.mode = .standalone →
    c.RunsProxy settings key a a.spec.credentialsSecretRef (key.dependent .configMap).name ready
  workloads : a.spec.mode = .sidecar → c.ProxiesWorkloads key a

/-- Only the authenticator at `key` and its dependents may differ. -/
def Cluster.OnlyOwn (key : ObjectName) (c c' : Cluster) : Prop :=
  ∀ k key', key' ≠ key.dependent k → c'.get? k key' = c.get? k key'

theorem Cluster.OnlyAt.onlyOwn {c c' : Cluster} {k : Kind} {key : ObjectName}
    (h : OnlyAt k (key.dependent k) c c') : OnlyOwn key c c' := by
  intro j key' hne
  by_cases hj : j = k
  · subst hj
    exact h.names key' hne
  · exact Cluster.get?_congr (h.kinds j hj) key'

/-- What a pass over a standalone authenticator may have changed when it is done: objects of its
own, and no labels. -/
structure OwnChanges (key : ObjectName) (c c' : Cluster) : Prop where
  secrets : c'.tables.table .secret = c.tables.table .secret
  others : Cluster.OnlyOwn key c c'
  labels : (c'.get? .deployment (key.dependent .deployment)).map (·.metadata.labels) =
    (c.get? .deployment (key.dependent .deployment)).map (·.metadata.labels)

/-- What a pass over `key` has made of the authenticator `a` and of the cluster `c` when it is done
with `ready` replicas: `b` reports them, and all that it needs is in place. -/
structure Accomplished (settings : Settings) (key : ObjectName) (ready : Int32)
    (c c' : Cluster) (a b : Authenticator) : Prop where
  before : c.get? .authenticator key = some a
  after : c'.get? .authenticator key = some b
  demand : a.SameDemand b
  status : b.status = some ⟨ready⟩
  inPlace : InPlace settings key b ready c'
  changes : a.spec.mode = .standalone → OwnChanges key c c'

/-- A report is only written for the authenticator that is stored, and only once all that it needs
is in place. -/
def Reports (settings : Settings) (key : ObjectName) (q : Call) (c : Cluster) : Prop :=
  q.operation = .updateStatus → ∃ a ready,
    q = .updateStatus .authenticator { a with status := some { readyReplicas := ready } } ∧
      c.get? .authenticator key = some a ∧ InPlace settings key a ready c

namespace Authenticator

open Program

variable {a b : Authenticator} {settings : Settings} {fresh : Credentials} {c c' : Cluster}
  {key : ObjectName} {secret map : String} {ready : Int32}

/-- Who asks for the same has the same proxy. -/
theorem SameDemand.runsProxy (hdemand : SameDemand a b)
    (h : c.RunsProxy settings key a secret map ready) :
    c.RunsProxy settings key b secret map ready := by
  obtain ⟨v, s, rfl⟩ := hdemand
  obtain ⟨d, n, hd, howned, hn, -, hproxy, hready⟩ := h
  exact ⟨d, n, hd, howned, hn, wantsReplicas_of_yields hn, ⟨hproxy.replicas, hproxy.selectorLabels,
    hproxy.templateLabels, hproxy.containers, hproxy.volumes⟩, hready⟩

/-- A report changes nothing that is in place. -/
theorem inPlace_congr (h : InPlace settings key a ready c) (hdemand : SameDemand a b)
    (only : Cluster.OnlyChanges .authenticator c c') : InPlace settings key b ready c' := by
  have hruns := fun alone => hdemand.runsProxy (h.deployment alone)
  obtain ⟨v, s, rfl⟩ := hdemand
  have hget : ∀ {k}, k ≠ .authenticator → ∀ key', c'.get? k key' = c.get? k key' :=
    fun hk key' => Cluster.get?_congr (only _ hk) key'
  refine ⟨?_, h.reference, ?_, ?_, fun alone => ?_, fun along hselective => ?_⟩
  · exact ⟨h.identified.name_isSome, h.identified.ns_isSome, h.identified.uid_isSome⟩
  · exact h.secret.imp fun s hs => (hget (by decide) _).trans hs
  · obtain ⟨m, text, hm, hrest⟩ := h.configMap
    exact ⟨m, text, (hget (by decide) _).trans hm, hrest⟩
  · exact runsProxy_congr (hruns alone) (only _ (by decide))
  · obtain ⟨hvalid, hall⟩ := h.workloads along hselective
    exact ⟨hvalid, fun name d hd => hall name d ((hget (by decide) _).symm.trans hd)⟩

/-- If no proxy can be added to a selected workload, each of them has one. -/
theorem proxiesWorkloads_of_lacksNoProxy (hkey : Kind.authenticator.key a = key)
    (h : c.LacksNoProxy settings a secret map ready) : c.ProxiesWorkloads key a := by
  intro hselective
  have hempty := LabelSelector.isEmpty_eq_false_iff.2 hselective
  unfold Cluster.LacksNoProxy at h
  simp only [hempty, Bool.false_eq_true, if_false] at h
  obtain ⟨ns, workloads, hns, hlist, hnone, -⟩ := h
  obtain ⟨s, hs, -⟩ := Cluster.list_eq_ok_iff.1 hlist
  obtain rfl : key.ns = ns := hkey ▸ ns_key hns
  refine ⟨LabelSelector.exists_checked_iff.1 ⟨s, hs⟩, fun name d hd hmatches hspec => ?_⟩
  have hcarries : d.carriesProxy = true := by
    by_contra hlacks
    obtain ⟨o, ho⟩ := addProxyTo?_of_spec a secret map settings hspec
    have hselects := (LabelSelector.selects_iff hs).2 hmatches
    have hmem : o ∈ a.addProxies secret map settings workloads :=
      mem_addProxies.2 ⟨d, Cluster.mem_list hs hlist hd hselects, by simpa using hlacks, ho⟩
    rw [hnone] at hmem
    cases hmem
  rw [Deployment.carriesProxy_eq_any, List.any_eq_true] at hcarries
  obtain ⟨x, hx, hname⟩ := hcarries
  exact ⟨x, hx, of_decide_eq_true hname⟩

/-- The steps of a pass report only what is in place, and what is in place stays so. -/
theorem converge_ensures (hc : c.WellKept) (hget : c.get? .authenticator key = some a) :
    (a.converge settings fresh).Ensures (Reports settings key)
      (isDone fun ready c' => ∃ b, Accomplished settings key ready c c' a b) c := by
  have hkey := hc.key_eq hget
  have quiet : ∀ q c, Quiet q c → Reports settings key q c := fun q c hq h => absurd h hq
  refine ((credentialsStep_ensures hkey).mono quiet fun _ _ h => h).thenStep hc ?_
  rintro secret c₁ - ⟨rfl, rfl, hns, hset, hsecret⟩
  refine ((configurationStep_ensures hc hkey).mono quiet fun _ _ h => h).thenStep hc ?_
  rintro map c₂ hc₂ ⟨rfl, hid, only₂, hconfigures⟩
  refine ((proxyStep_ensures hc₂ hkey).mono quiet fun _ _ h => h).thenStep hc₂ ?_
  rintro ready c₃ hc₃ ⟨only₃, hstandalone, hsidecar⟩
  have hget₃ : c₃.get? .authenticator key = some a := by
    rw [Cluster.get?_congr (only₃ _ (by decide)), Cluster.get?_congr (only₂.kinds _ (by decide)),
      hget]
  -- Each kind was last changed by its own step.
  have secrets : c₃.tables.table .secret = c₁.tables.table .secret :=
    (only₃ _ (by decide)).trans (only₂.kinds _ (by decide))
  have configMaps : c₃.tables.table .configMap = c₂.tables.table .configMap := only₃ _ (by decide)
  have hplace : InPlace settings key a ready c₃ := by
    refine ⟨hid, hset, ?_, ?_, fun alone => ?_, fun along =>
      proxiesWorkloads_of_lacksNoProxy hkey (hsidecar along)⟩
    · exact hsecret.imp fun s hs => (Cluster.get?_congr secrets _).trans hs
    · obtain ⟨m, text, hm, hrest⟩ := hconfigures
      exact ⟨m, text, (Cluster.get?_congr configMaps _).trans hm, hrest⟩
    · rw [← ownConfigMapName_eq hkey]
      exact (hstandalone alone).2.2
  refine (reportStep_ensures _ hc₃ hget₃ fun _ => ⟨a, ready, rfl, hget₃, hplace⟩).thenStep hc₃ ?_
  rintro ⟨⟩ c' - ⟨only₄, b, hb, hdemand, hstatus⟩
  refine ⟨b, hget, hb, hdemand, hstatus, inPlace_congr hplace hdemand only₄.kinds, fun alone => ?_⟩
  obtain ⟨onlyDeployment, hlabels, -⟩ := hstandalone alone
  refine ⟨(only₄.kinds _ (by decide)).trans secrets, fun k key' hne => ?_, ?_⟩
  · rw [← key.dependent_authenticator] at only₄
    rw [only₄.onlyOwn k key' hne, onlyDeployment.onlyOwn k key' hne, only₂.onlyOwn k key' hne]
  · rw [Cluster.get?_congr (only₄.kinds _ (by decide)), hlabels,
      Cluster.get?_congr (only₂.kinds _ (by decide))]

theorem pass_ensures (hc : c.WellKept) (settings : Settings) (key : ObjectName)
    (fresh : Credentials) :
    (pass settings key.ns key.name fresh).Ensures (Reports settings key)
      (isDone fun ready c' => ∃ a b, Accomplished settings key ready c c' a b) c := by
  refine ensures_get nofun (fun a hget => ?_) trivial fun _ => trivial
  refine (converge_ensures hc hget).mono (fun _ _ hq => hq) ?_
  rintro (e | ⟨⟩ | ready | reason) c' h
  · trivial
  · trivial
  · exact ⟨a, h⟩
  · trivial

end Authenticator

end AuthProxy
