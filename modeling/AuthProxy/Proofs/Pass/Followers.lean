import AuthProxy.Proofs.Pass.Idempotence
import AuthProxy.Proofs.Pass.InPlace

/-! # Authenticators that follow each other

The replicas of a standalone authenticator may follow Deployments that are the proxies of others
(`Cluster.Follows`). Where all that it needs is in place and reported, a pass over it does nothing
(`Cluster.AtRest`), and a pass over another one that is done can only disturb this if the first
follows the second.
-/

namespace AuthProxy

open Program

namespace Cluster

/-- The replicas of the authenticator at `key` follow the proxy of another one, at `key'`. -/
def Follows (c : Cluster) (key key' : ObjectName) : Prop :=
  key' ≠ key ∧ key'.ns = key.ns ∧ ∃ a s d, c.get? .authenticator key = some a ∧
    a.followsWorkloads = true ∧ a.spec.selector.checked = .ok s ∧
      c.get? .deployment (key'.dependent .deployment) = some d ∧
        s.selects d.metadata.labelMap = true

/-- At `key` there is a standalone authenticator that has all it needs and has reported so. -/
def AtRest (c : Cluster) (settings : Settings) (key : ObjectName) : Prop :=
  ∃ a ready, c.get? .authenticator key = some a ∧ a.spec.mode = .standalone ∧
    a.status = some ⟨ready⟩ ∧ InPlace settings key a ready c

end Cluster

variable {settings : Settings} {c c' : Cluster} {key key' : ObjectName} {a b : Authenticator}
  {n ready : Int32}

/-- Over an authenticator at rest there is nothing to do. -/
theorem Cluster.AtRest.pass_yields (hc : c.WellKept) (h : c.AtRest settings key)
    (fresh : Credentials) : ∃ ready,
      (Authenticator.pass settings key.ns key.name fresh).Yields answer c (.done ready) c := by
  obtain ⟨a, ready, hget, alone, hstatus, hplace⟩ := h
  have hkey := hc.key_eq hget
  obtain ⟨ns, hns⟩ := Option.isSome_iff_exists.1 hplace.identified.ns_isSome
  obtain rfl : key.ns = ns := hkey ▸ Authenticator.ns_key hns
  obtain ⟨s, hs⟩ := hplace.secret
  have hproxy := Authenticator.standaloneStep_of_runsProxy hplace.identified hkey
    (hplace.deployment alone)
  rw [← Authenticator.proxyStep_of_standalone alone,
    ← Authenticator.ownConfigMapName_eq hkey] at hproxy
  refine ⟨ready, Authenticator.pass_yields_done.2 ⟨a, hget, ?_⟩⟩
  exact Authenticator.converge_yields_done.2 ⟨_, _, c, c, c,
    Authenticator.credentialsStep_of_referenced hns hplace.reference hs,
    Authenticator.configurationStep_of_configures hplace.identified hkey hplace.configMap,
    hproxy, Authenticator.reportStep_of_reported hstatus⟩

/-! ## What a pass over one authenticator leaves of the others -/

namespace OwnChanges

theorem keepsLabels (h : OwnChanges key c c') :
    Cluster.KeepsLabels (key.dependent .deployment) c c' :=
  ⟨fun y hne => h.others .deployment y hne, h.labels⟩

/-- The dependents of another authenticator, and that authenticator itself, are as they were. -/
theorem dependent_eq (h : OwnChanges key' c c') (hne : key' ≠ key) (k : Kind) :
    c'.get? k (key.dependent k) = c.get? k (key.dependent k) :=
  h.others k _ fun he => hne (ObjectName.dependent_inj he).symm

theorem authenticator_eq (h : OwnChanges key' c c') (hne : key' ≠ key) :
    c'.get? .authenticator key = c.get? .authenticator key := by
  simpa only [ObjectName.dependent_authenticator] using h.dependent_eq hne .authenticator

/-- An authenticator that does not follow the one that changed chooses the replicas that it chose
before. -/
theorem chooseReplicas (h : OwnChanges key' c c') (hc : c.WellKept) (hc' : c'.WellKept)
    (hget : c.get? .authenticator key = some a) (hne : key' ≠ key) (hfree : ¬ c.Follows key key')
    (hn : a.chooseReplicas.Yields Cluster.answer c n c) :
    a.chooseReplicas.Yields Cluster.answer c' n c' := by
  refine Authenticator.chooseReplicas_of_keepsLabels hc hc' hn h.keepsLabels ?_
  intro s d hfollows hns hs hd hselects
  have hsame : key'.ns = key.ns := (hc.key_eq hget ▸ Authenticator.ns_key hns).symm
  exact absurd ⟨hne, hsame, a, s, d, hget, hfollows, hs, hd, hselects⟩ hfree

/-- An authenticator at rest stays so, unless it follows the one that changed. -/
theorem atRest (h : OwnChanges key' c c') (hc : c.WellKept) (hc' : c'.WellKept) (hne : key' ≠ key)
    (hfree : ¬ c.Follows key key') (hrest : c.AtRest settings key) : c'.AtRest settings key := by
  obtain ⟨a, ready, hget, alone, hstatus, hplace⟩ := hrest
  refine ⟨a, ready, (h.authenticator_eq hne).trans hget, alone, hstatus, ?_⟩
  refine ⟨hplace.identified, hplace.reference, ?_, ?_, fun _ => ?_, fun along => ?_⟩
  · exact hplace.secret.imp fun s hs => (Cluster.get?_congr h.secrets _).trans hs
  · obtain ⟨m, text, hm, hrest⟩ := hplace.configMap
    exact ⟨m, text, (h.dependent_eq hne _).trans hm, hrest⟩
  · obtain ⟨d, n, hd, howned, hn, -, hrest⟩ := hplace.deployment alone
    have hchosen := h.chooseReplicas hc hc' hget hne hfree hn
    exact ⟨d, n, (h.dependent_eq hne _).trans hd, howned, hchosen,
      Authenticator.wantsReplicas_of_yields hchosen, hrest⟩
  · rw [alone] at along
    cases along

end OwnChanges

/-! ## What a pass that is done has accomplished -/

namespace Accomplished

theorem atRest (h : Accomplished settings key ready c c' a b) (alone : a.spec.mode = .standalone) :
    c'.AtRest settings key := by
  obtain ⟨v, s, hdemand⟩ := h.demand
  have hmode : b.spec.mode = .standalone := by
    rw [hdemand]
    exact alone
  exact ⟨b, ready, h.after, hmode, h.status, h.inPlace⟩

/-- Every authenticator asks for what it asked for before. -/
theorem sameDemand (h : Accomplished settings key ready c c' a b)
    (alone : a.spec.mode = .standalone) {x : ObjectName} {o : Authenticator} :
    (c.get? .authenticator x = some o → ∃ o', c'.get? .authenticator x = some o' ∧
      o.SameDemand o') ∧
    (c'.get? .authenticator x = some o → ∃ o', c.get? .authenticator x = some o' ∧
      o'.SameDemand o) := by
  by_cases hx : key = x
  · subst hx
    rw [h.before, h.after]
    constructor
    · rintro ⟨⟩
      exact ⟨b, rfl, h.demand⟩
    · rintro ⟨⟩
      exact ⟨a, rfl, h.demand⟩
  · rw [(h.changes alone).authenticator_eq hx]
    exact ⟨fun ho => ⟨o, ho, o.sameDemand_refl⟩, fun ho => ⟨o, ho, o.sameDemand_refl⟩⟩

/-- Nobody follows anyone new. -/
theorem follows (h : Accomplished settings key ready c c' a b)
    (alone : a.spec.mode = .standalone) {x y : ObjectName} (hfollows : c'.Follows x y) :
    c.Follows x y := by
  obtain ⟨hne, hns, o, s, d, ho, hadaptive, hs, hd, hselects⟩ := hfollows
  obtain ⟨o', ho', v, status, rfl⟩ := (h.sameDemand alone).2 ho
  have hlabels := (h.changes alone).keepsLabels.labels_eq (y.dependent .deployment)
  rw [hd] at hlabels
  obtain ⟨d', hd', hlabels⟩ := Option.map_eq_some_iff.1 hlabels.symm
  refine ⟨hne, hns, o', s, d', ho', hadaptive, hs, hd', ?_⟩
  rwa [ObjectMeta.labelMap, hlabels]

end Accomplished

end AuthProxy
