import AuthProxy.Proofs.Cluster.Listing
import AuthProxy.Proofs.Dependents
import AuthProxy.Proofs.Program.Ensures

/-! # Steps that have nothing left to do

What a step has put in place when it goes on, whichever of its calls failed before: it has changed
at most one object of one kind. Where that is in place the step goes on again, with the same value
and without a write, so what one step has settled stays settled while the later steps of a pass run.
-/

namespace AuthProxy

namespace Cluster

/-- Only objects of the kind may differ. -/
def OnlyChanges (k : Kind) (c c' : Cluster) : Prop :=
  ∀ j, j ≠ k → c'.tables.table j = c.tables.table j

theorem onlyChanges_refl (k : Kind) (c : Cluster) : OnlyChanges k c c := fun _ _ => rfl

/-- Nothing but the object of the kind under the name may differ. -/
structure OnlyAt (k : Kind) (key : ObjectName) (c c' : Cluster) : Prop where
  kinds : OnlyChanges k c c'
  names : ∀ key', key' ≠ key → c'.get? k key' = c.get? k key'

theorem onlyAt_refl (k : Kind) (key : ObjectName) (c : Cluster) : OnlyAt k key c c :=
  ⟨onlyChanges_refl k c, fun _ _ => rfl⟩

theorem Written.onlyAt {c c' : Cluster} {k : Kind} {key : ObjectName} {o : k.Object}
    (h : Written c c' k o) (hkey : k.key o = key) : OnlyAt k key c c' :=
  ⟨h.otherTables, fun _ hne => h.get?_of_ne_key (hkey ▸ hne)⟩

/-- An update under the name of a stored object replaces this object. -/
theorem WellKept.written_of_update {c c' : Cluster} (hc : c.WellKept) {k : Kind} {key : ObjectName}
    {o found stored : k.Object} (hfound : c.get? k key = some found) (hkey : k.key o = k.key found)
    (h : c.update k o = (.ok stored, c')) :
    Written c c' k stored ∧ k.key stored = key ∧
      ∃ v, stored = k.withVersion (k.withDefaults (k.withStatusOf found o)) v := by
  obtain ⟨x, v, hx, -, -, written, rfl⟩ := update_eq_ok h
  rw [hkey, hc.key_eq hfound, hfound] at hx
  obtain rfl := Option.some.inj hx
  exact ⟨written, by simp [hkey, hc.key_eq hfound], v, rfl⟩

/-- The same of a status. -/
theorem WellKept.written_of_updateStatus {c c' : Cluster} (hc : c.WellKept) {k : Kind}
    {key : ObjectName} {o found stored : k.Object} (hfound : c.get? k key = some found)
    (hkey : k.key o = k.key found) (h : c.updateStatus k o = (.ok stored, c')) :
    Written c c' k stored ∧ k.key stored = key ∧
      ∃ v, stored = k.withVersion (k.withStatusOf o found) v := by
  obtain ⟨x, v, hx, -, -, written, rfl⟩ := updateStatus_eq_ok h
  rw [hkey, hc.key_eq hfound, hfound] at hx
  obtain rfl := Option.some.inj hx
  exact ⟨written, by simp [hc.key_eq hfound], v, rfl⟩

/-- The ConfigMap of the authenticator at `key` holds its configuration file and nothing else. -/
def Configures (c : Cluster) (settings : Settings) (key : ObjectName) (a : Authenticator) : Prop :=
  ∃ m text, c.get? .configMap (key.dependent .configMap) = some m ∧ a.Owns m.metadata ∧
    a.confText settings = .ok text ∧ m.Holds text

end Cluster

namespace Program

/-- No report is written. -/
abbrev Quiet (q : Call) (_ : Cluster) : Prop := q.operation ≠ .updateStatus

end Program

/-- In every cluster with the objects of the kind that `c` has, the step goes on with `x` and
changes nothing. -/
def Settled {α : Type} (step : Program (Progress α)) (k : Kind) (c : Cluster) (x : α) : Prop :=
  ∀ d : Cluster, d.tables.table k = c.tables.table k →
    step.Yields Cluster.answer d (.proceed x) d

namespace Authenticator

open Program

variable {a b : Authenticator} {settings : Settings} {fresh : Credentials} {c c' d : Cluster}
  {ns secret map : String} {key : ObjectName}

/-- `b` asks for what `a` asks for: it is the same authenticator with another version or status. -/
def SameDemand (a b : Authenticator) : Prop :=
  ∃ v s, b = { a with metadata := { a.metadata with resourceVersion := v }, status := s }

theorem sameDemand_refl (a : Authenticator) : SameDemand a a := ⟨_, _, rfl⟩

theorem yields_get {α : Type} {k : Kind} {ns name : String} {f : Option k.Object → Program α}
    {x : α} : (ask (.get k ns name) >>= f).Yields Cluster.answer c x c' ↔
      (f (c.get? k ⟨ns, name⟩)).Yields Cluster.answer c x c' := by
  rw [yields_ask]
  constructor
  · rintro ⟨found, s, hget, h⟩
    cases hget
    exact h
  · intro h
    exact ⟨_, c, rfl, h⟩

theorem yields_list {α : Type} {k : Kind} {ns : String} {selector : LabelSelector}
    {f : List k.Object → Program α} {x : α} :
    (ask (.list k ns selector) >>= f).Yields Cluster.answer c x c' ↔
      ∃ os, c.list k ns selector = .ok os ∧ (f os).Yields Cluster.answer c x c' := by
  rw [yields_ask]
  constructor
  · rintro ⟨os, s, hlist, h⟩
    obtain ⟨hos, rfl⟩ := Prod.mk.inj hlist
    exact ⟨os, hos, h⟩
  · rintro ⟨os, hos, h⟩
    exact ⟨os, c, by rw [Cluster.answer_list, hos], h⟩

/-! ## Credentials -/

/-- The credentials step has nothing to do where the reference is set and the Secret is there. -/
theorem credentialsStep_of_referenced {s : Secret} (hns : a.metadata.ns = some ns)
    (hset : a.spec.credentialsSecretRef ≠ "")
    (hs : c.get? .secret ⟨ns, a.spec.credentialsSecretRef⟩ = some s) :
    (a.credentialsStep fresh).Yields Cluster.answer c (.proceed a.spec.credentialsSecretRef) c := by
  refine (yields_lift _ _).2 ⟨ns, ownNamespace_eq_ok_iff.2 hns, ?_⟩
  rw [if_pos (hasReference_eq_true_iff.2 hset)]
  refine yields_get.2 ?_
  rw [hs]
  dsimp only
  split <;> simp

theorem setReference_ensures (name : String) (reason : Requeue)
    (post : String → Cluster → Prop) :
    (a.setReference name reason).Ensures Quiet (goesOn post) c := by
  refine ensures_lift (fun ns _ => ?_) fun _ _ => trivial
  refine ensures_attempt nofun (fun _ _ s _ => ?_) (fun _ _ => trivial) fun _ _ _ => trivial
  exact ensures_get nofun (fun _ _ => trivial) trivial fun _ => trivial

/-- The credentials step goes on only with a reference that is set and a Secret that is there. -/
theorem credentialsStep_ensures (hkey : Kind.authenticator.key a = key) :
    (a.credentialsStep fresh).Ensures Quiet (goesOn fun secret c' => c' = c ∧
      secret = a.spec.credentialsSecretRef ∧ a.metadata.ns = some key.ns ∧
        a.spec.credentialsSecretRef ≠ "" ∧
          ∃ s, c.get? .secret ⟨key.ns, a.spec.credentialsSecretRef⟩ = some s) c := by
  refine ensures_lift (fun ns hns => ?_) fun _ _ => trivial
  have hns := ownNamespace_eq_ok_iff.1 hns
  obtain rfl : key.ns = ns := hkey ▸ ns_key hns
  cases hset : a.hasReference with
  | true =>
    refine ensures_get nofun (fun s hs => ?_) trivial fun _ => trivial
    dsimp only
    split <;> exact ⟨rfl, rfl, hns, hasReference_eq_true_iff.1 hset, s, hs⟩
  | false =>
    refine ensures_get nofun (fun s _ => ?_) ?_ fun _ => trivial
    · dsimp only
      split
      · exact setReference_ensures ..
      · trivial
    · refine ensures_lift (fun s _ => ?_) fun _ _ => trivial
      refine ensures_attempt nofun (fun _ _ s _ => ?_) (fun _ _ => trivial) fun _ _ _ => trivial
      exact setReference_ensures ..

theorem credentialsStep_settles
    (h : (a.credentialsStep fresh).Yields Cluster.answer c (.proceed secret) c') :
    c' = c ∧ ∀ b fresh', SameDemand a b → Settled (b.credentialsStep fresh') .secret c secret := by
  obtain ⟨rfl, rfl, hns, hset, s, hs⟩ := (credentialsStep_ensures rfl).yields h
  refine ⟨rfl, ?_⟩
  intro b fresh' hb d hd
  obtain ⟨v, status, rfl⟩ := hb
  exact credentialsStep_of_referenced hns hset ((Cluster.get?_congr hd _).trans hs)

/-! ## Configuration -/

/-- The configuration step has nothing to do where the ConfigMap holds the desired data. -/
theorem configurationStep_of_configures (hid : a.Identified)
    (hkey : Kind.authenticator.key a = key) (h : c.Configures settings key a) :
    (a.configurationStep settings).Yields Cluster.answer c (.proceed a.ownConfigMapName) c := by
  obtain ⟨m, text, hm, howned, htext, hdata⟩ := h
  obtain ⟨ns, hns⟩ := Option.isSome_iff_exists.1 hid.ns_isSome
  obtain ⟨desired, hmade, hdesired⟩ := hid.makeConfigMap_of_text htext
  rw [← hkey, dependent_configMap hns] at hm
  refine (yields_lift _ _).2 ⟨ns, ownNamespace_eq_ok_iff.2 hns, ?_⟩
  refine (yields_lift _ _).2 ⟨desired, hmade, yields_get.2 ?_⟩
  rw [← owns_eq_true_iff] at howned
  rw [ConfigMap.holds_iff] at hdata
  rw [hm]
  simp [howned, hdata, hdesired]

/-- A configuration step that goes on found the desired data or has just written them. -/
theorem configurationStep_ensures (hc : c.WellKept) (hkey : Kind.authenticator.key a = key) :
    (a.configurationStep settings).Ensures Quiet (goesOn fun map c' =>
      map = a.ownConfigMapName ∧ a.Identified ∧
        Cluster.OnlyAt .configMap (key.dependent .configMap) c c' ∧
          c'.Configures settings key a) c := by
  refine ensures_lift (fun ns hns => ?_) fun _ _ => trivial
  refine ensures_lift (fun desired hmade => ?_) fun _ _ => trivial
  have hobject : key.dependent .configMap = ⟨ns, a.ownConfigMapName⟩ :=
    hkey ▸ dependent_configMap (ownNamespace_eq_ok_iff.1 hns)
  obtain ⟨hdependent, text, htext, hdesired⟩ := makeConfigMap_eq_ok hmade
  have hid := hdependent.identified
  refine ensures_get nofun (fun found hfound => ?_) ?_ fun _ => trivial
  · rw [← hobject] at hfound
    cases hown : a.owns found.metadata with
    | false => simp only [hown]; trivial
    | true =>
      have howned := owns_eq_true_iff.1 hown
      simp only [hown, Bool.not_true, Bool.false_eq_true, if_false]
      split
      · next hdata =>
        exact ⟨rfl, hid, Cluster.onlyAt_refl .., found, text, hfound, howned, htext,
          ConfigMap.holds_iff.2 (hdata.trans hdesired)⟩
      · refine ensures_attempt nofun (fun failure stored c' hd => ?_) (fun _ _ => trivial)
          fun _ _ _ => trivial
        -- What is stored now has the desired data, and the owners that were there before.
        obtain ⟨written, hstored, v, hcontent⟩ := hc.written_of_update (k := .configMap)
          (o := { found with data := desired.data }) hfound rfl (deliver_update hd)
        have hnow := hstored ▸ written.get?_self
        rw [hcontent] at hnow
        exact ⟨rfl, hid, written.onlyAt hstored, _, text, hnow, howned, htext,
          ConfigMap.holds_iff.2 hdesired⟩
  · exact ensures_attempt nofun (fun _ _ _ _ => trivial) (fun _ _ => trivial) fun _ _ _ => trivial

theorem configurationStep_settles (hc : c.WellKept)
    (h : (a.configurationStep settings).Yields Cluster.answer c (.proceed map) c') :
    Cluster.OnlyChanges .configMap c c' ∧
      Settled (a.configurationStep settings) .configMap c' map := by
  obtain ⟨rfl, hid, only, m, text, hm, hrest⟩ := (configurationStep_ensures hc rfl).yields h
  refine ⟨only.kinds, fun d hd => configurationStep_of_configures hid rfl ⟨m, text, ?_, hrest⟩⟩
  exact (Cluster.get?_congr hd _).trans hm

/-! ## Report -/

/-- A report step that goes on leaves an authenticator that asks for the same and reports `n`. -/
theorem reportStep_ensures (law : Call → Cluster → Prop) {n : Int32} (hc : c.WellKept)
    (hget : c.get? .authenticator key = some a)
    (hlaw : law (.updateStatus .authenticator (a.reporting n)) c) :
    (a.reportStep n).Ensures law (goesOn fun _ c' => Cluster.OnlyAt .authenticator key c c' ∧
      ∃ b, c'.get? .authenticator key = some b ∧ SameDemand a b ∧ b.status = some ⟨n⟩) c := by
  unfold reportStep
  split
  · next hreported =>
    refine ⟨Cluster.onlyAt_refl .., a, hget, sameDemand_refl a, ?_⟩
    cases hstatus : a.status with
    | none => simp [hstatus] at hreported
    | some s =>
      rw [reportedReady, hstatus] at hreported
      obtain rfl : s.readyReplicas = n := by simpa using hreported
      rfl
  · refine ensures_attempt hlaw (fun failure stored c' hd => ?_) (fun _ _ => trivial)
      fun _ _ _ => trivial
    obtain ⟨written, hkey, v, rfl⟩ :=
      hc.written_of_updateStatus (o := a.reporting n) hget rfl (deliver_updateStatus hd)
    exact ⟨written.onlyAt hkey, _, hkey ▸ written.get?_self, ⟨v, _, rfl⟩, rfl⟩

/-- Nothing is reported twice. -/
theorem reportStep_of_reported {n : Int32} (h : a.status = some ⟨n⟩) :
    (a.reportStep n).Yields Cluster.answer c (.proceed ()) c := by
  simp [reportStep, reportedReady, h]

theorem reportStep_settles {n : Int32} (hc : c.WellKept)
    (hget : c.get? .authenticator key = some a)
    (h : (a.reportStep n).Yields Cluster.answer c (.proceed ()) c') :
    Cluster.OnlyChanges .authenticator c c' ∧
      ∃ b, c'.get? .authenticator key = some b ∧ SameDemand a b ∧
        Settled (b.reportStep n) .authenticator c' () := by
  obtain ⟨only, b, hb, hdemand, hstatus⟩ :=
    (reportStep_ensures (fun _ _ => True) hc hget trivial).yields h
  exact ⟨only.kinds, b, hb, hdemand, fun d _ => reportStep_of_reported hstatus⟩

end Authenticator

end AuthProxy
