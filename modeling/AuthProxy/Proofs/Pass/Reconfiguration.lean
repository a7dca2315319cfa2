import Mathlib.Logic.Function.Iterate
import AuthProxy.Proofs.Pass.Settled
import AuthProxy.Proofs.ProxyConf

/-! # Reconfiguration

A ConfigMap is written exactly when it does not hold the configuration file, and then once. The file
tells the three values that it depends on, so a change of the specification is written if and only
if it changes one of these.
-/

namespace AuthProxy

/-- What became of the ConfigMap `found` at `key`, which should hold the configuration `text`. -/
structure Reconfigured (key : ObjectName) (found : ConfigMap) (text : String) (c c' : Cluster) :
    Prop where
  /-- It was written if it held something else, and only then. -/
  writes : c'.writes = c.writes ++
    if found.Holds text then [] else [⟨.update, .configMap, key.name⟩]
  /-- Where nothing was written, nothing at all has happened. -/
  untouched : found.Holds text → c' = c
  others : Cluster.OnlyAt .configMap key c c'
  /-- It holds the configuration now. Apart from its data only the version is new, and only where
  something was written. -/
  stored : ∃ data v, data.entries = [("nginx.conf", text)] ∧ c'.get? .configMap key = some
      { found with data := some data, metadata := { found.metadata with resourceVersion := v } } ∧
    (¬ found.Holds text → v ≠ found.metadata.resourceVersion)

/-- The store after a number of runs of the program, one after the other. -/
def Program.rerun {σ α : Type} (store : Store σ) (p : Program α) (n : Nat) (s : σ) : σ :=
  (fun s => (p.run store s).store)^[n] s

theorem Program.rerun_succ {σ α : Type} {store : Store σ} {p : Program α} {s t : σ} {x : α}
    (h : p.Yields store s x t) (n : Nat) : p.rerun store (n + 1) s = p.rerun store n t := by
  rw [rerun, Function.iterate_succ_apply, h.2]
  rfl

/-- Where a program changes nothing it can run as often as it likes. -/
theorem Program.rerun_of_still {σ α : Type} {store : Store σ} {p : Program α} {s : σ} {x : α}
    (h : p.Yields store s x s) (n : Nat) : p.rerun store n s = s :=
  Function.iterate_fixed h.2 n

namespace Authenticator

open Program

variable {a b : Authenticator} {settings settings' : Settings} {c c' : Cluster} {ns text : String}
  {found : ConfigMap}

theorem reconfigured_of_holds {key : ObjectName} (hfound : c.get? .configMap key = some found)
    (h : found.Holds text) : Reconfigured key found text c c := by
  refine ⟨by simp [h], fun _ => rfl, Cluster.onlyAt_refl .., confData text,
    found.metadata.resourceVersion, rfl, ?_, fun hne => absurd h hne⟩
  rw [hfound, ← ConfigMap.holds_iff.1 h]

/-- With other data it is found under the same name. -/
theorem get?_of_data (hc : c.WellKept) {key : ObjectName} (data : Labels)
    (hfound : c.get? .configMap key = some found) :
    c.get? .configMap (Kind.configMap.key { found with data := some data }) = some found := by
  rw [← hc.key_eq hfound] at hfound
  exact hfound

/-- An update of the data alone. -/
theorem reconfigured_of_update (hc : c.WellKept) {key : ObjectName} {stored : ConfigMap}
    (hfound : c.get? .configMap key = some found) (hdrift : ¬ found.Holds text)
    (hupdate : c.update .configMap { found with data := some (confData text) } =
      (.ok stored, c')) : Reconfigured key found text c c' := by
  obtain ⟨written, hstored, v, hcontent⟩ := hc.written_of_update (k := .configMap)
    (o := { found with data := some (confData text) }) hfound rfl hupdate
  have hname : Kind.configMap.nameAny found = key.name :=
    congrArg ObjectName.name (hc.key_eq hfound)
  have hwrites := Cluster.writes_of_update hupdate
  refine ⟨?_, fun hsame => absurd hsame hdrift, written.onlyAt hstored, confData text, v, rfl, ?_,
    fun _ => ?_⟩
  · rw [hwrites, if_neg hdrift, ← hname]
    rfl
  · rw [← hstored, written.get?_self, hcontent]
    rfl
  · have hne := (hc.remembers hfound).version_ne written
    rw [hcontent] at hne
    exact hne

/-- Where the ConfigMap is the authenticator's own and holds something else, it is updated. -/
theorem configurationStep_of_drift (hid : a.Identified) (hns : a.metadata.ns = some ns)
    (hfound : c.get? .configMap ⟨ns, a.ownConfigMapName⟩ = some found)
    (howned : a.Owns found.metadata) (htext : a.confText settings = .ok text)
    (hdrift : ¬ found.Holds text) {x : Progress String}
    (h : (do
      if ← attempt (.update .configMap { found with data := some (confData text) }) then
        return Progress.proceed a.ownConfigMapName
      else return .requeue .conflict).Yields Cluster.answer c x c') :
    (a.configurationStep settings).Yields Cluster.answer c x c' := by
  obtain ⟨desired, hmade, hdesired⟩ := hid.makeConfigMap_of_text htext
  rw [← owns_eq_true_iff] at howned
  rw [ConfigMap.holds_iff] at hdrift
  refine (yields_lift _ _).2 ⟨ns, ownNamespace_eq_ok_iff.2 hns, ?_⟩
  refine (yields_lift _ _).2 ⟨desired, hmade, yields_get.2 ?_⟩
  simp only [hfound, howned, hdesired, hdrift, Bool.not_true, Bool.false_eq_true, if_false]
  exact (yields_tell _ _).2 h

/-- A ConfigMap of its own is as the authenticator wants it afterwards, unless the write is to be
lost. -/
theorem configurationStep_of_owned (hc : c.WellKept) (hid : a.Identified)
    (hns : a.metadata.ns = some ns)
    (hfound : c.get? .configMap ⟨ns, a.ownConfigMapName⟩ = some found)
    (howned : a.Owns found.metadata) (htext : a.confText settings = .ok text)
    (hcalm : found.Holds text ∨ c.pendingConflict ≠ some .configMap) :
    ∃ c', (a.configurationStep settings).Yields Cluster.answer c (.proceed a.ownConfigMapName) c' ∧
      Reconfigured ⟨ns, a.ownConfigMapName⟩ found text c c' := by
  by_cases hholds : found.Holds text
  · refine ⟨c, configurationStep_of_configures hid rfl ⟨found, text, ?_, howned, htext, hholds⟩,
      reconfigured_of_holds hfound hholds⟩
    rw [dependent_configMap hns, hfound]
  · obtain ⟨stored, c', -, hupdate, -, -⟩ := Cluster.update_of_current
      (get?_of_data hc (confData text) hfound) (hcalm.resolve_left hholds)
      (Cluster.isStale_eq_false_iff.2 (.inr rfl))
    refine ⟨c', configurationStep_of_drift hid hns hfound howned htext hholds ?_,
      reconfigured_of_update hc hfound hholds hupdate⟩
    exact (yields_attempt _ _).2 (.inl ⟨stored, c', hupdate, yields_pure.2 ⟨rfl, rfl⟩⟩)

/-- A write that is to be lost is lost, and that is all that happens. -/
theorem configurationStep_of_conflict (hc : c.WellKept) (hid : a.Identified)
    (hns : a.metadata.ns = some ns)
    (hfound : c.get? .configMap ⟨ns, a.ownConfigMapName⟩ = some found)
    (howned : a.Owns found.metadata) (htext : a.confText settings = .ok text)
    (hdrift : ¬ found.Holds text) (hp : c.pendingConflict = some .configMap) :
    (a.configurationStep settings).Yields Cluster.answer c (.requeue .conflict)
      { c with pendingConflict := none } := by
  have hupdate := Cluster.update_of_stale (get?_of_data hc (confData text) hfound) (.inl hp)
  rw [show (c.consumeConflict .configMap).2 = { c with pendingConflict := none } by
    simp [Cluster.consumeConflict, hp]] at hupdate
  refine configurationStep_of_drift hid hns hfound howned htext hdrift ?_
  exact (yields_attempt _ _).2 (.inr ⟨_, _, hupdate, rfl, yields_pure.2 ⟨rfl, rfl⟩⟩)

/-- Once it is as the authenticator wants it, nothing is left to do. -/
theorem configurationStep_of_reconfigured (hid : a.Identified) (hns : a.metadata.ns = some ns)
    (howned : a.Owns found.metadata) (htext : a.confText settings = .ok text)
    (h : Reconfigured ⟨ns, a.ownConfigMapName⟩ found text c c') :
    (a.configurationStep settings).Yields Cluster.answer c' (.proceed a.ownConfigMapName) c' := by
  obtain ⟨data, v, hdata, hstored, -⟩ := h.stored
  rw [← dependent_configMap hns] at hstored
  exact configurationStep_of_configures hid rfl
    ⟨_, text, hstored, howned, htext, congrArg some hdata⟩

/-- However often the step runs, a ConfigMap of its own is written once at most. One run may be
needed to get over a write that is to be lost. -/
theorem rerun_configurationStep (hc : c.WellKept) (hid : a.Identified)
    (hns : a.metadata.ns = some ns)
    (hfound : c.get? .configMap ⟨ns, a.ownConfigMapName⟩ = some found)
    (howned : a.Owns found.metadata) (htext : a.confText settings = .ok text) {n : Nat}
    (hn : c.pendingConflict = some .configMap → n ≠ 0) :
    Reconfigured ⟨ns, a.ownConfigMapName⟩ found text c
      ((a.configurationStep settings).rerun Cluster.answer (n + 1) c) := by
  by_cases hcalm : found.Holds text ∨ c.pendingConflict ≠ some .configMap
  · obtain ⟨c', hstep, hdone⟩ := configurationStep_of_owned hc hid hns hfound howned htext hcalm
    have hagain := configurationStep_of_reconfigured hid hns howned htext hdone
    rw [rerun_succ hstep, rerun_of_still hagain]
    exact hdone
  · simp only [not_or, Decidable.not_not] at hcalm
    obtain ⟨hdrift, hp⟩ := hcalm
    have hlost := configurationStep_of_conflict hc hid hns hfound howned htext hdrift hp
    obtain ⟨m, rfl⟩ := Nat.exists_eq_succ_of_ne_zero (hn hp)
    have hc₁ : Cluster.WellKept { c with pendingConflict := none } := hc.move (.still ⟨rfl, rfl⟩)
    obtain ⟨c', hstep, hdone⟩ := configurationStep_of_owned hc₁ hid hns hfound howned htext
      (.inr (by simp))
    have hagain := configurationStep_of_reconfigured hid hns howned htext hdone
    rw [rerun_succ hlost, rerun_succ hstep, rerun_of_still hagain]
    exact ⟨hdone.writes, fun hsame => absurd hsame hdrift, ⟨hdone.others.kinds, hdone.others.names⟩,
      hdone.stored⟩

/-- **A ConfigMap is rewritten exactly when the effective configuration changed.** Two configuration
files are the same if and only if the port that is listened on, the host behind it and the port
there are. A step that finds its own ConfigMap, with whatever data, goes on unless it is to lose its
write; it has updated the ConfigMap if the data were not the configuration file, changed nothing
but data and version, and changes nothing when it runs again. So if the file was up to date before a
change, of the specification or of the settings, any number of steps afterwards write it once if
the change affects one of the three values, and never otherwise. -/
theorem configMap_rewritten_exactly :
    (∀ (a b : Authenticator) (settings settings' : Settings) (text text' : String),
      a.confText settings = .ok text → b.confText settings' = .ok text' →
        (text = text' ↔ SameConf a b settings settings')) ∧
    (∀ (c : Cluster) (a : Authenticator) (settings : Settings) (ns text : String)
      (found : ConfigMap), c.Reachable → a.Identified → a.metadata.ns = some ns →
      c.get? .configMap ⟨ns, a.ownConfigMapName⟩ = some found → a.Owns found.metadata →
      a.confText settings = .ok text →
      let step := a.configurationStep settings
      (found.Holds text ∨ c.pendingConflict ≠ some .configMap →
        ∃ c', step.Yields Cluster.answer c (.proceed a.ownConfigMapName) c' ∧
          Reconfigured ⟨ns, a.ownConfigMapName⟩ found text c c' ∧
          step.Yields Cluster.answer c' (.proceed a.ownConfigMapName) c') ∧
      (¬ found.Holds text → c.pendingConflict = some .configMap →
        step.Yields Cluster.answer c (.requeue .conflict) { c with pendingConflict := none })) ∧
    ∀ (c : Cluster) (a b : Authenticator) (settings settings' : Settings) (ns text text' : String)
      (found : ConfigMap) (n : Nat), c.Reachable → b.Identified → b.metadata.ns = some ns →
      c.get? .configMap ⟨ns, b.ownConfigMapName⟩ = some found → b.Owns found.metadata →
      a.confText settings = .ok text → found.Holds text →
      b.confText settings' = .ok text' → (c.pendingConflict = some .configMap → n ≠ 0) →
      let now := (b.configurationStep settings').rerun Cluster.answer (n + 1) c
      Reconfigured ⟨ns, b.ownConfigMapName⟩ found text' c now ∧
        now.writes = c.writes ++ if SameConf a b settings settings' then []
          else [⟨.update, .configMap, b.ownConfigMapName⟩] := by
  refine ⟨fun a b settings settings' text text' ha hb => confText_inj ha hb, ?_, ?_⟩
  · intro c a settings ns text found hreachable hid hns hfound howned htext step
    have hc := hreachable.wellKept
    refine ⟨fun hcalm => ?_, configurationStep_of_conflict hc hid hns hfound howned htext⟩
    obtain ⟨c', hstep, hdone⟩ := configurationStep_of_owned hc hid hns hfound howned htext hcalm
    exact ⟨c', hstep, hdone, configurationStep_of_reconfigured hid hns howned htext hdone⟩
  · intro c a b settings settings' ns text text' found n hreachable hid hns hfound howned ha hholds
      hb hn now
    have hdone := rerun_configurationStep hreachable.wellKept hid hns hfound howned hb hn
    refine ⟨hdone, hdone.writes.trans ?_⟩
    have hsame : found.Holds text' ↔ SameConf a b settings settings' := by
      rw [hholds.iff_eq, confText_inj ha hb]
    simp only [hsame]

/-- An authenticator with a proxy on the default port. -/
def porter : Authenticator where
  metadata := { name := some "gate", ns := some "apps", uid := some "uid-of-gate" }
  spec := { appPort := 80, appService := "app" }

/-- A cluster with its ConfigMap. -/
def furnished : Cluster :=
  .ofChanges [.place .configMap {
    metadata := {
      name := some "gate-nginx-conf", ns := some "apps"
      ownerReferences := some [{ uid := "uid-of-gate" }] }
    data := some (.ofList [("nginx.conf", ProxyConf.text ⟨8080, "app", 80⟩)]) }]

/-- Another port behind the proxy is written once, and so is another port of the proxy. That the
default port is named, and that there are more replicas, is not written at all. -/
theorem configMap_rewritten_exactly_where_furnished :
    let writes (spec : AuthenticatorSpec) : List Write :=
      (({ porter with spec }.configurationStep {}).rerun Cluster.answer 3 furnished).writes
    writes { porter.spec with appPort := 81 } = [⟨.update, .configMap, "gate-nginx-conf"⟩] ∧
      writes { porter.spec with proxyPort := some 9090 } =
        [⟨.update, .configMap, "gate-nginx-conf"⟩] ∧
      writes { porter.spec with proxyPort := some 8080, replicas := 5 } = [] := by
  intro writes
  have hsees : (furnished.get? .configMap ⟨"apps", "gate-nginx-conf"⟩).map (fun m : ConfigMap =>
      (decide (porter.Owns m.metadata),
        decide (m.Holds (ProxyConf.text ⟨8080, "app", 80⟩)))) = some (true, true) := by
    decide +kernel
  obtain ⟨found, hfound, hsees⟩ := Option.map_eq_some_iff.1 hsees
  simp only [Prod.mk.injEq, decide_eq_true_eq] at hsees
  obtain ⟨howned, hholds⟩ := hsees
  have hrun (spec : AuthenticatorSpec) (text : String)
      (htext : { porter with spec }.confText {} = .ok text) :
      writes spec = furnished.writes ++
        if SameConf porter { porter with spec } {} {} then []
        else [⟨.update, .configMap, "gate-nginx-conf"⟩] :=
    (configMap_rewritten_exactly.2.2 furnished porter { porter with spec } {} {} "apps" _ text found
      2 (Cluster.reachable_ofChanges _) ⟨rfl, rfl, rfl⟩ rfl hfound howned rfl hholds htext
      (by decide)).2
  refine ⟨?_, ?_, ?_⟩
  · rw [hrun _ _ rfl, if_neg (by decide)]
    rfl
  · rw [hrun _ _ rfl, if_neg (by decide)]
    rfl
  · rw [hrun _ _ rfl, if_pos (by decide)]
    rfl

end Authenticator

end AuthProxy
