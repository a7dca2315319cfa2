import AuthProxy.Proofs.Pass.InPlace
import AuthProxy.Proofs.Program.Twins

/-! # Independent authenticators

A pass over a standalone authenticator that does not follow other workloads reads and writes under
few names: its own, those of its dependents, and that of the Secret it refers to. So it does the
same wherever these hold the same (`pass_twins`); and since no other authenticator has these names,
two passes may run in either order.
-/

namespace AuthProxy

namespace Cluster

/-- Both clusters hold the same where a pass over the authenticator `a` at `key` looks. -/
structure Agrees (key : ObjectName) (a : Authenticator) (c d : Cluster) : Prop where
  own : ∀ k : Kind, d.get? k (key.dependent k) = c.get? k (key.dependent k)
  referenced : d.get? .secret ⟨key.ns, a.spec.credentialsSecretRef⟩ =
    c.get? .secret ⟨key.ns, a.spec.credentialsSecretRef⟩

/-- On both sides only the authenticator at `key` and its dependents may have changed, and what lies
there now is alike. -/
structure Together (key : ObjectName) (c d c' d' : Cluster) : Prop where
  left : OnlyOwn key c c'
  right : OnlyOwn key d d'
  alike : ∀ k : Kind, k.Alike (c.get? k (key.dependent k)).isNone (c'.get? k (key.dependent k))
    (d'.get? k (key.dependent k))

variable {key : ObjectName} {a : Authenticator} {c d c₁ d₁ c₂ d₂ : Cluster}

theorem Agrees.together (h : Agrees key a c d) : Together key c d c d :=
  ⟨fun _ _ _ => rfl, fun _ _ _ => rfl, fun k => by rw [h.own k]; rfl⟩

/-- One more write, on both sides. -/
theorem Together.beside (h : Together key c d c₁ d₁) {k : Kind}
    (hb : Beside k (key.dependent k) c₁ d₁ c₂ d₂)
    (hsame : c₁.get? k (key.dependent k) = c.get? k (key.dependent k)) :
    Together key c d c₂ d₂ where
  left := fun j key' hne => (hb.left.onlyOwn j key' hne).trans (h.left j key' hne)
  right := fun j key' hne => (hb.right.onlyOwn j key' hne).trans (h.right j key' hne)
  alike := by
    intro j
    by_cases hj : j = k
    · subst hj
      rw [← hsame]
      exact hb.alike
    · rw [get?_congr (hb.left.kinds j hj), get?_congr (hb.right.kinds j hj)]
      exact h.alike j

/-- Both sides stay together, and a step that goes on has changed nothing on either. -/
def WritesToStop {α : Type} (key : ObjectName) (c d : Cluster) (r : Except Error (Progress α))
    (c' d' : Cluster) : Prop :=
  Together key c d c' d' ∧ ∀ x, r = .ok (.proceed x) → c' = c ∧ d' = d

end Cluster

namespace Authenticator

open Program

variable {a : Authenticator} {settings : Settings} {fresh : Credentials} {c d : Cluster}
  {key : ObjectName} {secret map : String}

/-- The reference is set on both sides, to a Secret that is there. -/
theorem setReference_twins {name : String} {reason : Requeue} (hc : c.Ready) (hd : d.Ready)
    (hkey : Kind.authenticator.key a = key) (hget : c.get? .authenticator key = some a)
    (hget' : d.get? .authenticator key = some a)
    (hsecret : (c.get? .secret ⟨key.ns, name⟩).isSome = true ∧
      (d.get? .secret ⟨key.ns, name⟩).isSome = true) :
    (a.setReference name reason).Twins (fun r c' d' =>
      Cluster.Beside .authenticator key c d c' d' ∧ ∀ x, r ≠ .ok (.proceed x)) c d := by
  refine twins_lift (fun ns hns => ?_) fun e => ⟨Cluster.beside_refl (hget'.trans hget.symm), nofun⟩
  have hwrites : Cluster.WritesBeside (.update .authenticator (a.referring name)) .authenticator
      key c d := hc.update_beside hd hkey hget hget' rfl
  refine twins_attempt hwrites hc hd fun c' d' _ _ hbeside _ => twins_tell ?_
  obtain rfl : key.ns = ns := hkey ▸ ns_key (ownNamespace_eq_ok_iff.1 hns)
  obtain ⟨hs, hs'⟩ := hsecret
  rw [← Cluster.get?_congr (hbeside.left.kinds _ (by decide))] at hs
  rw [← Cluster.get?_congr (hbeside.right.kinds _ (by decide))] at hs'
  obtain ⟨s, hs⟩ := Option.isSome_iff_exists.1 hs
  obtain ⟨s', hs'⟩ := Option.isSome_iff_exists.1 hs'
  refine twins_get (by rw [hs, hs']) ?_
  rw [hs]
  exact twins_pure ⟨hbeside, nofun⟩

/-- The same, after the Secret was found or made. -/
theorem setReference_stops {name : String} {reason : Requeue} {c₁ d₁ : Cluster} (hc : c₁.Ready)
    (hd : d₁.Ready) (hkey : Kind.authenticator.key a = key) (h : Cluster.Together key c d c₁ d₁)
    (hbefore : c.get? .authenticator key = some a) (hget : c₁.get? .authenticator key = some a)
    (hget' : d₁.get? .authenticator key = some a)
    (hsecret : (c₁.get? .secret ⟨key.ns, name⟩).isSome = true ∧
      (d₁.get? .secret ⟨key.ns, name⟩).isSome = true) :
    (a.setReference name reason).Twins (Cluster.WritesToStop key c d) c₁ d₁ := by
  refine (setReference_twins hc hd hkey hget hget' hsecret).mono fun r c' d' hr => ?_
  refine ⟨h.beside (k := .authenticator) ?_ ?_, fun x hx => absurd hx (hr.2 x)⟩
  · rw [key.dependent_authenticator]
    exact hr.1
  · rw [key.dependent_authenticator, hget, hbefore]

/-- A credentials step that goes on has changed nothing. -/
theorem credentialsStep_twins (hc : c.Ready) (hd : d.Ready)
    (hget : c.get? .authenticator key = some a) (h : Cluster.Agrees key a c d) :
    (a.credentialsStep fresh).Twins (Cluster.WritesToStop key c d) c d := by
  have hkey := hc.wellKept.key_eq hget
  have hget' := (key.dependent_authenticator ▸ h.own .authenticator).trans hget
  refine twins_lift (fun ns hns => ?_) fun _ => ⟨h.together, nofun⟩
  have hns := ownNamespace_eq_ok_iff.1 hns
  obtain rfl : key.ns = ns := hkey ▸ ns_key hns
  cases hreferred : a.hasReference with
  | true =>
    refine twins_get (by rw [h.referenced]) ?_
    cases c.get? .secret ⟨key.ns, a.spec.credentialsSecretRef⟩ with
    | none => exact twins_tell (twins_pure ⟨h.together, nofun⟩)
    | some s =>
      dsimp only
      split
      · exact twins_tell (twins_pure ⟨h.together, fun _ _ => ⟨rfl, rfl⟩⟩)
      · exact twins_pure ⟨h.together, fun _ _ => ⟨rfl, rfl⟩⟩
  | false =>
    have hobject := dependent_secret hns
    rw [hkey] at hobject
    have hsame := hobject ▸ h.own .secret
    refine twins_get (by rw [hsame]) ?_
    cases hs : c.get? .secret ⟨key.ns, a.ownSecretName⟩ with
    | some s =>
      dsimp only
      split
      · refine twins_tell (setReference_stops hc hd hkey h.together hget hget hget' ?_)
        rw [hsame, hs]
        exact ⟨rfl, rfl⟩
      · exact twins_fail ⟨h.together, nofun⟩
    | none =>
      refine twins_lift (fun s hmade => ?_) fun _ => ⟨h.together, nofun⟩
      have hplace : Kind.secret.key s = ⟨key.ns, a.ownSecretName⟩ :=
        hkey ▸ Dependent.key_eq (k := .secret) (makeSecret_eq_ok hmade).1
      refine twins_attempt (Cluster.create_beside hplace hs (hsame.trans hs)) hc hd
        fun c' d' hc' hd' hbeside hthere => twins_tell ?_
      refine setReference_stops hc' hd' hkey (h.together.beside (hobject ▸ hbeside) rfl) hget ?_ ?_
        hthere
      · rw [Cluster.get?_congr (hbeside.left.kinds _ (by decide)), hget]
      · rw [Cluster.get?_congr (hbeside.right.kinds _ (by decide)), hget']

theorem configurationStep_twins (hc : c.Ready) (hd : d.Ready)
    (hkey : Kind.authenticator.key a = key)
    (hsame : d.get? .configMap (key.dependent .configMap) =
      c.get? .configMap (key.dependent .configMap)) :
    (a.configurationStep settings).Twins (fun _ c' d' =>
      Cluster.Beside .configMap (key.dependent .configMap) c d c' d') c d := by
  have hrefl := Cluster.beside_refl hsame
  refine twins_lift (fun ns hns => ?_) fun _ => hrefl
  refine twins_lift (fun desired hmade => ?_) fun _ => hrefl
  have hobject : key.dependent .configMap = ⟨ns, a.ownConfigMapName⟩ :=
    hkey ▸ dependent_configMap (ownNamespace_eq_ok_iff.1 hns)
  rw [hobject] at hsame hrefl ⊢
  refine twins_get (by rw [hsame]) ?_
  cases hfound : c.get? .configMap ⟨ns, a.ownConfigMapName⟩ with
  | none =>
    have hplace : Kind.configMap.key desired = ⟨ns, a.ownConfigMapName⟩ := by
      rw [← hobject, ← hkey]
      exact Dependent.key_eq (k := .configMap) (makeConfigMap_eq_ok hmade).1
    exact twins_attempt (Cluster.create_beside hplace hfound (hsame.trans hfound)) hc hd
      fun _ _ _ _ hbeside _ => twins_tell (twins_pure hbeside)
  | some found =>
    dsimp only
    split
    · exact twins_fail hrefl
    · split
      · exact twins_pure hrefl
      · have hplace : Kind.configMap.key { found with data := desired.data } =
            ⟨ns, a.ownConfigMapName⟩ := by
          rw [← hc.wellKept.key_eq hfound]
          rfl
        have hwrites := hc.update_beside hd hplace hfound (hsame.trans hfound) rfl
        exact twins_tell (twins_attempt hwrites hc hd fun _ _ _ _ hbeside _ => twins_pure hbeside)

theorem chooseReplicas_of_fixed (h : a.spec.adaptiveScale = false) :
    a.chooseReplicas = pure a.spec.replicas := by
  simp [chooseReplicas, h]

theorem standaloneStep_twins (hc : c.Ready) (hd : d.Ready)
    (hkey : Kind.authenticator.key a = key) (hfixed : a.spec.adaptiveScale = false)
    (hsame : d.get? .deployment (key.dependent .deployment) =
      c.get? .deployment (key.dependent .deployment)) :
    (a.standaloneStep secret map settings).Twins (fun _ c' d' =>
      Cluster.Beside .deployment (key.dependent .deployment) c d c' d') c d := by
  have hrefl := Cluster.beside_refl hsame
  refine twins_lift (fun ns hns => ?_) fun _ => hrefl
  rw [chooseReplicas_of_fixed hfixed]
  refine twins_lift (fun desired hmade => ?_) fun _ => hrefl
  have hobject : key.dependent .deployment = ⟨ns, a.ownDeploymentName⟩ :=
    hkey ▸ dependent_deployment (ownNamespace_eq_ok_iff.1 hns)
  rw [hobject] at hsame hrefl ⊢
  refine twins_get (by rw [hsame]) ?_
  cases hfound : c.get? .deployment ⟨ns, a.ownDeploymentName⟩ with
  | none =>
    have hplace : Kind.deployment.key desired = ⟨ns, a.ownDeploymentName⟩ := by
      rw [← hobject, ← hkey]
      exact Dependent.key_eq (k := .deployment) (makeDeployment_eq_ok hmade).1
    exact twins_attempt (Cluster.create_beside hplace hfound (hsame.trans hfound)) hc hd
      fun _ _ _ _ hbeside _ => twins_tell (twins_pure hbeside)
  | some found =>
    dsimp only
    split
    · exact twins_fail hrefl
    · split
      · exact twins_pure hrefl
      · have hplace : Kind.deployment.key { found with spec := desired.spec } =
            ⟨ns, a.ownDeploymentName⟩ := by
          rw [← hc.wellKept.key_eq hfound]
          rfl
        have hwrites := hc.update_beside hd hplace hfound (hsame.trans hfound) rfl
        exact twins_tell (twins_attempt hwrites hc hd fun _ _ _ _ hbeside _ => twins_pure hbeside)

theorem reportStep_twins {n : Int32} (hc : c.Ready) (hd : d.Ready)
    (hget : c.get? .authenticator key = some a) (hget' : d.get? .authenticator key = some a) :
    (a.reportStep n).Twins (fun _ c' d' => Cluster.Beside .authenticator key c d c' d') c d := by
  unfold reportStep
  split
  · exact twins_pure (Cluster.beside_refl (hget'.trans hget.symm))
  · have hplace : Kind.authenticator.key (a.reporting n) = key := by
      rw [← hc.wellKept.key_eq hget]
      rfl
    exact twins_attempt (hc.updateStatus_beside hd hplace hget hget' rfl) hc hd
      fun _ _ _ _ hbeside _ => twins_tell (twins_pure hbeside)

/-! ## The whole pass -/

/-- Each step reads what no step before it has written, so both sides stay together to the end. -/
theorem converge_twins (hc : c.Ready) (hd : d.Ready) (hget : c.get? .authenticator key = some a)
    (alone : a.spec.mode = .standalone) (hfixed : a.spec.adaptiveScale = false)
    (h : Cluster.Agrees key a c d) :
    (a.converge settings fresh).Twins (fun _ => Cluster.Together key c d) c d := by
  have hkey := hc.wellKept.key_eq hget
  have hget' := (key.dependent_authenticator ▸ h.own .authenticator).trans hget
  refine (credentialsStep_twins hc hd hget h).thenStep hc hd (fun _ _ _ hr => hr.1) ?_
  rintro secret c₁ d₁ - - ⟨-, hsame⟩
  obtain ⟨rfl, rfl⟩ := hsame secret rfl
  refine (configurationStep_twins hc hd hkey (h.own .configMap)).thenStep hc hd
    (fun _ _ _ hb => h.together.beside hb rfl) ?_
  intro map c₂ d₂ hc₂ hd₂ hb₂
  have together₂ := h.together.beside hb₂ rfl
  have deployment₂ : c₂.get? .deployment (key.dependent .deployment) =
      c₁.get? .deployment (key.dependent .deployment) :=
    Cluster.get?_congr (hb₂.left.kinds _ (by decide)) _
  rw [proxyStep_of_standalone alone]
  have hproxy : (a.standaloneStep secret map settings).Twins (fun _ c' d' =>
      Cluster.Beside .deployment (key.dependent .deployment) c₂ d₂ c' d') c₂ d₂ := by
    refine standaloneStep_twins hc₂ hd₂ hkey hfixed ?_
    rw [deployment₂, Cluster.get?_congr (hb₂.right.kinds _ (by decide)), h.own]
  refine hproxy.thenStep hc₂ hd₂ (fun _ _ _ hb => together₂.beside hb deployment₂) ?_
  intro ready c₃ d₃ hc₃ hd₃ hb₃
  have together₃ := together₂.beside hb₃ deployment₂
  have hget₃ : c₃.get? .authenticator key = some a := by
    rw [Cluster.get?_congr (hb₃.left.kinds _ (by decide)),
      Cluster.get?_congr (hb₂.left.kinds _ (by decide)), hget]
  have hget₃' : d₃.get? .authenticator key = some a := by
    rw [Cluster.get?_congr (hb₃.right.kinds _ (by decide)),
      Cluster.get?_congr (hb₂.right.kinds _ (by decide)), hget']
  have hreport : ∀ r : Except Error (Progress Unit), ∀ c' d',
      Cluster.Beside .authenticator key c₃ d₃ c' d' → Cluster.Together key c₁ d₁ c' d' := by
    intro _ c' d' hb
    refine together₃.beside (k := .authenticator) ?_ ?_
    · rw [key.dependent_authenticator]
      exact hb
    · rw [key.dependent_authenticator, hget₃, hget]
  exact (reportStep_twins hc₃ hd₃ hget₃ hget₃').thenStep hc₃ hd₃ hreport
    fun _ c' d' _ _ hb => twins_pure (hreport (.ok (.proceed ())) c' d' hb)

/-- **What a pass does depends only on what lies under its own names**, and on the Secret that the
authenticator refers to. -/
theorem pass_twins (hc : c.Ready) (hd : d.Ready) (hget : c.get? .authenticator key = some a)
    (alone : a.spec.mode = .standalone) (hfixed : a.spec.adaptiveScale = false)
    (h : Cluster.Agrees key a c d) (settings : Settings) (fresh : Credentials) :
    (pass settings key.ns key.name fresh).Twins (fun _ => Cluster.Together key c d) c d := by
  have hsame : d.get? .authenticator ⟨key.ns, key.name⟩ =
      c.get? .authenticator ⟨key.ns, key.name⟩ := key.dependent_authenticator ▸ h.own .authenticator
  refine twins_get (by rw [hsame]) ?_
  rw [show c.get? .authenticator ⟨key.ns, key.name⟩ = some a from hget]
  exact converge_twins hc hd hget alone hfixed h

/-! ## Two passes -/

/-- `a` is a standalone authenticator at `key` with a fixed number of replicas, and does not refer
to the Secret that is generated for the authenticator at `other`. -/
structure Independent (c : Cluster) (key : ObjectName) (a : Authenticator) (other : ObjectName) :
    Prop where
  found : c.get? .authenticator key = some a
  alone : a.spec.mode = .standalone
  fixed : a.spec.adaptiveScale = false
  apart : (⟨key.ns, a.spec.credentialsSecretRef⟩ : ObjectName) ≠ other.dependent .secret

variable {b : Authenticator} {x y : ObjectName}

/-- Where only another authenticator and its dependents have changed, everything is as it was. -/
theorem Independent.agrees (h : Independent c x a y) (hne : x ≠ y) (hown : Cluster.OnlyOwn y c d) :
    Cluster.Agrees x a c d :=
  ⟨fun k => hown k _ fun heq => hne (ObjectName.dependent_inj heq), hown .secret _ h.apart⟩

/-- A pass does the same after a pass over another authenticator as before it. -/
theorem Independent.pass_twins (ha : Independent c x a y) (hb : Independent c y b x) (hne : x ≠ y)
    (hc : c.Ready) (settings settings' : Settings) (fresh fresh' : Credentials) :
    (pass settings x.ns x.name fresh).Twins
      (fun _ => Cluster.Together x c
        ((pass settings' y.ns y.name fresh').run Cluster.answer c).store) c
      ((pass settings' y.ns y.name fresh').run Cluster.answer c).store := by
  have hself : Cluster.Agrees y b c c := ⟨fun _ => rfl, rfl⟩
  have hother := Authenticator.pass_twins hc hc hb.found hb.alone hb.fixed hself settings' fresh'
  exact Authenticator.pass_twins hc (hc.run _) ha.found ha.alone ha.fixed
    (ha.agrees hne hother.2.left) settings fresh

/-- **Passes over independent authenticators commute.** In whichever order two passes run, over
different standalone authenticators with fixed numbers of replicas of which neither refers to the
Secret that is generated for the other, each of them ends in the same way, and the clusters that
they leave hold the same under the same names: but for the versions, and for the uids of what was
not there before. -/
theorem passes_commute (h : c.Reachable) (calm : c.pendingConflict = none) (hne : x ≠ y)
    (ha : Independent c x a y) (hb : Independent c y b x) (settings settings' : Settings)
    (fresh fresh' : Credentials) :
    let xFirst := (pass settings x.ns x.name fresh).run Cluster.answer c
    let yAfter := (pass settings' y.ns y.name fresh').run Cluster.answer xFirst.store
    let yFirst := (pass settings' y.ns y.name fresh').run Cluster.answer c
    let xAfter := (pass settings x.ns x.name fresh).run Cluster.answer yFirst.store
    xFirst.result = xAfter.result ∧ yFirst.result = yAfter.result ∧
      ∀ k key, (yAfter.store.get? k key).map (k.unstamped (c.get? k key).isNone) =
        (xAfter.store.get? k key).map (k.unstamped (c.get? k key).isNone) := by
  intro xFirst yAfter yFirst xAfter
  have hc : c.Ready := ⟨h.wellKept, calm⟩
  obtain ⟨hresult, hx⟩ := ha.pass_twins hb hne hc settings settings' fresh fresh'
  obtain ⟨hresult', hy⟩ := hb.pass_twins ha hne.symm hc settings' settings fresh' fresh
  refine ⟨hresult.symm, hresult'.symm, fun k key => ?_⟩
  have hdependent : x.dependent k ≠ y.dependent k := fun heq => hne (ObjectName.dependent_inj heq)
  by_cases hkey : key = x.dependent k
  · subst hkey
    rw [hy.right k _ hdependent]
    exact hx.alike k
  · by_cases hkey' : key = y.dependent k
    · subst hkey'
      rw [hx.right k _ hdependent.symm]
      exact (hy.alike k).symm
    · -- Neither pass has this name.
      rw [hy.right k key hkey', hx.left k key hkey, hx.right k key hkey, hy.left k key hkey']

/-- Two authenticators before the operator has seen them. Each pass creates a Secret, and which of
the Secrets gets which uid depends on the order. -/
def gateAndDoor : Cluster :=
  .ofChanges [
    .place .authenticator .gate,
    .place .authenticator { gate with metadata := { name := some "door", ns := some "apps" } }]

theorem passes_commute_of_gate_and_door :
    let gateFirst := (pass {} "apps" "gate" ⟨"user", "word"⟩).run Cluster.answer gateAndDoor
    let doorAfter := (pass {} "apps" "door" ⟨"other", "word"⟩).run Cluster.answer gateFirst.store
    let doorFirst := (pass {} "apps" "door" ⟨"other", "word"⟩).run Cluster.answer gateAndDoor
    let gateAfter := (pass {} "apps" "gate" ⟨"user", "word"⟩).run Cluster.answer doorFirst.store
    let uid (c : Cluster) := (c.get? .secret ⟨"apps", "door-credentials"⟩).bind (·.metadata.uid)
    gateFirst.result = gateAfter.result ∧
      uid doorAfter.store = some "uid-4" ∧ uid gateAfter.store = some "uid-3" ∧
      (doorAfter.store.get? .secret ⟨"apps", "door-credentials"⟩).map
          (Kind.secret.unstamped true) =
        (gateAfter.store.get? .secret ⟨"apps", "door-credentials"⟩).map
          (Kind.secret.unstamped true) := by
  intro gateFirst doorAfter doorFirst gateAfter uid
  have hreachable : gateAndDoor.Reachable := Cluster.reachable_ofChanges _
  have hgate : Independent gateAndDoor ⟨"apps", "gate"⟩ { gate with metadata := {
      name := some "gate", ns := some "apps", uid := some "uid-1", resourceVersion := some "1" } }
      ⟨"apps", "door"⟩ :=
    ⟨by decide +kernel, rfl, rfl, by decide +kernel⟩
  have hdoor : Independent gateAndDoor ⟨"apps", "door"⟩ { gate with metadata := {
      name := some "door", ns := some "apps", uid := some "uid-2", resourceVersion := some "2" } }
      ⟨"apps", "gate"⟩ :=
    ⟨by decide +kernel, rfl, rfl, by decide +kernel⟩
  obtain ⟨hresult, -, halike⟩ := passes_commute hreachable (by decide +kernel) (by decide) hgate
    hdoor {} {} ⟨"user", "word"⟩ ⟨"other", "word"⟩
  have hnew : (gateAndDoor.get? .secret ⟨"apps", "door-credentials"⟩).isNone = true := by
    decide +kernel
  have hsecret := halike .secret ⟨"apps", "door-credentials"⟩
  rw [hnew] at hsecret
  exact ⟨hresult, by decide +kernel, by decide +kernel, hsecret⟩

end Authenticator

end AuthProxy
