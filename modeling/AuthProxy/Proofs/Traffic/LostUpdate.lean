import AuthProxy.Proofs.Traffic.Effects

/-! # No lost update

A pass writes back a whole authenticator that it read several calls before. In any traffic what it
replaces is nevertheless the authenticator it has read, and it changes nothing but the reference,
from empty, or the report; so no change from outside is overwritten.
-/

namespace AuthProxy

namespace Authenticator

/-- `after` is `before`, but for the version and a reference to the own Secret, which was empty. -/
def SetsReference (before after : Authenticator) : Prop :=
  before.spec.credentialsSecretRef = "" ∧ ∃ v, after = { before with
    metadata := { before.metadata with resourceVersion := v }
    spec := { before.spec with credentialsSecretRef := before.nameAny ++ "-credentials" } }

/-- `after` is `before`, but for the version and the number of ready replicas in the status. -/
def ReportsReady (before after : Authenticator) : Prop :=
  ∃ v n, after = { before with
    metadata := { before.metadata with resourceVersion := v }
    status := some { readyReplicas := n } }

variable {before after : Authenticator}

theorem SetsReference.key_eq (h : before.SetsReference after) :
    Kind.authenticator.key after = Kind.authenticator.key before := by
  obtain ⟨-, v, rfl⟩ := h
  rfl

theorem ReportsReady.key_eq (h : before.ReportsReady after) :
    Kind.authenticator.key after = Kind.authenticator.key before := by
  obtain ⟨v, n, rfl⟩ := h
  rfl

/-- A reference that is set is kept. -/
theorem reference_kept
    (h : after = before ∨ before.SetsReference after ∨ before.ReportsReady after)
    (hset : before.spec.credentialsSecretRef ≠ "") :
    after.spec.credentialsSecretRef = before.spec.credentialsSecretRef := by
  rcases h with rfl | ⟨hunset, -⟩ | ⟨v, n, rfl⟩
  · rfl
  · exact absurd hunset hset
  · rfl

end Authenticator

/-- Whether the call is a write of the kind that took place. -/
def CallRecord.wrote (r : CallRecord) (k : Kind) : Bool :=
  r.call.operation.isWrite && r.call.kind = k && r.result.isOk

/-- What a call of the pass `u` changes of an authenticator that the pass has read. -/
structure Rewrites (u : Underway) (c c' : Cluster) (before after : Authenticator) : Prop where
  read : u.calls.HasRead .authenticator u.key before
  found : c.get? .authenticator u.key = some before
  left : c'.get? .authenticator u.key = some after
  others : ∀ key, key ≠ u.key → c'.get? .authenticator key = c.get? .authenticator key
  change : before.SetsReference after ∨ before.ReportsReady after

theorem rewrites_of_written {u : Underway} {c c' : Cluster} {before after : Authenticator}
    (hc : c.WellKept) (read : u.calls.HasRead .authenticator u.key before)
    (hbefore : c.get? .authenticator u.key = some before)
    (written : Cluster.Written c c' .authenticator after)
    (change : before.SetsReference after ∨ before.ReportsReady after) :
    Rewrites u c c' before after := by
  have hkey : Kind.authenticator.key after = u.key := by
    rw [← hc.key_eq hbefore]
    rcases change with h | h
    · exact h.key_eq
    · exact h.key_eq
  exact ⟨read, hbefore, hkey ▸ written.get?_self,
    fun key hne => written.get?_of_ne_key (hkey ▸ hne),
    change⟩

/-- A call of a pass leaves all authenticators as they are, or it is a write to the one that the
pass is about. The reference is set only once there are credentials. -/
theorem Effect.authenticators {u : Underway} {c c' : Cluster} {r : CallRecord}
    (h : Effect u c c' r) (hc : c.WellKept) :
    (r.wrote .authenticator = false ∧
        ∀ key, c'.get? .authenticator key = c.get? .authenticator key) ∨
      ∃ before after, Rewrites u c c' before after ∧
        (after.spec.credentialsSecretRef ≠ before.spec.credentialsSecretRef →
          u.calls.HasCredentials before u.fresh) := by
  cases h with
  | @nothing call r same refused =>
    refine .inl ⟨?_, same.get? .authenticator⟩
    cases hw : call.operation.isWrite with
    | false => simp [CallRecord.wrote, hw]
    | true =>
      obtain ⟨e, rfl⟩ := refused hw
      simp [CallRecord.wrote, Except.isOk, Except.toBool]
  | secretCreated _ _ _ _ _ written => exact .inl ⟨rfl, written.get?_of_ne_kind (by decide)⟩
  | configMapCreated _ _ _ _ written => exact .inl ⟨rfl, written.get?_of_ne_kind (by decide)⟩
  | deploymentCreated _ _ _ _ _ written => exact .inl ⟨rfl, written.get?_of_ne_kind (by decide)⟩
  | configMapUpdated _ _ _ _ _ written => exact .inl ⟨rfl, written.get?_of_ne_kind (by decide)⟩
  | deploymentUpdated _ _ _ _ _ _ _ written =>
    exact .inl ⟨rfl, written.get?_of_ne_kind (by decide)⟩
  | injected _ _ _ _ _ _ written => exact .inl ⟨rfl, written.get?_of_ne_kind (by decide)⟩
  | @referenceSet a stored v read unset there before stored_eq written =>
    refine .inr ⟨a, stored, rewrites_of_written hc read before written (.inl ⟨?_, v, stored_eq⟩),
      fun _ => there⟩
    exact Authenticator.hasReference_eq_false_iff.1 unset
  | @reported a stored n v read before stored_eq written =>
    refine .inr ⟨a, stored, rewrites_of_written hc read before written (.inr ⟨v, n, stored_eq⟩),
      fun hne => absurd ?_ hne⟩
    rw [stored_eq]
    rfl

namespace Traffic

/-- The event of a call either leaves all authenticators as they are, and is no successful write to
one, or is a write of a pass to the authenticator that it is about. -/
theorem Sound.authenticators {t : Traffic} (h : t.Sound) (i : Nat) (failure : Option Failure) :
    ((∀ r, (t.step (.call i failure)).calls = t.calls ++ [r] → r.wrote .authenticator = false) ∧
      ∀ key, (t.step (.call i failure)).cluster.get? .authenticator key =
        t.cluster.get? .authenticator key) ∨
      ∃ u before after, t.passes[i]? = some u ∧
        Rewrites u t.cluster (t.step (.call i failure)).cluster before after ∧
        (after.spec.credentialsSecretRef ≠ before.spec.credentialsSecretRef →
          u.calls.HasCredentials before u.fresh) := by
  rcases t.step_call i failure with hs | ⟨u, call, r, hs⟩
  · rw [hs]
    exact .inl ⟨fun r hr => by simp at hr, fun key => rfl⟩
  · rcases (h.effect hs).authenticators h.wellKept with ⟨hw, hsame⟩ | ⟨before, after, hre, hthere⟩
    · refine .inl ⟨fun r' hr' => ?_, hsame⟩
      rw [hs.calls] at hr'
      obtain rfl := List.singleton_inj.1 (List.append_cancel_left hr')
      exact hw
    · exact .inr ⟨u, before, after, hs.pass, hre, hthere⟩

/-- What the event of a call can make of a stored authenticator. -/
theorem Sound.authenticator_kept {t : Traffic} (h : t.Sound) (i : Nat) (failure : Option Failure)
    {key : ObjectName} {before : Authenticator}
    (hb : t.cluster.get? .authenticator key = some before) :
    ∃ after, (t.step (.call i failure)).cluster.get? .authenticator key = some after ∧
      (after = before ∨ before.SetsReference after ∨ before.ReportsReady after) := by
  rcases h.authenticators i failure with ⟨-, hsame⟩ | ⟨u, x, after, -, hre, -⟩
  · exact ⟨before, (hsame key).trans hb, .inl rfl⟩
  · by_cases hk : key = u.key
    · subst hk
      obtain rfl : x = before := Option.some.inj (hre.found.symm.trans hb)
      exact ⟨after, hre.left, .inr hre.change⟩
    · exact ⟨before, (hre.others key hk).trans hb, .inl rfl⟩

/-- **No lost update.** Whatever happened to a cluster, and whatever passes are under way: a
successful write of an authenticator finds stored what its pass has read, and changes the version
and either the empty reference or the report. No call changes an authenticator in another way. -/
theorem authenticator_write_is_based_on_read {c : Cluster} (h : c.Reachable) (es : List Event)
    (i : Nat) (failure : Option Failure) :
    let t := after c es
    let t' := t.step (.call i failure)
    (∀ r, t'.calls = t.calls ++ [r] → r.wrote .authenticator = true →
      ∃ u before after, t.passes[i]? = some u ∧ Rewrites u t.cluster t'.cluster before after) ∧
    (∀ key before, t.cluster.get? .authenticator key = some before →
      ∃ after, t'.cluster.get? .authenticator key = some after ∧
        (after = before ∨ before.SetsReference after ∨ before.ReportsReady after) ∧
        (before.spec.credentialsSecretRef ≠ "" →
          after.spec.credentialsSecretRef = before.spec.credentialsSecretRef)) ∧
    ∀ key, t.cluster.get? .authenticator key = none →
      t'.cluster.get? .authenticator key = none := by
  intro t t'
  have hs : t.Sound := sound_after h.wellKept es
  refine ⟨?_, ?_, ?_⟩
  · intro r hr hw
    rcases hs.authenticators i failure with ⟨hnone, -⟩ | ⟨u, before, after, hu, hre, -⟩
    · rw [hnone r hr] at hw
      cases hw
    · exact ⟨u, before, after, hu, hre⟩
  · intro key before hb
    obtain ⟨after, ha, hchange⟩ := hs.authenticator_kept i failure hb
    exact ⟨after, ha, hchange, Authenticator.reference_kept hchange⟩
  · intro key hkey
    rcases hs.authenticators i failure with ⟨-, hsame⟩ | ⟨u, before, after, -, hre, -⟩
    · exact (hsame key).trans hkey
    · have hne : key ≠ u.key := by
        rintro rfl
        rw [hre.found] at hkey
        cases hkey
      exact (hre.others key hne).trans hkey

/-- The fourth call of the first pass over an authenticator sets the reference. -/
theorem first_reference_is_based_on_read :
    let t := after (.ofChanges [.place .authenticator .gate])
      [.start {} ⟨"apps", "gate"⟩ ⟨"user", "word"⟩, .call 0 none, .call 0 none, .call 0 none]
    ∃ u before after, t.passes[0]? = some u ∧
      Rewrites u t.cluster (t.step (.call 0 none)).cluster before after :=
  (authenticator_write_is_based_on_read (Cluster.reachable_ofChanges _) _ 0 none).1
    (.mk (.update .authenticator _) (.ok _)) rfl rfl

end Traffic

end AuthProxy
