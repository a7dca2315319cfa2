import AuthProxy.Proofs.Pass.Foreign
import AuthProxy.Proofs.Pass.Idempotence
import AuthProxy.Proofs.Traffic.Effects

/-! # No takeover

A pass checks on a copy whether it owns an object, and writes later; in between the object may get
another owner. Still an update only ever replaces an object of the authenticator's own, because it
is refused unless the copy is what is stored. And where the copy is someone else's, the pass is
over.
-/

namespace AuthProxy

namespace Underway.Keeps

variable {u : Underway} {a : Authenticator}

/-- An authenticator that was read is the one that the pass began with. -/
theorem fetched_of_hasRead (h : u.Keeps GuardedCall GuardedEnd)
    (hread : u.calls.HasRead .authenticator u.key a) : u.calls.Fetched u.key a := by
  obtain ⟨earlier, later, heq⟩ := List.append_of_mem hread
  obtain rfl := (h.made _ _ _ heq).first _ _ rfl
  rw [Path.Fetched, heq]
  rfl

/-- A pass that found someone else's object where it matters is over. -/
theorem ended_of_foreign (h : u.Keeps GuardedCall GuardedEnd) {earlier later : Path}
    {r : CallRecord} (heq : u.calls = earlier ++ r :: later) (hfetched : u.calls.Fetched u.key a)
    (hforeign : r.FindsForeign a u.key earlier) (hne : earlier ≠ []) :
    later = [] ∧ ∃ text, u.rest.result? = some (.error (.invariantViolation text)) := by
  have hbefore : Path.Fetched earlier u.key a := by
    cases earlier with
    | nil => exact absurd rfl hne
    | cons x rest => rw [heq] at hfetched; exact hfetched
  have hends : Path.EndsForeign (earlier ++ [r]) u.key :=
    hbefore.endsForeign_snoc.2 hforeign
  cases later with
  | cons x rest =>
    -- The next call would have followed someone else's object.
    rw [List.append_cons] at heq
    exact absurd hends (h.made _ _ _ heq).not_foreign
  | nil =>
    refine ⟨rfl, ?_⟩
    rw [← heq] at hends
    cases hn : u.rest.nextCall? with
    | some n =>
      obtain ⟨hcall, -⟩ := h.left.nextCall (c := n.1) hn
      exact absurd hends hcall.not_foreign
    | none =>
      obtain ⟨r, hr⟩ := Program.result?_of_nextCall? hn
      obtain ⟨text, rfl⟩ := h.left.result hr hends
      exact ⟨text, hr⟩

end Underway.Keeps

/-- An update of a pass finds the authenticator's own object in the place of a ConfigMap or of the
Deployment of a standalone proxy. -/
theorem Effect.update_owned {u : Underway} {c c' : Cluster} {k : Kind} {o stored : k.Object}
    (h : Effect u c c' ⟨.update k o, .ok stored⟩) (hu : u.Sound c) (hc : c.WellKept) :
    ∃ a, u.calls.HasRead .authenticator u.key a ∧
      (k = .configMap ∨ k = .deployment ∧ a.spec.mode = .standalone →
        k.key o = u.key.dependent k ∧ ∃ found, c.get? k (k.key o) = some found ∧
          a.owns (k.metadata found) = true) := by
  cases h with
  | nothing _ refused =>
    obtain ⟨e, he⟩ := refused rfl
    cases he
  | referenceSet read =>
    refine ⟨_, read, ?_⟩
    rintro (h | ⟨h, -⟩) <;> cases h
  | @configMapUpdated a ns found _ desired _ read ns_eq owned before =>
    have hkey : Kind.configMap.key found = u.key.dependent .configMap := by
      rw [hc.key_eq before, ← (hu.read read).1, Authenticator.dependent_configMap ns_eq]
    exact ⟨a, read, fun _ => ⟨hkey, found, hc.key_eq before ▸ before, owned⟩⟩
  | @deploymentUpdated a ns _ _ _ found _ desired _ read alone ns_eq owned made before =>
    have hkey : Kind.deployment.key found = u.key.dependent .deployment := by
      rw [hc.key_eq before, ← (hu.read read).1, Authenticator.dependent_deployment ns_eq]
    exact ⟨a, read, fun _ => ⟨hkey, found, hc.key_eq before ▸ before, owned⟩⟩
  | injected read along =>
    refine ⟨_, read, ?_⟩
    rintro (h | ⟨-, alone⟩)
    · cases h
    · rw [along] at alone
      cases alone

namespace Traffic

/-- **Objects of others are never taken over**, in whatever traffic. Where an update of the
ConfigMap or of the Deployment of a standalone proxy succeeds, the object that it replaces has the
uid of the authenticator, as the pass has fetched it, among its owners. And where a pass reads, in
the place of a dependent, an object that has not, it ends with this call and an error, and has not
tried to write an object of that kind. -/
theorem foreign_objects_are_left_alone {c : Cluster} (h : c.Reachable) (es : List Event) :
    let t := after c es
    (∀ i failure u k (o stored : k.Object), t.passes[i]? = some u →
      (t.step (.call i failure)).calls = t.calls ++ [⟨.update k o, .ok stored⟩] →
      ∃ a, u.calls.Fetched u.key a ∧
        (k = .configMap ∨ k = .deployment ∧ a.spec.mode = .standalone →
          k.key o = u.key.dependent k ∧
          ∃ found uid, t.cluster.get? k (k.key o) = some found ∧ a.metadata.uid = some uid ∧
            ∃ r ∈ (k.metadata found).owners, r.uid = uid)) ∧
    ∀ u ∈ t.passes, ∀ a, u.calls.Fetched u.key a → ∀ earlier later k (o : k.Object),
      u.calls = earlier ++
        ⟨.get k (u.key.dependent k).ns (u.key.dependent k).name, .ok (some o)⟩ :: later →
      a.Minds u.key earlier k →
      (¬ ∃ uid, a.metadata.uid = some uid ∧ ∃ r ∈ (k.metadata o).owners, r.uid = uid) →
      later = [] ∧ u.calls.Spares k ∧
        ∃ text, u.rest.result? = some (.error (.invariantViolation text)) := by
  intro t
  have hsound : t.Sound := sound_after h.wellKept es
  have hkeeps := keeps_after Authenticator.pass_guarded c es
  constructor
  · intro i failure u k o stored hu hcalls
    rcases t.step_call i failure with hs | ⟨v, call, r, hs⟩
    · rw [hs] at hcalls
      exact absurd hcalls (by simp)
    obtain rfl : u = v := Option.some.inj (hu.symm.trans hs.pass)
    rw [hs.calls] at hcalls
    obtain heq := List.singleton_inj.1 (List.append_cancel_left hcalls)
    have hmem := List.mem_of_getElem? hu
    obtain ⟨a, hread, hown⟩ := Effect.update_owned (heq ▸ hsound.effect hs)
      (hsound.passes u hmem) hsound.wellKept
    refine ⟨a, (hkeeps u hmem).fetched_of_hasRead hread, fun hk => ?_⟩
    obtain ⟨hobject, found, hfound, howned⟩ := hown hk
    obtain ⟨uid, huid, howner⟩ := Authenticator.owns_eq_true_iff.1 howned
    exact ⟨hobject, found, uid, hfound, huid, howner⟩
  · intro u hu a hfetched earlier later k o heq hminds hother
    have hforeign : CallRecord.FindsForeign a u.key earlier
        ⟨.get k (u.key.dependent k).ns (u.key.dependent k).name, .ok (some o)⟩ := by
      refine ⟨rfl, ?_, hminds⟩
      rw [← Bool.not_eq_true, Authenticator.owns_eq_true_iff]
      exact hother
    have hne : earlier ≠ [] := by
      rintro rfl
      rw [Path.Fetched, heq] at hfetched
      obtain ⟨hk, -⟩ := Call.get.inj (CallRecord.mk.inj (Option.some.inj hfetched)).1
      subst hk
      exact hminds
    obtain ⟨rfl, htext⟩ := (hkeeps u hu).ended_of_foreign heq hfetched hforeign hne
    refine ⟨rfl, ?_, htext⟩
    rw [heq]
    rcases ((hkeeps u hu).made _ _ _ heq).early _ _ _ rfl with hspares | ⟨rfl, hasked⟩
    · exact hspares.snoc fun hwrite => by cases hwrite
    · exact absurd hasked hminds.2

set_option maxRecDepth 10000 in
/-- A pass is about to update its own ConfigMap; another pass has found that of a stranger. -/
theorem foreign_objects_are_left_alone_by_gates :
    (let t := after Authenticator.drifted [.start {} ⟨"apps", "gate"⟩ ⟨"user", "word"⟩,
        .call 0 none, .call 0 none, .call 0 none]
      ∃ found uid, t.cluster.get? .configMap ⟨"apps", "gate-nginx-conf"⟩ = some found ∧
        some "uid-of-gate" = some uid ∧ ∃ r ∈ found.metadata.owners, r.uid = uid) ∧
    let t := after (.ofChanges [
        .place .secret { metadata := { name := some "users", ns := some "apps" } },
        .place .authenticator
          { Authenticator.gate with spec := { Authenticator.gate.spec with
              credentialsSecretRef := "users" } },
        .place .configMap { metadata := { name := some "gate-nginx-conf", ns := some "apps" } }])
      [.start {} ⟨"apps", "gate"⟩ ⟨"user", "word"⟩, .call 0 none, .call 0 none, .call 0 none]
    ∀ u ∈ t.passes, u.calls.Spares .configMap ∧
      ∃ text, u.rest.result? = some (.error (.invariantViolation text)) := by
  constructor
  · intro t
    have hreachable : Authenticator.drifted.Reachable := Cluster.reachable_ofChanges _
    obtain ⟨a, hfetched, hown⟩ := (foreign_objects_are_left_alone hreachable
      [.start {} ⟨"apps", "gate"⟩ ⟨"user", "word"⟩, .call 0 none, .call 0 none, .call 0 none]).1
      0 none _ .configMap _ _ rfl rfl
    obtain ⟨-, hfound⟩ := hown (.inl rfl)
    obtain rfl := hfetched.unique rfl
    exact hfound
  · intro t u hu
    obtain rfl := List.mem_singleton.1 hu
    obtain ⟨-, hspares, htext⟩ := (foreign_objects_are_left_alone (Cluster.reachable_ofChanges _)
      _).2 _ hu _ rfl [_, _] [] .configMap _ rfl trivial (by rintro ⟨_, -, r, hr, -⟩; cases hr)
    exact ⟨hspares, htext⟩

end Traffic

end AuthProxy
