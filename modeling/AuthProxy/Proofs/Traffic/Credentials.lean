import AuthProxy.Proofs.Dependents
import AuthProxy.Proofs.Traffic.LostUpdate

/-! # Generated credentials

No pass changes a Secret that is stored. As long as nobody else does either, what was once read or
created under a name is what is stored there: so at most one creation takes place, and a reference
is set only while its Secret is there and belongs to the authenticator. Creation and reference are
two writes; passes may be cut off, or overtaken by others, between them.
-/

namespace AuthProxy

/-- The Secret that the call created under `key`, as it was stored. -/
def CallRecord.secretCreated? (key : ObjectName) : CallRecord → Option Secret
  | ⟨.create .secret s, .ok stored⟩ => if Kind.secret.key s = key then some stored else none
  | _ => none

/-- The Secrets that were created under `key`, the earliest first. -/
def Path.secretsCreated (past : Path) (key : ObjectName) : List Secret :=
  past.filterMap (·.secretCreated? key)

theorem CallRecord.secretCreated?_eq_some_iff {key : ObjectName} {r : CallRecord}
    {stored : Secret} :
    r.secretCreated? key = some stored ↔
      ∃ s, r = ⟨.create .secret s, .ok stored⟩ ∧ Kind.secret.key s = key := by
  constructor
  · intro h
    unfold secretCreated? at h
    split at h
    · next s x =>
      split at h
      · next hkey => cases h; exact ⟨s, rfl, hkey⟩
      · cases h
    · cases h
  · rintro ⟨s, rfl, hkey⟩
    simp [secretCreated?, hkey]

theorem Path.mem_secretsCreated {past : Path} {key : ObjectName} {stored : Secret} :
    stored ∈ past.secretsCreated key ↔
      ∃ s, past.HasCreated .secret s stored ∧ Kind.secret.key s = key := by
  simp only [secretsCreated, List.mem_filterMap, CallRecord.secretCreated?_eq_some_iff, HasCreated]
  constructor
  · rintro ⟨r, hr, s, rfl, hkey⟩
    exact ⟨s, hr, hkey⟩
  · rintro ⟨s, hs, hkey⟩
    exact ⟨_, hs, s, rfl, hkey⟩

/-- **A call of a pass leaves a stored Secret alone.** -/
theorem ObjectChange.secret_kept {u : Underway} {c c' : Cluster} (h : ObjectChange u c c')
    {key : ObjectName} {s : Secret} (hs : c.get? .secret key = some s) :
    c'.get? .secret key = some s := by
  cases h with
  | same same => rw [same.get?, hs]
  | added _ _ _ absent written => exact written.kept_of_absent absent hs
  | replaced kind _ _ written => rw [written.get?_of_ne_kind kind.symm, hs]

namespace Effect

variable {u : Underway} {c c' : Cluster} {r : CallRecord}

/-- A Secret is created only where there was none. -/
theorem secret_created {s stored : Secret} (h : Effect u c c' ⟨.create .secret s, .ok stored⟩) :
    c.get? .secret (Kind.secret.key s) = none ∧
      c'.get? .secret (Kind.secret.key s) = some stored ∧
        Cluster.CreatedFrom .secret s stored := by
  cases h with
  | nothing _ refused =>
    obtain ⟨e, he⟩ := refused rfl
    cases he
  | secretCreated _ _ _ absent created written =>
    exact ⟨absent, created.key ▸ written.get?_self, created⟩

end Effect

namespace Traffic

/-- What the calls so far tell about the Secret under `key`: it is the one that was read, and the
one that was created, and there was no other creation. -/
structure Shown (t : Traffic) (key : ObjectName) : Prop where
  read : ∀ s, t.calls.HasRead .secret key s → t.cluster.get? .secret key = some s
  created : ∀ s stored, t.calls.HasCreated .secret s stored → Kind.secret.key s = key →
    t.cluster.get? .secret key = some stored ∧ Cluster.CreatedFrom .secret s stored
  once : (t.calls.secretsCreated key).length ≤ 1

variable {t t' : Traffic} {key : ObjectName}

/-- Nothing else has to be known as long as no call is made. -/
theorem Shown.of_kept (h : t.Shown key) (hcalls : t'.calls = t.calls)
    (hkept : ∀ s, t.cluster.get? .secret key = some s → t'.cluster.get? .secret key = some s) :
    t'.Shown key where
  read := fun s hs => hkept s (h.read s (hcalls ▸ hs))
  created := fun s stored hs hkey =>
    (h.created s stored (hcalls ▸ hs) hkey).imp_left (hkept stored)
  once := hcalls ▸ h.once

/-- A call keeps what is known: what it reads is stored, and it creates only what was not there. -/
theorem Shown.call (h : t.Shown key) (hsound : t.Sound) {i : Nat} {u : Underway}
    {failure : Option Failure} {call : Call} {r : call.Result}
    (hs : t.Calls i u failure call r t') : t'.Shown key := by
  have heffect := hsound.effect hs
  have hkept : ∀ s, t.cluster.get? .secret key = some s → t'.cluster.get? .secret key = some s :=
    fun s => (hsound.objectChange hs).secret_kept
  refine ⟨?_, ?_, ?_⟩
  · intro s hread
    rw [Path.HasRead, hs.calls, List.mem_append, List.mem_singleton] at hread
    rcases hread with hread | hread
    · exact hkept s (h.read s hread)
    · obtain ⟨rfl, hr⟩ := CallRecord.mk.inj hread
      have hdelivered : (deliver failure (.get .secret key.ns key.name) t.cluster).1 =
          .ok (some s) := by rw [hs.delivered, eq_of_heq hr]
      exact hkept s (deliver_get hdelivered).1
  · intro s stored hcreated hkey
    rw [Path.HasCreated, hs.calls, List.mem_append, List.mem_singleton] at hcreated
    rcases hcreated with hcreated | hcreated
    · exact (h.created s stored hcreated hkey).imp_left (hkept stored)
    · obtain ⟨-, hstored, hfrom⟩ := Effect.secret_created (hcreated ▸ heffect)
      exact ⟨hkey ▸ hstored, hfrom⟩
  · rw [Path.secretsCreated, hs.calls, List.filterMap_append, List.length_append]
    cases hr : CallRecord.secretCreated? key ⟨call, r⟩ with
    | none => simpa [Path.secretsCreated, hr] using h.once
    | some stored =>
      obtain ⟨s, heq, hkey⟩ := CallRecord.secretCreated?_eq_some_iff.1 hr
      obtain ⟨habsent, -, -⟩ := Effect.secret_created (heq ▸ heffect)
      -- A creation before this one would have left its Secret there.
      have hnone : t.calls.secretsCreated key = [] := by
        apply List.eq_nil_iff_forall_not_mem.2
        intro x hx
        obtain ⟨y, hy, hykey⟩ := Path.mem_secretsCreated.1 hx
        rw [hkey, (h.created y x hy hykey).1] at habsent
        cases habsent
      rw [Path.secretsCreated] at hnone
      simp [hnone, hr]

/-- Where the changes from outside among the events find a Secret under `key`, they leave it as it
is. -/
def SparesSecret (c : Cluster) (es : List Event) (key : ObjectName) : Prop :=
  ∀ earlier x later, es = earlier ++ .change x :: later →
    ∀ s, (after c earlier).cluster.get? .secret key = some s →
      (x.apply (after c earlier).cluster).get? .secret key = some s

theorem SparesSecret.earlier {c : Cluster} {es : List Event} {e : Event}
    (h : SparesSecret c (es ++ [e]) key) : SparesSecret c es key := by
  intro earlier x later hes
  refine h earlier x (later ++ [e]) ?_
  simp only [hes, List.append_assoc, List.cons_append]

theorem shown_after {c : Cluster} (h : c.WellKept) (es : List Event)
    (spared : SparesSecret c es key) : (after c es).Shown key := by
  induction es using List.reverseRecOn with
  | nil =>
    refine ⟨fun s hs => absurd hs List.not_mem_nil, fun s x hs => absurd hs List.not_mem_nil, ?_⟩
    exact Nat.zero_le 1
  | append_singleton es e ih =>
    have hshown := ih spared.earlier
    rw [after_snoc]
    cases e with
    | start settings key' fresh => exact hshown.of_kept rfl fun s hs => hs
    | cut i => exact hshown.of_kept rfl fun s hs => hs
    | change x => exact hshown.of_kept rfl (spared es x [] rfl)
    | call i failure =>
      rcases (after c es).step_call i failure with hs | ⟨u, call, r, hs⟩
      · rw [hs]; exact hshown
      · exact hshown.call (sound_after h es) hs

/-- What a pass saw or made of its credentials is stored and owned. -/
theorem Shown.credentials {u : Underway} {a : Authenticator} (hsound : t.Sound)
    (h : t.Shown (u.key.dependent .secret)) (hu : u ∈ t.passes)
    (hread : u.calls.HasRead .authenticator u.key a) (hthere : u.calls.HasCredentials a u.fresh) :
    ∃ s, t.cluster.get? .secret (u.key.dependent .secret) = some s ∧ a.owns s.metadata = true := by
  have hkey : Kind.authenticator.key a = u.key := ((hsound.passes u hu).read hread).1
  have hpast := hsound.recorded u hu
  rcases hthere with ⟨ns, s, hns, hs, howned⟩ | ⟨s, stored, hmade, hs⟩
  · refine ⟨s, h.read s ?_, howned⟩
    rw [← hkey, Authenticator.dependent_secret hns]
    exact hpast hs
  · obtain ⟨hdependent, -⟩ := Authenticator.makeSecret_eq_ok hmade
    have hobject : Kind.secret.key s = u.key.dependent .secret :=
      hkey ▸ hdependent.key_eq_dependent (k := .secret)
    obtain ⟨hstored, hfrom⟩ := h.created s stored (hpast hs) hobject
    refine ⟨stored, hstored, ?_⟩
    exact (Authenticator.owns_congr rfl hfrom.owners).trans hdependent.owned

/-- Where a call sets the empty reference, the Secret that it names is stored and owned. -/
theorem Shown.reference_set (hsound : t.Sound) (h : t.Shown (key.dependent .secret)) {i : Nat}
    {failure : Option Failure} {before after : Authenticator}
    (hb : t.cluster.get? .authenticator key = some before)
    (ha : (t.step (.call i failure)).cluster.get? .authenticator key = some after)
    (hunset : before.spec.credentialsSecretRef = "") (hset : after.spec.credentialsSecretRef ≠ "") :
    ∃ s, t.cluster.get? .secret ⟨key.ns, after.spec.credentialsSecretRef⟩ = some s ∧
      before.owns s.metadata = true := by
  rcases hsound.authenticators i failure with ⟨-, hsame⟩ | ⟨u, x, y, hu, hre, hthere⟩
  · rw [hsame, hb] at ha
    obtain rfl := Option.some.inj ha
    exact absurd hunset hset
  by_cases hk : key = u.key
  · subst hk
    obtain rfl := Option.some.inj (hre.found.symm.trans hb)
    obtain rfl := Option.some.inj (hre.left.symm.trans ha)
    have hmem := List.mem_of_getElem? hu
    obtain ⟨s, hs, howned⟩ := h.credentials hsound hmem hre.read (hthere (hunset ▸ hset))
    refine ⟨s, ?_, howned⟩
    rcases hre.change with ⟨-, v, rfl⟩ | ⟨v, n, rfl⟩
    · rw [← hs, ← ((hsound.passes u hmem).read hre.read).1]
      rfl
    · exact absurd hunset hset
  · rw [hre.others key hk, hb] at ha
    obtain rfl := Option.some.inj ha
    exact absurd hunset hset

/-- **Credentials are generated at most once and never overwritten**, in whatever traffic. A call of
a pass leaves a stored Secret alone. Unless someone else removes or edits the Secret that is
generated for the authenticator at `key`, at most one creation of it succeeds, it stays what this
creation made of it, and where a call sets the empty reference, the Secret that it names is stored
and has the authenticator as an owner. -/
theorem credentials_generated_once {c : Cluster} (h : c.Reachable) (es : List Event) :
    let t := after c es
    (∀ i failure object s, t.cluster.get? .secret object = some s →
      (t.step (.call i failure)).cluster.get? .secret object = some s) ∧
    ∀ key : ObjectName, SparesSecret c es (key.dependent .secret) →
      (t.calls.secretsCreated (key.dependent .secret)).length ≤ 1 ∧
      (∀ s stored, t.calls.HasCreated .secret s stored →
        Kind.secret.key s = key.dependent .secret →
        t.cluster.get? .secret (key.dependent .secret) = some stored ∧ stored.data = s.data) ∧
      ∀ i failure before after, t.cluster.get? .authenticator key = some before →
        (t.step (.call i failure)).cluster.get? .authenticator key = some after →
        before.spec.credentialsSecretRef = "" → after.spec.credentialsSecretRef ≠ "" →
        ∃ s uid, t.cluster.get? .secret ⟨key.ns, after.spec.credentialsSecretRef⟩ = some s ∧
          before.metadata.uid = some uid ∧ ∃ r ∈ s.metadata.owners, r.uid = uid := by
  intro t
  have hsound : t.Sound := sound_after h.wellKept es
  constructor
  · intro i failure object s hs
    rcases t.step_call i failure with hstep | ⟨u, call, r, hstep⟩
    · rw [hstep]; exact hs
    · exact (hsound.objectChange hstep).secret_kept hs
  intro key spared
  have hshown : t.Shown (key.dependent .secret) := shown_after h.wellKept es spared
  refine ⟨hshown.once, ?_, ?_⟩
  · intro s stored hs hkey
    obtain ⟨hstored, hfrom⟩ := hshown.created s stored hs hkey
    obtain ⟨u, v, hcontent⟩ := hfrom.content
    refine ⟨hstored, ?_⟩
    rw [hcontent]
    rfl
  · intro i failure before after hb ha hunset hset
    obtain ⟨s, hs, howned⟩ := hshown.reference_set hsound hb ha hunset hset
    obtain ⟨uid, huid, howner⟩ := Authenticator.owns_eq_true_iff.1 howned
    exact ⟨s, uid, hs, huid, howner⟩

/-- Two passes that both found no Secret: the second one creates it and then sets the reference, the
first one loses the race. -/
theorem credentials_generated_once_by_rivals :
    let t := after (.ofChanges [.place .authenticator .gate]) [
      .start {} ⟨"apps", "gate"⟩ ⟨"first", "word"⟩, .start {} ⟨"apps", "gate"⟩ ⟨"second", "word"⟩,
      .call 0 none, .call 0 none, .call 1 none, .call 1 none, .call 1 none, .call 0 none]
    (t.calls.secretsCreated ⟨"apps", "gate-credentials"⟩).length ≤ 1 ∧
      ∃ s uid, t.cluster.get? .secret ⟨"apps", "gate-credentials"⟩ = some s ∧
        some "uid-1" = some uid ∧ ∃ r ∈ s.metadata.owners, r.uid = uid := by
  obtain ⟨-, hb⟩ := credentials_generated_once (Cluster.reachable_ofChanges _)
    [.start {} ⟨"apps", "gate"⟩ ⟨"first", "word"⟩, .start {} ⟨"apps", "gate"⟩ ⟨"second", "word"⟩,
      .call 0 none, .call 0 none, .call 1 none, .call 1 none, .call 1 none, .call 0 none]
  obtain ⟨honce, -, hset⟩ := hb ⟨"apps", "gate"⟩ (by
    intro earlier x later hes
    have hmem : Event.change x ∈ earlier ++ .change x :: later := by simp
    rw [← hes] at hmem
    simp at hmem)
  exact ⟨honce, hset 1 none _ _ rfl rfl rfl (by decide +kernel)⟩

end Traffic

end AuthProxy
