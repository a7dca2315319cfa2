import AuthProxy.Proofs.Traffic.Effects
import AuthProxy.Proofs.Traffic.Takeover

/-! # Ownership

An object that a pass creates has its authenticator as the only owner, and no pass changes the
owners of an object after that. Without a uid an authenticator cannot own anything: a pass over it
fails before its first write, wherever it stands.
-/

namespace AuthProxy

/-- A dependent has the authenticator as its only owner and lies where dependents of its kind
lie. -/
theorem Authenticator.ownsAlone_dependent {a : Authenticator} {k : Kind} {o : k.Object}
    (h : a.dependentMeta (a.nameAny ++ k.dependentSuffix) = .ok (k.metadata o)) :
    a.OwnsAlone (k.metadata o) ∧ k.key o = (Kind.authenticator.key a).dependent k :=
  ⟨(ownsAlone_dependentMeta h).2.2.2, (dependentMeta_eq_ok h).key_eq_dependent⟩

/-- What a pass may create is a dependent of an authenticator that was read. -/
theorem PassCall.ownsAlone_of_create {settings : Settings} {key : ObjectName} {fresh : Credentials}
    {past : Path} {k : Kind} {o : k.Object}
    (h : PassCall settings key fresh past (.create k o)) :
    ∃ a, past.HasRead .authenticator key a ∧ a.OwnsAlone (k.metadata o) ∧
      k.key o = (Kind.authenticator.key a).dependent k := by
  cases h with
  | @createSecret a s read _ made =>
    exact ⟨a, read, a.ownsAlone_dependent (k := .secret) (Authenticator.makeSecret_meta made).1⟩
  | @createConfigMap a m read made =>
    exact ⟨a, read, a.ownsAlone_dependent (k := .configMap)
      (Authenticator.makeConfigMap_meta made).1⟩
  | @createDeployment a secret map n d read _ made =>
    exact ⟨a, read, a.ownsAlone_dependent (k := .deployment)
      (Authenticator.makeDeployment_meta made).1⟩

/-- An object that was there before a call and after it has the same owners. -/
theorem ObjectChange.owners_eq {u : Underway} {c c' : Cluster} (h : ObjectChange u c c') {k : Kind}
    {key : ObjectName} {before now : k.Object} (hbefore : c.get? k key = some before)
    (hnow : c'.get? k key = some now) :
    (k.metadata now).ownerReferences = (k.metadata before).ownerReferences := by
  cases h with
  | same same =>
    rw [same.get?, hbefore] at hnow
    rw [Option.some.inj hnow]
  | added _ _ _ absent written =>
    rw [written.kept_of_absent absent hbefore] at hnow
    rw [Option.some.inj hnow]
  | replaced _ found owners written =>
    rcases written.get?_cases hnow with ⟨rfl, rfl, rfl⟩ | hx
    · rw [owners, Option.some.inj (found.symm.trans hbefore)]
    · rw [Option.some.inj (hx.symm.trans hbefore)]

/-! ## Without a uid -/

namespace Authenticator

open Program

variable {a : Authenticator} {settings : Settings} {fresh : Credentials} {past : Path}

/-- The law that allows reads and nothing else. -/
def OnlyReads (_ : Path) (q : Call) : Prop := q.operation.isWrite = false

theorem not_identified (h : a.metadata.uid = none) : ¬ a.Identified := fun hid => by
  have := hid.uid_isSome
  rw [h] at this
  cases this

theorem not_owns (h : a.metadata.uid = none) (m : ObjectMeta) : a.owns m = false := by
  simp only [owns, ObjectMeta.belongsTo, h]

/-- Neither the Secret that is there is its own, nor can it make one. -/
theorem credentialsStep_reads (h : a.metadata.uid = none) :
    (a.credentialsStep fresh).Obeys OnlyReads (fun _ _ => True) past := by
  refine (obeys_lift _ _).2 ⟨fun ns _ => ?_, fun _ _ => trivial⟩
  cases a.hasReference with
  | true =>
    refine (obeys_ask _ _).2 ⟨rfl, fun found => ?_, fun _ => trivial⟩
    cases found with
    | none => trivial
    | some s => dsimp only; split <;> trivial
  | false =>
    refine (obeys_ask _ _).2 ⟨rfl, fun found => ?_, fun _ => trivial⟩
    cases found with
    | none =>
      refine (obeys_lift _ _).2 ⟨fun s made => ?_, fun _ _ => trivial⟩
      exact absurd (makeSecret_eq_ok made).1.identified (not_identified h)
    | some s => simp only [not_owns h]; trivial

/-- It cannot make a ConfigMap, and the step makes one before it looks at the one that is there. -/
theorem configurationStep_fails (h : a.metadata.uid = none) :
    (a.configurationStep settings).Obeys OnlyReads (fun _ r => ∃ e, r = .error e) past := by
  refine (obeys_lift _ _).2 ⟨fun ns _ => ?_, fun e _ => ⟨e, rfl⟩⟩
  refine (obeys_lift _ _).2 ⟨fun desired made => ?_, fun e _ => ⟨e, rfl⟩⟩
  exact absurd (makeConfigMap_eq_ok made).1.identified (not_identified h)

theorem converge_reads (h : a.metadata.uid = none) :
    (a.converge settings fresh).Obeys OnlyReads (fun _ r => ∀ n, r ≠ .ok (.done n)) past := by
  refine (obeys_bind _ _).2 ((credentialsStep_reads h).mono fun later r _ => ?_)
  rcases r with e | ⟨secret | reason⟩
  · exact nofun
  · refine (obeys_bind _ _).2 ((configurationStep_fails h).mono fun later r hr => ?_)
    obtain ⟨e, rfl⟩ := hr
    exact nofun
  · exact nofun

/-- A pass over an authenticator without a uid only reads. -/
def ReadsWithoutUid (key : ObjectName) (past : Path) (q : Call) : Prop :=
  ∀ a, past.Fetched key a → a.metadata.uid = none → q.operation.isWrite = false

def NotDoneWithoutUid (key : ObjectName) (past : Path) (r : Except Error Outcome) : Prop :=
  ∀ a, past.Fetched key a → a.metadata.uid = none → ∀ n, r ≠ .ok (.done n)

theorem pass_without_uid (settings : Settings) (key : ObjectName) (fresh : Credentials) :
    (pass settings key.ns key.name fresh).Obeys (ReadsWithoutUid key) (NotDoneWithoutUid key)
      [] := by
  refine (obeys_ask _ _).2 ⟨fun a ha => (by cases ha), fun found => ?_, fun e => ?_⟩
  · cases found with
    | none => exact fun _ _ _ => nofun
    | some a =>
      have hfirst : Path.Fetched [⟨.get .authenticator key.ns key.name, .ok (some a)⟩] key a := rfl
      -- What the pass is about does not change any more.
      have hunique : ∀ {later : Path} {b},
          [⟨.get .authenticator key.ns key.name, .ok (some a)⟩] <+: later →
            later.Fetched key b → b = a := by
        rintro _ b ⟨more, rfl⟩ hb
        exact hb.unique (hfirst.append more)
      cases huid : a.metadata.uid with
      | none =>
        exact (converge_reads huid).imp (fun _ _ _ hread _ _ _ => hread)
          fun _ _ _ hr _ _ _ => hr
      | some uid =>
        refine (obeys_trivial _ _).imp (fun later q hp _ b hb hnone => ?_)
          fun later r hp _ b hb hnone => ?_ <;>
        · rw [hunique hp hb, huid] at hnone
          cases hnone
  · exact fun _ _ _ => nofun

end Authenticator

namespace Underway.Keeps

variable {u : Underway} {a : Authenticator}

/-- A pass over an authenticator without a uid has only read so far. -/
theorem only_read
    (h : u.Keeps Authenticator.ReadsWithoutUid Authenticator.NotDoneWithoutUid)
    (hfetched : u.calls.Fetched u.key a) (huid : a.metadata.uid = none) :
    ∀ r ∈ u.calls, r.call.operation.isWrite = false := by
  intro r hr
  obtain ⟨earlier, later, heq⟩ := List.append_of_mem hr
  cases earlier with
  | nil =>
    rw [Path.Fetched, heq] at hfetched
    cases hfetched
    rfl
  | cons first rest =>
    refine h.made _ _ _ heq a ?_ huid
    rw [Path.Fetched, heq] at hfetched
    exact hfetched

end Underway.Keeps

namespace Traffic

/-- **Owners are set once and for all**, in whatever traffic. An object that a call of a pass adds
is the dependent of its kind and has exactly one owner: the authenticator that the pass has fetched,
by name and uid, as the controlling one. No call changes the owners of an object that was there. And
a pass over an authenticator without a uid writes nothing and never ends as done. -/
theorem owners_are_set_once {c : Cluster} (h : c.Reachable) (es : List Event) :
    let t := after c es
    (∀ i failure u k key (o : k.Object), t.passes[i]? = some u →
      t.cluster.get? k key = none → (t.step (.call i failure)).cluster.get? k key = some o →
      key = u.key.dependent k ∧ ∃ a r, u.calls.Fetched u.key a ∧
        (k.metadata o).ownerReferences = some [r] ∧ a.metadata.name = some r.name ∧
        a.metadata.uid = some r.uid ∧ r.controller = some true) ∧
    (∀ i failure k key (before now : k.Object), t.cluster.get? k key = some before →
      (t.step (.call i failure)).cluster.get? k key = some now →
      (k.metadata now).ownerReferences = (k.metadata before).ownerReferences) ∧
    ∀ u ∈ t.passes, ∀ a, u.calls.Fetched u.key a → a.metadata.uid = none →
      (∀ r ∈ u.calls, r.call.operation.isWrite = false) ∧
        ∀ n, u.rest.result? ≠ some (.ok (.done n)) := by
  intro t
  have hsound : t.Sound := sound_after h.wellKept es
  refine ⟨?_, ?_, ?_⟩
  · intro i failure u k key o hu habsent ho
    rcases t.step_call i failure with hs | ⟨v, call, r, hs⟩
    · rw [hs, habsent] at ho
      cases ho
    obtain rfl : u = v := Option.some.inj (hu.symm.trans hs.pass)
    have hmem := List.mem_of_getElem? hu
    have hpass := hsound.passes u hmem
    obtain ⟨next, hn, -⟩ := hs.next
    have hcluster : (deliver failure call t.cluster).2 = (t.step (.call i failure)).cluster := by
      rw [hs.delivered]
    rw [← hcluster] at ho
    cases failure with
    | some f => exact absurd (habsent.symm.trans ho) (by simp)
    | none =>
      obtain ⟨made, rfl, rfl, created⟩ := (t.cluster.answered call).adds hsound.wellKept habsent ho
      obtain ⟨a, hread, ⟨r, hr, howner⟩, hkey⟩ := (hpass.lawful.nextCall hn).1.ownsAlone_of_create
      refine ⟨by rw [hkey, (hpass.read hread).1], a, r, ?_, created.owners.trans hr, howner⟩
      exact (keeps_after Authenticator.pass_guarded c es u hmem).fetched_of_hasRead hread
  · intro i failure k key before now hbefore hnow
    rcases t.step_call i failure with hs | ⟨v, call, r, hs⟩
    · rw [hs, hbefore] at hnow
      cases hnow
      rfl
    · exact (hsound.objectChange hs).owners_eq hbefore hnow
  · intro u hu a hfetched huid
    have hkeeps := keeps_after Authenticator.pass_without_uid c es u hu
    refine ⟨hkeeps.only_read hfetched huid, fun n hn => ?_⟩
    exact hkeeps.left.result hn a hfetched huid n rfl

/-- A pass is about to create the Secret; another one, over an authenticator that has lost its uid,
is over. -/
theorem owners_are_set_once_by_gates :
    (let t := after (.ofChanges [.place .authenticator .gate])
        [.start {} ⟨"apps", "gate"⟩ ⟨"user", "word"⟩, .call 0 none, .call 0 none]
      ∃ s r, (t.step (.call 0 none)).cluster.get? .secret ⟨"apps", "gate-credentials"⟩ = some s ∧
        s.metadata.ownerReferences = some [r] ∧ r.name = "gate" ∧ r.uid = "uid-1" ∧
        r.controller = some true) ∧
    let t := after (.ofChanges [.place .authenticator .gate,
        .edit .authenticator ⟨"apps", "gate"⟩ fun _ => .gate])
      [.start {} ⟨"apps", "gate"⟩ ⟨"user", "word"⟩, .call 0 none, .call 0 none]
    ∀ u ∈ t.passes, u.calls.length = 2 ∧ ∀ r ∈ u.calls, r.call.operation.isWrite = false := by
  constructor
  · intro t
    obtain ⟨s, hs⟩ := Option.isSome_iff_exists.1 (show ((t.step (.call 0 none)).cluster.get? .secret
      ⟨"apps", "gate-credentials"⟩).isSome = true from by decide +kernel)
    obtain ⟨-, a, r, hfetched, howners, hname, huid, hcontroller⟩ := (owners_are_set_once
      (Cluster.reachable_ofChanges _) [.start {} ⟨"apps", "gate"⟩ ⟨"user", "word"⟩, .call 0 none,
        .call 0 none]).1 0 none _ .secret _ s rfl rfl hs
    obtain rfl := hfetched.unique rfl
    exact ⟨s, r, hs, howners, (Option.some.inj hname).symm, (Option.some.inj huid).symm,
      hcontroller⟩
  · intro t u hu
    obtain rfl := List.mem_singleton.1 hu
    exact ⟨rfl, ((owners_are_set_once (Cluster.reachable_ofChanges _) _).2.2 _ hu _ rfl rfl).1⟩

end Traffic

end AuthProxy
