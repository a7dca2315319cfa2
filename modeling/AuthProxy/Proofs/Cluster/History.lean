import AuthProxy.Proofs.Cluster.Calls

/-! # Histories of a cluster

Whatever happens to a cluster, call after call and change after change, an object that was read can
only be replaced on the ground of that read as long as nothing was written under its name: the
version of an object that was written over is gone for good (`Gone`). A call that fails has done
nothing, except that a conflict that was asked for is over.
-/

namespace AuthProxy

/-- What can happen to a cluster: a call, of whatever client, or a change from outside. -/
inductive Step where
  | call (call : Call)
  | change (x : Change)

/-- What a call writes if it succeeds. -/
def Call.target? : Call → Option (Kind × ObjectName)
  | .get .. | .list .. => none
  | .create k o | .update k o | .updateStatus k o => some (k, k.key o)

/-- Where a change stores an object, or removes one. -/
def Change.target? (c : Cluster) : Change → Option (Kind × ObjectName)
  | .place k o => some (k, k.key o)
  | .edit k key change => (c.get? k key).map fun o => (k, k.key (change o))
  | .remove k key => some (k, key)
  | .conflict _ => none

namespace Step

def apply : Step → Cluster → Cluster
  | call q, c => (Cluster.answer q c).2
  | change x, c => x.apply c

/-- The name under which a step writes, if it writes. -/
def target? (c : Cluster) : Step → Option (Kind × ObjectName)
  | call q => if (Cluster.answer q c).1.isOk then q.target? else none
  | change x => x.target? c

end Step

namespace Cluster

variable {c c' : Cluster} {k : Kind} {key : ObjectName} {o : k.Object}

/-- The cluster after the steps. -/
def following (c : Cluster) (steps : List Step) : Cluster := steps.foldl (fun c s => s.apply c) c

/-- One of the steps writes under the name. -/
def WrittenIn (k : Kind) (key : ObjectName) : List Step → Cluster → Prop
  | [], _ => False
  | s :: rest, c => s.target? c = some (k, key) ∨ WrittenIn k key rest (s.apply c)

/-! ## One step -/

/-- A call writes where it says, or it does nothing to the objects. -/
theorem Answered.target_cases {q : Call} {r : q.Result} (h : Answered c q r c') (hc : c.WellKept) :
    (r.isOk = false ∨ q.target? = none) ∧ SameObjects c c' ∨
      r.isOk = true ∧ ∃ k o, q.target? = some (k, k.key o) ∧ Written c c' k o := by
  cases h with
  | read reads =>
    refine .inl ⟨.inr ?_, rfl, rfl⟩
    cases q <;> first | rfl | cases reads
  | failed unmoved => exact .inl ⟨.inl rfl, unmoved.sameObjects⟩
  | created absent created written =>
    exact .inr ⟨rfl, _, _, by rw [created.key]; rfl, written⟩
  | updated before content written =>
    subst content
    exact .inr ⟨rfl, _, _, by simp [Call.target?], written⟩
  | reported before content written =>
    subst content
    exact .inr ⟨rfl, _, _, by simp [Call.target?, hc.key_eq before], written⟩

/-- A change writes or removes where it says, or it does nothing to the objects. -/
theorem change_cases (c : Cluster) (x : Change) :
    (x.target? c = none ∧ SameObjects c (x.apply c)) ∨
      (∃ k o, x.target? c = some (k, k.key o) ∧ Written c (x.apply c) k o) ∨
      ∃ k key, x.target? c = some (k, key) ∧ x.apply c = c.remove k key := by
  cases x with
  | place k o =>
    obtain ⟨hw, hkey⟩ := c.place_written k o
    exact .inr (.inl ⟨k, _, by rw [hkey]; rfl, hw⟩)
  | edit k key change =>
    simp only [Change.target?, Change.apply]
    cases hf : c.get? k key with
    | none => exact .inl ⟨rfl, rfl, rfl⟩
    | some o =>
      refine .inr (.inl ⟨k, _, ?_, c.store_written k (change o)⟩)
      rw [store_fst, Kind.key_withVersion]
      rfl
  | remove k key => exact .inr (.inr ⟨k, key, rfl, rfl⟩)
  | conflict k => exact .inl ⟨rfl, rfl, rfl⟩

/-- **What a step does to the objects**, and under which name. -/
theorem WellKept.step_cases (hc : c.WellKept) (s : Step) :
    (s.target? c = none ∧ SameObjects c (s.apply c)) ∨
      (∃ k o, s.target? c = some (k, k.key o) ∧ Written c (s.apply c) k o) ∨
      ∃ k key, s.target? c = some (k, key) ∧ s.apply c = c.remove k key := by
  cases s with
  | call q =>
    rcases (c.answered q).target_cases hc with ⟨hnone, same⟩ | ⟨hok, k, o, htarget, written⟩
    · refine .inl ⟨?_, same⟩
      rcases hnone with hnone | hnone <;> simp [Step.target?, hnone]
    · exact .inr (.inl ⟨k, o, by rw [Step.target?, hok, htarget]; rfl, written⟩)
  | change x => exact c.change_cases x

theorem step_move (c : Cluster) (s : Step) : Move c (s.apply c) := by
  cases s with
  | call q => exact c.answer_move q
  | change x => exact x.apply_move c

/-- Only a step that writes under a name changes what is stored there. -/
theorem WellKept.get?_of_not_target (hc : c.WellKept) {s : Step} (h : s.target? c ≠ some (k, key)) :
    (s.apply c).get? k key = c.get? k key := by
  rcases hc.step_cases s with ⟨-, hsame⟩ | ⟨j, x, htarget, hw⟩ | ⟨j, key', htarget, hr⟩
  · exact hsame.get? k key
  · exact hw.get?_of_ne fun heq => h (heq ▸ htarget)
  · rw [hr]
    exact c.get?_remove_of_ne fun heq => h (heq ▸ htarget)

/-! ## Any number of steps -/

/-- The object was stored once and is not stored any more. -/
structure Gone (c : Cluster) (k : Kind) (o : k.Object) : Prop where
  remembered : c.Remembers k o
  not_stored : ∀ key, c.get? k key ≠ some o

/-- What is gone does not come back: whatever is stored next has another version. -/
theorem Gone.move (h : c.Gone k o) (hm : Move c c') : c'.Gone k o where
  remembered := h.remembered.move hm
  not_stored := by
    intro key hkey
    cases hm with
    | still same => exact h.not_stored key (same.get? k key ▸ hkey)
    | wrote written =>
      rcases written.get?_cases hkey with ⟨rfl, rfl, -⟩ | hkey
      · exact h.remembered.version_ne written rfl
      · exact h.not_stored key hkey
    | removed hr =>
      subst hr
      exact h.not_stored key (get?_remove c hkey)

/-- What no step breaks holds after any number of steps. -/
theorem following_induction {P : Cluster → Prop} (hmove : ∀ {c c'}, P c → Move c c' → P c')
    (h : P c) (steps : List Step) : P (c.following steps) := by
  induction steps generalizing c with
  | nil => exact h
  | cons s rest ih => exact ih (hmove h (c.step_move s))

theorem Gone.following (h : c.Gone k o) (steps : List Step) : (c.following steps).Gone k o :=
  following_induction Gone.move h steps

theorem WellKept.following (h : c.WellKept) (steps : List Step) : (c.following steps).WellKept :=
  following_induction WellKept.move h steps

theorem Remembers.following (h : c.Remembers k o) (steps : List Step) :
    (c.following steps).Remembers k o :=
  following_induction Remembers.move h steps

/-- An object that is written over is gone. -/
theorem WellKept.gone_of_target (hc : c.WellKept) (ho : c.get? k key = some o) {s : Step}
    (h : s.target? c = some (k, key)) : (s.apply c).Gone k o := by
  have hremembers := hc.remembers ho
  refine ⟨hremembers.move (c.step_move s), fun key' hkey' => ?_⟩
  -- It could be stored nowhere else but under its name.
  obtain rfl : key' = key := by
    rw [← (hc.move (c.step_move s)).key_eq hkey', hc.key_eq ho]
  rcases hc.step_cases s with ⟨hnone, -⟩ | ⟨j, x, htarget, hw⟩ | ⟨j, key', htarget, hr⟩
  · rw [hnone] at h
    cases h
  · obtain ⟨rfl, rfl⟩ := Prod.mk.inj (Option.some.inj (htarget.symm.trans h))
    rw [hw.get?_self] at hkey'
    obtain rfl := Option.some.inj hkey'
    exact hremembers.version_ne hw rfl
  · obtain ⟨rfl, rfl⟩ := Prod.mk.inj (Option.some.inj (htarget.symm.trans h))
    rw [hr, get?_remove_self] at hkey'
    cases hkey'

/-- **What is still stored has not been written over.** -/
theorem WellKept.not_writtenIn (hc : c.WellKept) (ho : c.get? k key = some o) {steps : List Step}
    {key' : ObjectName} (hnow : (c.following steps).get? k key' = some o) :
    ¬ WrittenIn k key steps c := by
  induction steps generalizing c with
  | nil => exact id
  | cons s rest ih =>
    intro hwritten
    by_cases htarget : s.target? c = some (k, key)
    · exact ((hc.gone_of_target ho htarget).following rest).not_stored key' hnow
    · exact ih (hc.move (c.step_move s)) ((hc.get?_of_not_target htarget).trans ho) hnow
        (hwritten.resolve_left htarget)

/-- A write that succeeds on the ground of an object that was stored finds that very object. An
update of the status has to carry the version. -/
theorem Remembers.found_of_write (h : c.Remembers k o) (hc : c.WellKept) {given stored : k.Object}
    (hwrite : c.update k given = (.ok stored, c') ∧ k.versionOf given = k.versionOf o ∨
      c.updateStatus k given = (.ok stored, c') ∧
        (k.versionOf given = k.versionOf o ∨ k.versionOf given = none)) :
    c.get? k (k.key given) = some o := by
  rcases hwrite with ⟨hok, hv⟩ | ⟨hok, hv⟩
  · rcases h.update_cases hv with ⟨e, d, he, -⟩ | ⟨hfound, -⟩
    · rw [he] at hok
      cases hok
    · exact hfound
  · obtain ⟨found, v, hfound, -, hsame, -⟩ := updateStatus_eq_ok hok
    have hversion : k.versionOf given = k.versionOf o := by
      rcases hv with hv | hnone
      · exact hv
      · obtain ⟨n, -, hn⟩ := hc.version_le hfound
        rw [hnone, hn] at hsame
        cases hsame
    rw [hfound, h.eq_of_version hfound (hsame.symm.trans hversion)]

/-- **Nothing that was written meanwhile is overwritten unseen**, in whatever history of a cluster.
Every object lies under its own name, and its version, which was given out, is that of no other
object. Therefore, if an object was stored under a name and `later` an update succeeds that carries
its version, or a status update that carries its version or none, it goes to this name, nothing was
written there in between, and it replaces the very object. A call that fails leaves the objects, the
record of the writes and the counters as they are. -/
theorem no_write_is_lost (steps : List Step) :
    let c := following {} steps
    (∀ k key (o : k.Object), c.get? k key = some o →
      k.key o = key ∧ ∃ n, n ≤ c.versions ∧ k.versionOf o = some (toString n)) ∧
    (∀ k key (o : k.Object) j key' (x : j.Object), c.get? k key = some o →
      c.get? j key' = some x → k.versionOf o = j.versionOf x → k = j ∧ key = key') ∧
    (∀ k key (o given stored : k.Object) later c', c.get? k key = some o →
      ((c.following later).update k given = (.ok stored, c') ∧
          k.versionOf given = k.versionOf o ∨
        (c.following later).updateStatus k given = (.ok stored, c') ∧
          (k.versionOf given = k.versionOf o ∨ k.versionOf given = none)) →
      k.key given = key ∧ ¬ WrittenIn k key later c ∧
        (c.following later).get? k key = some o) ∧
    ∀ q e, (answer q c).1 = .error e →
      (answer q c).2 = c ∨ (answer q c).2 = { c with pendingConflict := none } := by
  intro c
  have hc : c.WellKept := wellKept_empty.following steps
  refine ⟨fun k key o ho => ⟨hc.key_eq ho, hc.version_le ho⟩,
    fun k key o j key' x => hc.version_inj, ?_, ?_⟩
  · intro k key o given stored later c' ho hwrite
    have hlater := hc.following later
    have hfound := ((hc.remembers ho).following later).found_of_write hlater hwrite
    obtain rfl : k.key given = key := by rw [← hlater.key_eq hfound, hc.key_eq ho]
    exact ⟨rfl, hc.not_writtenIn ho hfound, hfound⟩
  · intro q e he
    exact (he ▸ c.answered q).unmoved_of_error

/-- The authenticator is updated after a Secret was put into the cluster; its own name was
spared. -/
theorem no_write_is_lost_beside_another :
    let c := following {} [.change (.place .authenticator .gate)]
    let later : List Step :=
      [.change (.place .secret { metadata := { name := some "users", ns := some "apps" } })]
    ∃ a, c.get? .authenticator ⟨"apps", "gate"⟩ = some a ∧
      ((c.following later).update .authenticator a).1.isOk = true ∧
      ¬ WrittenIn .authenticator ⟨"apps", "gate"⟩ later c ∧
      (c.following later).get? .authenticator ⟨"apps", "gate"⟩ = some a := by
  intro c later
  obtain ⟨-, hspared, hfound⟩ := (no_write_is_lost [.change (.place .authenticator .gate)]).2.2.1
    .authenticator ⟨"apps", "gate"⟩ _ _ _ later _ rfl (.inl ⟨rfl, rfl⟩)
  exact ⟨_, rfl, rfl, hspared, hfound⟩

end Cluster

end AuthProxy
