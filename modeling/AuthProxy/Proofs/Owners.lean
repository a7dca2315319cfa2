import AuthProxy.Proofs.Dependents
import Mathlib.Data.Set.Insert

/-! # Declaring owners

What an object gains with an owner is one reference, or none if the owner was there already, and
nothing that was there changes. An owner is told by its uid alone, by the declaration and by the
question whose an object is, so the two agree (`ObjectMeta.GainsOwner`). For the same reason the
marks of a reference that was there before stay as they are: an owner that was not in control is not
put in control by being declared again (`ObjectMeta.controlledBy_addOwner_iff`).
-/

namespace AuthProxy

namespace Kind

variable {k : Kind} {o : ObjectMeta} {r : OwnerReference}

theorem ownerReference?_eq_none_iff :
    k.ownerReference? o = none ↔ o.name = none ∨ o.uid = none := by
  unfold ownerReference?
  cases o.name <;> cases o.uid <;> simp

/-- The reference is to the uid of the owner, and it is a controlling one. -/
theorem ownerReference?_eq_some (h : k.ownerReference? o = some r) :
    o.uid = some r.uid ∧ r.controller = some true := by
  unfold ownerReference? at h
  cases hname : o.name with
  | none => simp [hname] at h
  | some name =>
    cases huid : o.uid with
    | none => simp [hname, huid] at h
    | some uid =>
      simp only [hname, huid, Option.bind_eq_bind, Option.bind_some, Option.pure_def,
        Option.some.injEq] at h
      simp [← h]

end Kind

namespace ObjectMeta

variable {k : Kind} {m m' o p : ObjectMeta} {r : OwnerReference} {uid : String}

/-- The uids of the owners. -/
def ownerUids (m : ObjectMeta) : Set String := {uid | ∃ r ∈ m.owners, r.uid = uid}

/-- The owner with the uid controls the object. -/
def ControlledBy (m : ObjectMeta) (uid : String) : Prop :=
  ∃ r ∈ m.owners, r.uid = uid ∧ r.controller = some true

instance (m : ObjectMeta) (uid : String) : Decidable (m.ControlledBy uid) :=
  inferInstanceAs (Decidable (∃ r ∈ m.owners, r.uid = uid ∧ r.controller = some true))

/-- The metadata are the same but for the references to owners. -/
def SameButOwners (m m' : ObjectMeta) : Prop :=
  { m with ownerReferences := none } = { m' with ownerReferences := none }

theorem belongsTo_iff_mem_ownerUids :
    m.belongsTo p = true ↔ ∃ uid ∈ m.ownerUids, p.uid = some uid := by
  rw [belongsTo_eq_true_iff]
  simp only [ownerUids, Set.mem_ofPred_eq, and_comm]

/-! ## One more reference -/

theorem addOwner_of_mem (h : r.uid ∈ m.ownerUids) :
    m.addOwner r = { m with ownerReferences := some m.owners } := by
  simp only [ownerUids, Set.mem_ofPred_eq] at h
  simp [addOwner, h]

theorem addOwner_of_not_mem (h : r.uid ∉ m.ownerUids) :
    m.addOwner r = { m with ownerReferences := some (m.owners ++ [r]) } := by
  simp only [ownerUids, Set.mem_ofPred_eq] at h
  simp [addOwner, h]

theorem exists_addOwner_eq : ∃ added : List OwnerReference, added.length ≤ 1 ∧
    m.addOwner r = { m with ownerReferences := some (m.owners ++ added) } := by
  by_cases h : r.uid ∈ m.ownerUids
  · exact ⟨[], by simp, by rw [addOwner_of_mem h, List.append_nil]⟩
  · exact ⟨[r], by simp, addOwner_of_not_mem h⟩

@[simp] theorem ownerUids_addOwner : (m.addOwner r).ownerUids = insert r.uid m.ownerUids := by
  by_cases h : r.uid ∈ m.ownerUids
  · rw [addOwner_of_mem h, Set.insert_eq_of_mem h]
    rfl
  · rw [addOwner_of_not_mem h]
    ext uid
    simp [ownerUids, owners, or_and_right, exists_or, eq_comm, or_comm]

/-- The second time the reference is already there. -/
theorem addOwner_addOwner : (m.addOwner r).addOwner r = m.addOwner r := by
  have hthere : r.uid ∈ (m.addOwner r).ownerUids := by simp
  obtain ⟨added, -, h⟩ := exists_addOwner_eq (m := m) (r := r)
  rw [addOwner_of_mem hthere, h]
  rfl

/-- A reference that is not added cannot mark its owner as the one in control. -/
theorem controlledBy_addOwner_iff (hr : r.controller = some true) :
    (m.addOwner r).ControlledBy r.uid ↔ r.uid ∉ m.ownerUids ∨ m.ControlledBy r.uid := by
  by_cases h : r.uid ∈ m.ownerUids
  · rw [addOwner_of_mem h]
    simp only [h, not_true_eq_false, false_or]
    exact Iff.rfl
  · rw [addOwner_of_not_mem h]
    simp only [h, not_false_eq_true, true_or, iff_true]
    exact ⟨r, List.mem_append_right _ (List.mem_singleton.2 rfl), rfl, hr⟩

/-! ## Declaring an owner -/

theorem attach_of_none (h : k.ownerReference? o = none) :
    m.attach k o = (.error (.missingKey ".metadata.uid"), m) := by
  rw [attach, attachOwner, h]
  rfl

theorem attach_of_some (h : k.ownerReference? o = some r) :
    m.attach k o = (.ok (), m.addOwner r) := by
  rw [attach, attachOwner, h]
  rfl

/-- The dependents of an authenticator are made with what attaching their owner leaves. -/
theorem declareOwner_eq_ok_iff : m.declareOwner k o = .ok m' ↔ m.attach k o = (.ok (), m') := by
  unfold declareOwner
  cases h : k.ownerReference? o with
  | none => simp [attach_of_none h]
  | some r => simp [attach_of_some h]

/-- What the metadata `m'` have that `m` are with the owner `o`: at most one more reference, at the
end, and `o` among those whose the object is. -/
structure GainsOwner (m o m' : ObjectMeta) : Prop where
  appends : ∃ added : List OwnerReference,
    added.length ≤ 1 ∧ m'.ownerReferences = some (m.owners ++ added)
  rest : m.SameButOwners m'
  belongsTo_iff : ∀ p, m'.belongsTo p = true ↔ m.belongsTo p = true ∨ p.uid = o.uid

theorem gainsOwner_addOwner (h : o.uid = some r.uid) : m.GainsOwner o (m.addOwner r) := by
  obtain ⟨added, hlength, hadd⟩ := exists_addOwner_eq (m := m) (r := r)
  refine ⟨⟨added, hlength, by rw [hadd]⟩, by rw [hadd]; rfl, ?_⟩
  intro p
  rw [belongsTo_iff_mem_ownerUids, belongsTo_iff_mem_ownerUids, ownerUids_addOwner, h]
  simp [or_comm]

/-- An owner that cannot be declared adds no uid. -/
theorem ownerUids_attach : (m.attach k o).2.ownerUids =
    {uid | ∃ r, k.ownerReference? o = some r ∧ r.uid = uid} ∪ m.ownerUids := by
  cases h : k.ownerReference? o with
  | none =>
    rw [attach_of_none h]
    ext uid
    simp
  | some r =>
    rw [attach_of_some h, ownerUids_addOwner]
    ext uid
    simp [eq_comm]

/-- **What declaring an owner does.** It fails exactly if the owner has no name or no uid, and then
the metadata stay as they are, without a list of references that was not there. Otherwise the
references that are there keep their places, at most one follows them, nothing else changes, the
object now belongs to that owner besides those it belonged to before, and declaring the owner again
changes nothing. The order in which two owners are declared makes no difference to whose the object
is. -/
theorem owner_attached_exactly (k l : Kind) (m o p : ObjectMeta) :
    (m.attach k o = (.error (.missingKey ".metadata.uid"), m) ↔ o.name = none ∨ o.uid = none) ∧
    (¬(o.name = none ∨ o.uid = none) → ∃ m', m.attach k o = (.ok (), m') ∧
      m.declareOwner k o = .ok m' ∧ m.GainsOwner o m' ∧ m'.attach k o = (.ok (), m')) ∧
    ((m.attach k o).2.attach l p).2.ownerUids = ((m.attach l p).2.attach k o).2.ownerUids := by
  rw [← Kind.ownerReference?_eq_none_iff (k := k)]
  refine ⟨⟨?_, attach_of_none⟩, ?_, ?_⟩
  · intro herror
    cases h : k.ownerReference? o with
    | none => rfl
    | some r =>
      rw [attach_of_some h] at herror
      cases herror
  · intro hsome
    obtain ⟨r, hr⟩ := Option.ne_none_iff_exists'.1 hsome
    refine ⟨m.addOwner r, attach_of_some hr, declareOwner_eq_ok_iff.2 (attach_of_some hr),
      gainsOwner_addOwner (Kind.ownerReference?_eq_some hr).1, ?_⟩
    rw [attach_of_some hr, addOwner_addOwner]
  · simp only [ownerUids_attach, Set.union_left_comm]

/-- **Who is in control.** An owner with a name and a uid is declared, and in control of the object
if and only if it was no owner before or was in control already. -/
theorem attached_owner_controls_iff (k : Kind) (m : ObjectMeta) (hname : o.name.isSome = true)
    (huid : o.uid = some uid) : ∃ m', m.attach k o = (.ok (), m') ∧ uid ∈ m'.ownerUids ∧
      (m'.ControlledBy uid ↔ uid ∉ m.ownerUids ∨ m.ControlledBy uid) := by
  have hsome : k.ownerReference? o ≠ none := by
    rw [Ne, Kind.ownerReference?_eq_none_iff, huid]
    simp [Option.isSome_iff_ne_none.1 hname]
  obtain ⟨r, hr⟩ := Option.ne_none_iff_exists'.1 hsome
  obtain ⟨hruid, hcontroller⟩ := Kind.ownerReference?_eq_some hr
  obtain rfl : uid = r.uid := Option.some.inj (huid.symm.trans hruid)
  exact ⟨m.addOwner r, attach_of_some hr, by simp, controlledBy_addOwner_iff hcontroller⟩

/-- Beside another owner that is in control. -/
theorem attached_owner_controls_beside_another :
    let gate : ObjectMeta := { name := some "gate", uid := some "uid-of-gate" }
    let web : OwnerReference := { uid := "uid-of-web", controller := some true }
    let m : ObjectMeta := { ownerReferences := some [web] }
    gate.name.isSome = true ∧ gate.uid = some "uid-of-gate" ∧ "uid-of-gate" ∉ m.ownerUids ∧
      ∃ m', m.attach .authenticator gate = (.ok (), m') ∧ "uid-of-gate" ∈ m'.ownerUids ∧
        m'.ControlledBy "uid-of-gate" := by
  intro gate web m
  have hnew : "uid-of-gate" ∉ m.ownerUids := by simp [m, web, ownerUids, owners]
  obtain ⟨m', hm', hmem, hcontrols⟩ :=
    attached_owner_controls_iff (o := gate) .authenticator m rfl rfl
  exact ⟨rfl, rfl, hnew, m', hm', hmem, hcontrols.2 (.inl hnew)⟩

/-- An owner that is not in control is not put in control by being declared again. -/
theorem repeated_owner_not_in_control :
    let gate : ObjectMeta := { name := some "gate", uid := some "uid-of-gate" }
    let there : OwnerReference :=
      { kind := "BasicAuthenticator", name := "gate", uid := "uid-of-gate" }
    let m : ObjectMeta := { ownerReferences := some [there] }
    (m.attach .authenticator gate).1 = .ok () ∧
      ¬(m.attach .authenticator gate).2.ControlledBy "uid-of-gate" := by
  decide +kernel

end ObjectMeta

end AuthProxy
