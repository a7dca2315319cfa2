import AuthProxy.Proofs.Cluster.Versions

/-! # What the operations of a cluster do

One statement for each way an operation can end, guards included, so that nothing below has to open
an operation again. `Answered` is all that a call can do. Every operation is a `Move`; hence every
cluster that calls and changes from outside can lead to (`Reachable`) is well kept.
-/

namespace AuthProxy

namespace Kind

/-- The object with another version. -/
def withVersion (k : Kind) (o : k.Object) (v : Option String) : k.Object :=
  k.withMetadata o { k.metadata o with resourceVersion := v }

/-- The object with another uid. -/
def withUid (k : Kind) (o : k.Object) (u : Option String) : k.Object :=
  k.withMetadata o { k.metadata o with uid := u }

@[simp] theorem metadata_withVersion (k : Kind) (o : k.Object) (v : Option String) :
    k.metadata (k.withVersion o v) = { k.metadata o with resourceVersion := v } :=
  metadata_withMetadata ..

@[simp] theorem metadata_withUid (k : Kind) (o : k.Object) (u : Option String) :
    k.metadata (k.withUid o u) = { k.metadata o with uid := u } :=
  metadata_withMetadata ..

/-- Neither version, uid, status nor defaults have to do with where an object lies. -/
theorem key_congr {k : Kind} {o x : k.Object} (hn : (k.metadata o).name = (k.metadata x).name)
    (hg : (k.metadata o).generateName = (k.metadata x).generateName)
    (hs : (k.metadata o).ns = (k.metadata x).ns) : k.key o = k.key x := by
  simp only [key, nameAny, ObjectMeta.nameAny, ObjectMeta.namespaceAny, hn, hg, hs]

/-- In one namespace names are enough. -/
theorem key_eq_of_nameAny {k : Kind} {o x : k.Object} (hns : (k.key o).ns = (k.key x).ns)
    (hname : k.nameAny o = k.nameAny x) : k.key o = k.key x := by
  simp only [key] at hns ⊢
  rw [hns, hname]

@[simp] theorem key_withVersion (k : Kind) (o : k.Object) (v : Option String) :
    k.key (k.withVersion o v) = k.key o := by
  apply key_congr <;> simp

@[simp] theorem key_withUid (k : Kind) (o : k.Object) (u : Option String) :
    k.key (k.withUid o u) = k.key o := by
  apply key_congr <;> simp

@[simp] theorem key_withDefaults (k : Kind) (o : k.Object) :
    k.key (k.withDefaults o) = k.key o := by
  apply key_congr <;> simp

@[simp] theorem key_withoutStatus (k : Kind) (o : k.Object) :
    k.key (k.withoutStatus o) = k.key o := by
  apply key_congr <;> simp

@[simp] theorem key_withStatusOf (k : Kind) (source o : k.Object) :
    k.key (k.withStatusOf source o) = k.key o := by
  apply key_congr <;> simp

theorem withUid_self {k : Kind} {o : k.Object} {u : String} (h : (k.metadata o).uid = some u) :
    k.withUid o (some u) = o := by
  have hm : { k.metadata o with uid := some u } = k.metadata o := by rw [← h]
  rw [withUid, hm]
  cases k <;> rfl

end Kind

namespace Cluster

/-! ## Storing -/

theorem store_fst (c : Cluster) (k : Kind) (o : k.Object) :
    (c.store k o).1 = k.withVersion o (some (toString (c.versions + 1))) := rfl

theorem store_written (c : Cluster) (k : Kind) (o : k.Object) :
    Written c (c.store k o).2 k (c.store k o).1 where
  versions := rfl
  version := by rw [store_fst, Kind.versionOf, Kind.metadata_withVersion]
  table := Tables.table_setTable ..
  otherTables := fun _ hj => Tables.table_setTable_of_ne _ _ hj
  conflict := rfl

theorem write_written (c : Cluster) (operation : Operation) (k : Kind) (o : k.Object) :
    Written c (c.write operation k o).2 k (c.write operation k o).1 where
  versions := rfl
  version := (c.store_written k o).version
  table := (c.store_written k o).table
  otherTables := (c.store_written k o).otherTables
  conflict := rfl

/-- An object is stored with the uid that it has, or with a new one. -/
theorem identify_cases (c : Cluster) (k : Kind) (o : k.Object) :
    ∃ u uids, c.identify k o = (k.withUid o (some u), { c with uids := uids }) ∧
      ∀ v, (k.metadata o).uid = some v → v = u := by
  cases hu : (k.metadata o).uid with
  | some u =>
    refine ⟨u, c.uids, ?_, fun v hv => (Option.some.inj hv).symm⟩
    simp only [identify, hu, Kind.withUid_self hu]
  | none =>
    refine ⟨"uid-" ++ toString (c.uids + 1), c.uids + 1, ?_, by simp⟩
    simp only [identify, hu, Kind.withUid]

theorem place_written (c : Cluster) (k : Kind) (o : k.Object) :
    Written c (c.place k o).2 k (c.place k o).1 ∧ k.key (c.place k o).1 = k.key o := by
  -- At most a uid is given out before the object is stored.
  obtain ⟨u, uids, hi, -⟩ := c.identify_cases k o
  have hw := Cluster.store_written { c with uids := uids } k (k.withUid o (some u))
  have hp : c.place k o = Cluster.store { c with uids := uids } k (k.withUid o (some u)) := by
    simp only [Cluster.place, hi]
  rw [hp]
  refine ⟨⟨hw.versions, hw.version, hw.table, hw.otherTables, hw.conflict⟩, ?_⟩
  rw [store_fst, Kind.key_withVersion, Kind.key_withUid]

/-! ## Creation -/

theorem create_of_some {c : Cluster} {k : Kind} {o found : k.Object}
    (h : c.get? k (k.key o) = some found) :
    c.create k o = (.error (.alreadyExists k.name (k.nameAny o)), c) := by
  simp only [create, h]

/-- What is stored of an object that is created. -/
structure CreatedFrom (k : Kind) (o stored : k.Object) : Prop where
  content : ∃ u v,
    stored = k.withVersion (k.withUid (k.withDefaults (k.withoutStatus o)) (some u)) v
  key : k.key stored = k.key o
  owners : (k.metadata stored).ownerReferences = (k.metadata o).ownerReferences

theorem create_of_none {c : Cluster} {k : Kind} {o : k.Object} (h : c.get? k (k.key o) = none) :
    ∃ stored c', c.create k o = (.ok stored, c') ∧ Written c c' k stored ∧
      CreatedFrom k o stored := by
  obtain ⟨u, uids, hi, -⟩ := c.identify_cases k (k.withDefaults (k.withoutStatus o))
  have hw := Cluster.write_written { c with uids := uids } .create k
    (k.withUid (k.withDefaults (k.withoutStatus o)) (some u))
  refine ⟨_, _, by simp only [create, h, hi], ⟨hw.versions, hw.version, hw.table, hw.otherTables,
    hw.conflict⟩, ⟨u, _, rfl⟩, ?_, ?_⟩
  · exact (Kind.key_withVersion ..).trans (by simp)
  · exact (congrArg ObjectMeta.ownerReferences (Kind.metadata_withVersion ..)).trans (by simp)

/-! ## Replacing -/

theorem isStale_eq_false_iff {k : Kind} {given stored : k.Object} :
    isStale k given stored = false ↔
      k.versionOf given = none ∨ k.versionOf given = k.versionOf stored := by
  simp only [isStale, Kind.versionOf]
  cases (k.metadata given).resourceVersion <;> simp

theorem consumeConflict_of_ne {c : Cluster} {k : Kind} (h : c.pendingConflict ≠ some k) :
    c.consumeConflict k = (false, c) := by
  simp only [consumeConflict, h, if_false]

/-- Nothing has happened, except that a conflict that was asked for may be over. -/
def Unmoved (c c' : Cluster) : Prop := c' = c ∨ c' = { c with pendingConflict := none }

theorem Unmoved.sameObjects {c c' : Cluster} (h : Unmoved c c') : SameObjects c c' := by
  rcases h with rfl | rfl <;> exact ⟨rfl, rfl⟩

theorem consumeConflict_unmoved (c : Cluster) (k : Kind) : Unmoved c (c.consumeConflict k).2 := by
  unfold consumeConflict
  split
  · exact .inr rfl
  · exact .inl rfl

theorem update_of_none {c : Cluster} {k : Kind} {o : k.Object} (h : c.get? k (k.key o) = none) :
    c.update k o = (.error (.notFound k.name (k.nameAny o)), c) := by
  simp only [update, h]

/-- An update that is based on what is stored takes place. -/
theorem update_of_current {c : Cluster} {k : Kind} {o found : k.Object}
    (h : c.get? k (k.key o) = some found) (hp : c.pendingConflict ≠ some k)
    (hs : isStale k o found = false) :
    ∃ stored c' v, c.update k o = (.ok stored, c') ∧ Written c c' k stored ∧
      stored = k.withVersion (k.withDefaults (k.withStatusOf found o)) v := by
  refine ⟨_, _, _, ?_, c.write_written .update k (k.withDefaults (k.withStatusOf found o)), rfl⟩
  simp [update, h, consumeConflict_of_ne hp, hs]

theorem update_of_stale {c : Cluster} {k : Kind} {o found : k.Object}
    (h : c.get? k (k.key o) = some found)
    (hs : c.pendingConflict = some k ∨ isStale k o found = true) :
    c.update k o = (.error (.conflict k.name (k.nameAny o)), (c.consumeConflict k).2) := by
  rcases hs with hp | hs
  · simp [update, h, consumeConflict, hp]
  · simp [update, h, hs]

/-- What an update that took place says about the cluster before and after it. -/
theorem update_eq_ok {c c' : Cluster} {k : Kind} {o stored : k.Object}
    (h : c.update k o = (.ok stored, c')) :
    ∃ found v, c.get? k (k.key o) = some found ∧ c.pendingConflict ≠ some k ∧
      isStale k o found = false ∧ Written c c' k stored ∧
      stored = k.withVersion (k.withDefaults (k.withStatusOf found o)) v := by
  cases hf : c.get? k (k.key o) with
  | none => rw [update_of_none hf] at h; cases h
  | some found =>
    by_cases hp : c.pendingConflict = some k
    · rw [update_of_stale hf (.inl hp)] at h; cases h
    · cases hs : isStale k o found with
      | true =>
        rw [update_of_stale hf (.inr hs)] at h; cases h
      | false =>
        obtain ⟨_, _, v, hu, hw, hv⟩ := update_of_current hf hp hs
        rw [hu] at h; cases h
        exact ⟨found, v, rfl, hp, hs, hw, hv⟩

/-- An update that took place is recorded. -/
theorem writes_of_update {c c' : Cluster} {k : Kind} {o stored : k.Object}
    (h : c.update k o = (.ok stored, c')) :
    c'.writes = c.writes ++ [⟨.update, k, k.nameAny o⟩] := by
  obtain ⟨found, v, hf, hp, hs, -, -⟩ := update_eq_ok h
  simp only [update, hf, consumeConflict_of_ne hp, hs, Bool.or_false, Bool.false_eq_true,
    if_false] at h
  obtain ⟨-, rfl⟩ := Prod.mk.inj h
  simp [write, store, stamp, put, Kind.nameAny]

theorem update_unmoved {c c' : Cluster} {k : Kind} {o : k.Object} {e : Error}
    (h : c.update k o = (.error e, c')) : Unmoved c c' := by
  cases hf : c.get? k (k.key o) with
  | none => rw [update_of_none hf] at h; cases h; exact .inl rfl
  | some found =>
    by_cases hs : c.pendingConflict = some k ∨ isStale k o found = true
    · rw [update_of_stale hf hs] at h; cases h; exact c.consumeConflict_unmoved k
    · simp only [not_or, Bool.not_eq_true] at hs
      obtain ⟨_, _, _, hu, -⟩ := update_of_current hf hs.1 hs.2
      rw [hu] at h; cases h

theorem update_eq_error {c c' : Cluster} {k : Kind} {o : k.Object} {e : Error}
    (h : c.update k o = (.error e, c')) : SameObjects c c' := (update_unmoved h).sameObjects

/-- An update removes nothing. -/
theorem isSome_get?_update (c : Cluster) {k : Kind} (o : k.Object) {key : ObjectName}
    (h : (c.get? k key).isSome = true) : ((c.update k o).2.get? k key).isSome = true := by
  rcases hu : c.update k o with ⟨e | stored, c'⟩
  · rw [(update_eq_error hu).get?]
    exact h
  · obtain ⟨found, v, -, -, -, hw, -⟩ := update_eq_ok hu
    rw [hw.get?]
    split
    · rfl
    · exact h

theorem updateStatus_of_none {c : Cluster} {k : Kind} {o : k.Object}
    (h : c.get? k (k.key o) = none) :
    c.updateStatus k o = (.error (.notFound k.name (k.nameAny o)), c) := by
  simp only [updateStatus, h]

/-- A status that is based on what is stored is written. -/
theorem updateStatus_of_current {c : Cluster} {k : Kind} {o found : k.Object}
    (h : c.get? k (k.key o) = some found) (hp : c.pendingConflict ≠ some k)
    (hv : k.versionOf o = k.versionOf found) :
    ∃ stored c' v, c.updateStatus k o = (.ok stored, c') ∧ Written c c' k stored ∧
      stored = k.withVersion (k.withStatusOf o found) v := by
  refine ⟨_, _, _, ?_, c.write_written .updateStatus k (k.withStatusOf o found), rfl⟩
  have hb : ((k.metadata o).resourceVersion != (k.metadata found).resourceVersion) = false := by
    simpa [Kind.versionOf] using hv
  simp [updateStatus, h, consumeConflict_of_ne hp, hb]

theorem updateStatus_of_stale {c : Cluster} {k : Kind} {o found : k.Object}
    (h : c.get? k (k.key o) = some found)
    (hs : c.pendingConflict = some k ∨ k.versionOf o ≠ k.versionOf found) :
    c.updateStatus k o = (.error (.conflict k.name (k.nameAny o)), (c.consumeConflict k).2) := by
  rcases hs with hp | hv
  · simp [updateStatus, h, consumeConflict, hp]
  · have hb : ((k.metadata o).resourceVersion != (k.metadata found).resourceVersion) = true := by
      simpa [Kind.versionOf] using hv
    simp [updateStatus, h, hb]

theorem updateStatus_eq_ok {c c' : Cluster} {k : Kind} {o stored : k.Object}
    (h : c.updateStatus k o = (.ok stored, c')) :
    ∃ found v, c.get? k (k.key o) = some found ∧ c.pendingConflict ≠ some k ∧
      k.versionOf o = k.versionOf found ∧ Written c c' k stored ∧
      stored = k.withVersion (k.withStatusOf o found) v := by
  cases hf : c.get? k (k.key o) with
  | none => rw [updateStatus_of_none hf] at h; cases h
  | some found =>
    by_cases hs : c.pendingConflict = some k ∨ k.versionOf o ≠ k.versionOf found
    · rw [updateStatus_of_stale hf hs] at h; cases h
    · simp only [not_or, Decidable.not_not] at hs
      obtain ⟨_, _, v, hu, hw, hv⟩ := updateStatus_of_current hf hs.1 hs.2
      rw [hu] at h; cases h
      exact ⟨found, v, rfl, hs.1, hs.2, hw, hv⟩

theorem updateStatus_unmoved {c c' : Cluster} {k : Kind} {o : k.Object} {e : Error}
    (h : c.updateStatus k o = (.error e, c')) : Unmoved c c' := by
  cases hf : c.get? k (k.key o) with
  | none => rw [updateStatus_of_none hf] at h; cases h; exact .inl rfl
  | some found =>
    by_cases hs : c.pendingConflict = some k ∨ k.versionOf o ≠ k.versionOf found
    · rw [updateStatus_of_stale hf hs] at h; cases h; exact c.consumeConflict_unmoved k
    · simp only [not_or, Decidable.not_not] at hs
      obtain ⟨_, _, _, hu, -⟩ := updateStatus_of_current hf hs.1 hs.2
      rw [hu] at h; cases h

theorem updateStatus_eq_error {c c' : Cluster} {k : Kind} {o : k.Object} {e : Error}
    (h : c.updateStatus k o = (.error e, c')) : SameObjects c c' :=
  (updateStatus_unmoved h).sameObjects

/-! ## Writes that are based on a read -/

/-- A creation finds the name free, or nothing is changed. -/
theorem create_cases (c : Cluster) (k : Kind) (o : k.Object) :
    (∃ e, c.create k o = (.error e, c)) ∨
      c.get? k (k.key o) = none ∧ ∃ stored c', c.create k o = (.ok stored, c') ∧
        Written c c' k stored ∧ CreatedFrom k o stored := by
  cases hf : c.get? k (k.key o) with
  | some found => exact .inl ⟨_, create_of_some hf⟩
  | none => exact .inr ⟨rfl, create_of_none hf⟩

/-- An update with the version of an object that was read finds that object, or nothing is
changed. -/
theorem Remembers.update_cases {c : Cluster} {k : Kind} {read o : k.Object} (h : c.Remembers k read)
    (hv : k.versionOf o = k.versionOf read) :
    (∃ e c', c.update k o = (.error e, c') ∧ SameObjects c c') ∨
      c.get? k (k.key o) = some read ∧ ∃ v c',
        c.update k o = (.ok (k.withVersion (k.withDefaults (k.withStatusOf read o)) v), c') ∧
          Written c c' k (k.withVersion (k.withDefaults (k.withStatusOf read o)) v) := by
  rcases hu : c.update k o with ⟨e | stored, c'⟩
  · exact .inl ⟨e, c', rfl, update_eq_error hu⟩
  · obtain ⟨found, v, hf, -, hs, hw, rfl⟩ := update_eq_ok hu
    obtain ⟨n, -, hn⟩ := h.version_le
    -- Without a version an update would not be checked; but what was read has one.
    have hfound : found = read := by
      rcases isStale_eq_false_iff.1 hs with hnone | hsame
      · rw [hv, hn] at hnone; cases hnone
      · exact h.eq_of_version hf (hsame.symm.trans hv)
    subst hfound
    exact .inr ⟨hf, v, c', rfl, hw⟩

/-- The same of a status. -/
theorem Remembers.updateStatus_cases {c : Cluster} {k : Kind} {read o : k.Object}
    (h : c.Remembers k read) (hv : k.versionOf o = k.versionOf read) :
    (∃ e c', c.updateStatus k o = (.error e, c') ∧ SameObjects c c') ∨
      c.get? k (k.key o) = some read ∧ ∃ v c',
        c.updateStatus k o = (.ok (k.withVersion (k.withStatusOf o read) v), c') ∧
          Written c c' k (k.withVersion (k.withStatusOf o read) v) := by
  rcases hu : c.updateStatus k o with ⟨e | stored, c'⟩
  · exact .inl ⟨e, c', rfl, updateStatus_eq_error hu⟩
  · obtain ⟨found, v, hf, -, hs, hw, rfl⟩ := updateStatus_eq_ok hu
    obtain rfl := h.eq_of_version hf (hs.symm.trans hv)
    exact .inr ⟨hf, v, c', rfl, hw⟩

/-! ## Every operation is a move -/

theorem answer_list (c : Cluster) (k : Kind) (ns : String) (selector : LabelSelector) :
    answer (.list k ns selector) c = (c.list k ns selector, c) := rfl

theorem answer_create (c : Cluster) (k : Kind) (o : k.Object) :
    answer (.create k o) c = c.create k o := rfl

theorem answer_update (c : Cluster) (k : Kind) (o : k.Object) :
    answer (.update k o) c = c.update k o := rfl

theorem answer_updateStatus (c : Cluster) (k : Kind) (o : k.Object) :
    answer (.updateStatus k o) c = c.updateStatus k o := rfl

/-- All that a call can do to a cluster, and how it ends. -/
inductive Answered (c : Cluster) : (q : Call) → q.Result → Cluster → Prop where
  | read {q : Call} {r : q.Result} (reads : q.operation.isWrite = false) : Answered c q r c
  | failed {q : Call} {e : Error} {c' : Cluster} (unmoved : Unmoved c c') :
    Answered c q (.error e) c'
  | created {k : Kind} {o stored : k.Object} {c' : Cluster} (absent : c.get? k (k.key o) = none)
    (created : CreatedFrom k o stored) (written : Written c c' k stored) :
    Answered c (.create k o) (.ok stored) c'
  | updated {k : Kind} {o found stored : k.Object} {v : Option String} {c' : Cluster}
    (before : c.get? k (k.key o) = some found)
    (content : stored = k.withVersion (k.withDefaults (k.withStatusOf found o)) v)
    (written : Written c c' k stored) : Answered c (.update k o) (.ok stored) c'
  | reported {k : Kind} {o found stored : k.Object} {v : Option String} {c' : Cluster}
    (before : c.get? k (k.key o) = some found)
    (content : stored = k.withVersion (k.withStatusOf o found) v)
    (written : Written c c' k stored) : Answered c (.updateStatus k o) (.ok stored) c'

theorem answered (c : Cluster) (q : Call) : Answered c q (answer q c).1 (answer q c).2 := by
  cases q with
  | get k ns name => exact .read rfl
  | list k ns selector => exact .read rfl
  | create k o =>
    rw [answer_create]
    rcases c.create_cases k o with ⟨e, he⟩ | ⟨absent, stored, c', hok, written, created⟩
    · rw [he]; exact .failed (.inl rfl)
    · rw [hok]; exact .created absent created written
  | update k o =>
    rw [answer_update]
    rcases hu : c.update k o with ⟨e | stored, c'⟩
    · exact .failed (update_unmoved hu)
    · obtain ⟨found, v, before, -, -, written, content⟩ := update_eq_ok hu
      exact .updated before content written
  | updateStatus k o =>
    rw [answer_updateStatus]
    rcases hu : c.updateStatus k o with ⟨e | stored, c'⟩
    · exact .failed (updateStatus_unmoved hu)
    · obtain ⟨found, v, before, -, -, written, content⟩ := updateStatus_eq_ok hu
      exact .reported before content written

namespace Answered

variable {c c' : Cluster} {q : Call} {r : q.Result}

theorem move (h : Answered c q r c') : Move c c' := by
  cases h with
  | read reads => exact .still ⟨rfl, rfl⟩
  | failed unmoved => exact .still unmoved.sameObjects
  | created _ _ written => exact .wrote written
  | updated _ _ written => exact .wrote written
  | reported _ _ written => exact .wrote written

/-- A conflict comes about only if one was asked for. -/
theorem calm (h : Answered c q r c') (hcalm : c.pendingConflict = none) :
    c'.pendingConflict = none := by
  cases h with
  | read reads => exact hcalm
  | failed unmoved =>
    rcases unmoved with rfl | rfl
    · exact hcalm
    · rfl
  | created _ _ written => exact written.conflict.trans hcalm
  | updated _ _ written => exact written.conflict.trans hcalm
  | reported _ _ written => exact written.conflict.trans hcalm

/-- A call that fails has done nothing, except that a conflict that was asked for may be over. -/
theorem unmoved_of_error {e : Error} (h : Answered c q (.error e) c') : Unmoved c c' := by
  cases h with
  | read reads => exact .inl rfl
  | failed unmoved => exact unmoved

end Answered

/-- What replaces an object adds none. -/
theorem Written.absent_of_replaced {c c' : Cluster} {k j : Kind} {o : k.Object} {key : ObjectName}
    (h : Written c c' k o) (hfound : (c.get? k (k.key o)).isSome = true)
    (habsent : c.get? j key = none) : c'.get? j key = none := by
  cases hx : c'.get? j key with
  | none => rfl
  | some x =>
    rcases h.get?_cases hx with ⟨rfl, -, rfl⟩ | hx
    · rw [habsent] at hfound; cases hfound
    · rw [habsent] at hx; cases hx

/-- **Only a creation adds an object.** -/
theorem Answered.adds {c c' : Cluster} {q : Call} {r : q.Result} (h : Answered c q r c')
    (hc : c.WellKept) {k : Kind} {key : ObjectName} {x : k.Object} (habsent : c.get? k key = none)
    (hx : c'.get? k key = some x) : ∃ o, q = .create k o ∧ k.key o = key ∧ CreatedFrom k o x := by
  have hnone : c'.get? k key = none → ∃ o, q = .create k o ∧ k.key o = key ∧ CreatedFrom k o x :=
    fun hnone => by rw [hnone] at hx; cases hx
  cases h with
  | read reads => exact hnone habsent
  | failed unmoved => exact hnone (unmoved.sameObjects.get? k key ▸ habsent)
  | created absent created written =>
    rcases written.get?_cases hx with ⟨rfl, rfl, rfl⟩ | hx
    · exact ⟨_, rfl, created.key.symm, created⟩
    · rw [habsent] at hx
      cases hx
  | updated before content written =>
    subst content
    exact hnone (written.absent_of_replaced (by simp [before]) habsent)
  | reported before content written =>
    subst content
    have hkey := hc.key_eq before
    exact hnone (written.absent_of_replaced (by simp [hkey, before]) habsent)

/-- **A call changes at most one object**, and then gives it a new version. -/
theorem answer_move (call : Call) (c : Cluster) : Move c (answer call c).2 := (c.answered call).move

end Cluster

/-! ## Changes from outside -/

/-- A change that someone other than the operator makes to a cluster. -/
inductive Change where
  /-- Puts an object into the cluster, replacing what was under its name. -/
  | place (kind : Kind) (object : kind.Object)
  /-- Changes a stored object in any way; it may get another name. -/
  | edit (kind : Kind) (key : ObjectName) (change : kind.Object → kind.Object)
  | remove (kind : Kind) (key : ObjectName)
  /-- Lets the next update of a kind fail; without a kind, none fails any more. -/
  | conflict (kind : Option Kind)

namespace Change

def apply : Change → Cluster → Cluster
  | place k o, c => (c.place k o).2
  | edit k key change, c =>
    match c.get? k key with
    | some o => (c.store k (change o)).2
    | none => c
  | remove k key, c => c.remove k key
  | conflict k, c => c.expectConflict k

theorem apply_move (x : Change) (c : Cluster) : Cluster.Move c (x.apply c) := by
  cases x with
  | place k o => exact .wrote (c.place_written k o).1
  | edit k key change =>
    simp only [apply]
    split
    · exact .wrote (c.store_written ..)
    · exact .still ⟨rfl, rfl⟩
  | remove k key => exact .removed rfl
  | conflict k => exact .still ⟨rfl, rfl⟩

end Change

namespace Cluster

/-- The clusters that can come about: from the empty one, by calls of whatever client and by changes
from outside. The record of the writes may be forgotten at any time. -/
inductive Reachable : Cluster → Prop where
  | empty : Reachable {}
  | call {c : Cluster} (h : Reachable c) (call : Call) : Reachable (answer call c).2
  | change {c : Cluster} (h : Reachable c) (x : Change) : Reachable (x.apply c)
  | forget {c : Cluster} (h : Reachable c) : Reachable { c with writes := [] }

theorem Reachable.wellKept {c : Cluster} (h : c.Reachable) : c.WellKept := by
  induction h with
  | empty => exact wellKept_empty
  | call _ call ih => exact ih.move (answer_move call _)
  | change _ x ih => exact ih.move (x.apply_move _)
  | forget _ ih => exact ih.move (.still ⟨rfl, rfl⟩)

/-- A program keeps a cluster well kept. -/
theorem WellKept.run {α : Type} {c : Cluster} (h : c.WellKept) (p : Program α) :
    (p.run answer c).store.WellKept := by
  induction p generalizing c with
  | done a => exact h
  | fail e => exact h
  | note n p ih => exact ih h
  | call call next ih => exact ih _ (h.move (answer_move call c))

theorem run_pendingConflict {α : Type} {c : Cluster} (h : c.pendingConflict = none)
    (p : Program α) : (p.run answer c).store.pendingConflict = none := by
  induction p generalizing c with
  | done a => exact h
  | fail e => exact h
  | note n p ih => exact ih h
  | call call next ih => exact ih _ ((c.answered call).calm h)

/-- The cluster that changes from outside make of the empty one. -/
def ofChanges (xs : List Change) : Cluster := xs.foldl (fun c x => x.apply c) {}

theorem reachable_ofChanges (xs : List Change) : (ofChanges xs).Reachable := by
  suffices h : ∀ c : Cluster, c.Reachable → (xs.foldl (fun c x => x.apply c) c).Reachable from
    h {} .empty
  induction xs with
  | nil => exact fun c hc => hc
  | cons x rest ih => exact fun c hc => ih _ (hc.change x)

end Cluster

/-- An authenticator in front of one Service, before the operator has seen it. -/
def Authenticator.gate : Authenticator where
  metadata := { name := some "gate", ns := some "apps" }
  spec := { appPort := 80, appService := "app" }

end AuthProxy
