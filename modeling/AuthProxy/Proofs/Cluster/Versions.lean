import AuthProxy.Cluster.Basic

/-! # Versions

What one operation can do to the objects of a cluster (`Move`), and what no operation breaks: every
object lies under its own name, and its version belongs to it alone (`WellKept`). An object that was
once read is therefore known by its version: whatever is stored with that version is that very
object (`Remembers`). These are the facts behind every version-conditioned update.
-/

namespace AuthProxy

/-- Versions are told apart by their numbers. -/
theorem version_text_inj {m n : Nat} (h : toString m = toString n) : m = n := by
  have hl : (toString m).toList = (toString n).toList := congrArg String.toList h
  -- The digits of a number give the number back.
  rw [show (toString m).toList = Nat.toDigits 10 m from Nat.toList_repr,
    show (toString n).toList = Nat.toDigits 10 n from Nat.toList_repr] at hl
  rw [← Nat.ofDigitChars_ten_toDigits (n := m), hl, Nat.ofDigitChars_ten_toDigits]

namespace Kind

/-- The version that an object carries. -/
def versionOf (k : Kind) (o : k.Object) : Option String := (k.metadata o).resourceVersion

end Kind

namespace Cluster

/-- Two clusters that hold the same objects and gave out the same versions. -/
structure SameObjects (c c' : Cluster) : Prop where
  tables : c'.tables = c.tables
  versions : c'.versions = c.versions

theorem SameObjects.get? {c c' : Cluster} (h : SameObjects c c') (k : Kind) (key : ObjectName) :
    c'.get? k key = c.get? k key := by
  simp only [Cluster.get?, h.tables]

/-- The object `o` was written under its own name, with a version that no object had before. -/
structure Written (c c' : Cluster) (k : Kind) (o : k.Object) : Prop where
  versions : c'.versions = c.versions + 1
  version : k.versionOf o = some (toString (c.versions + 1))
  table : c'.tables.table k = (c.tables.table k).insert (k.key o) o
  otherTables : ∀ j, j ≠ k → c'.tables.table j = c.tables.table j
  conflict : c'.pendingConflict = c.pendingConflict

namespace Written

variable {c c' : Cluster} {k : Kind} {o : k.Object}

theorem get? (h : Written c c' k o) (key : ObjectName) :
    c'.get? k key = if key = k.key o then some o else c.get? k key := by
  simp [Cluster.get?, h.table, SortedMap.get?_insert]

theorem get?_self (h : Written c c' k o) : c'.get? k (k.key o) = some o := by
  simp [h.get?]

theorem get?_of_ne_key (h : Written c c' k o) {key : ObjectName} (hne : key ≠ k.key o) :
    c'.get? k key = c.get? k key := by
  simp [h.get?, hne]

theorem get?_of_ne_kind (h : Written c c' k o) {j : Kind} (hne : j ≠ k) (key : ObjectName) :
    c'.get? j key = c.get? j key := by
  simp only [Cluster.get?, h.otherTables j hne]

theorem get?_of_ne (h : Written c c' k o) {j : Kind} {key : ObjectName}
    (hne : (j, key) ≠ (k, k.key o)) : c'.get? j key = c.get? j key := by
  by_cases hj : j = k
  · subst hj
    exact h.get?_of_ne_key fun hkey => hne (hkey ▸ rfl)
  · exact h.get?_of_ne_kind hj key

/-- What is stored after a write is the written object or was stored before. -/
theorem get?_cases (h : Written c c' k o) {j : Kind} {key : ObjectName} {x : j.Object}
    (hx : c'.get? j key = some x) :
    (∃ e : j = k, e ▸ x = o ∧ key = k.key o) ∨ c.get? j key = some x := by
  by_cases hj : j = k
  · subst hj
    by_cases hkey : key = j.key o
    · subst hkey
      rw [h.get?_self] at hx
      cases hx
      exact .inl ⟨rfl, rfl, rfl⟩
    · exact .inr (h.get?_of_ne_key hkey ▸ hx)
  · exact .inr (h.get?_of_ne_kind hj key ▸ hx)

theorem get?_cases_of_kind (h : Written c c' k o) {key : ObjectName} {x : k.Object}
    (hx : c'.get? k key = some x) : x = o ∧ key = k.key o ∨ c.get? k key = some x := by
  rcases h.get?_cases hx with ⟨e, hxo, hkey⟩ | hx
  · cases e
    exact .inl ⟨hxo, hkey⟩
  · exact .inr hx

/-- An object that was stored is still there after a write. -/
theorem stays (h : Written c c' k o) {j : Kind} {key : ObjectName}
    (hs : (c.get? j key).isSome = true) : (c'.get? j key).isSome = true := by
  by_cases hj : j = k
  · subst hj
    by_cases hkey : key = j.key o
    · rw [hkey, h.get?_self]
      rfl
    · rwa [h.get?_of_ne_key hkey]
  · rwa [h.get?_of_ne_kind hj]

/-- What is written where nothing was leaves everything as it is. -/
theorem kept_of_absent (h : Written c c' k o) (habsent : c.get? k (k.key o) = none) {j : Kind}
    {key : ObjectName} {x : j.Object} (hx : c.get? j key = some x) : c'.get? j key = some x := by
  by_cases hj : j = k
  · subst hj
    have hne : key ≠ j.key o := by
      rintro rfl
      rw [habsent] at hx
      cases hx
    rw [h.get?_of_ne_key hne, hx]
  · rw [h.get?_of_ne_kind hj, hx]

end Written

/-- Removes an object, as someone other than the operator may. -/
def remove (c : Cluster) (k : Kind) (key : ObjectName) : Cluster :=
  { c with tables := c.tables.setTable k ((c.tables.table k).erase key) }

theorem get?_remove_self (c : Cluster) (k : Kind) (key : ObjectName) :
    (c.remove k key).get? k key = none := by
  simp [get?, remove, Tables.table_setTable, SortedMap.get?_erase]

theorem get?_remove_of_ne (c : Cluster) {k j : Kind} {key key' : ObjectName}
    (hne : (j, key') ≠ (k, key)) : (c.remove k key).get? j key' = c.get? j key' := by
  by_cases hj : j = k
  · subst hj
    have hkey : key' ≠ key := fun h => hne (h ▸ rfl)
    simp [get?, remove, Tables.table_setTable, SortedMap.get?_erase, hkey]
  · simp only [get?, remove, Tables.table_setTable_of_ne _ _ hj]

theorem get?_remove (c : Cluster) {k j : Kind} {key key' : ObjectName} {x : j.Object}
    (h : (c.remove k key).get? j key' = some x) : c.get? j key' = some x := by
  by_cases hkey : (j, key') = (k, key)
  · obtain ⟨rfl, rfl⟩ := Prod.mk.inj hkey
    rw [get?_remove_self] at h
    cases h
  · rwa [get?_remove_of_ne c hkey] at h

/-- What one operation, of the operator or of anyone else, can do to the objects of a cluster. -/
inductive Move (c c' : Cluster) : Prop where
  | still (h : SameObjects c c')
  | wrote {k : Kind} {o : k.Object} (h : Written c c' k o)
  | removed {k : Kind} {key : ObjectName} (h : c' = c.remove k key)

/-! ## The invariant -/

/-- Every object lies under its own name, and its version was given out to it alone. -/
structure WellKept (c : Cluster) : Prop where
  key_eq : ∀ {k key} {o : k.Object}, c.get? k key = some o → k.key o = key
  version_le : ∀ {k key} {o : k.Object}, c.get? k key = some o →
    ∃ n, n ≤ c.versions ∧ k.versionOf o = some (toString n)
  version_inj : ∀ {k key} {o : k.Object} {j key'} {x : j.Object}, c.get? k key = some o →
    c.get? j key' = some x → k.versionOf o = j.versionOf x → k = j ∧ key = key'

/-- An object that was stored at some time: its version was given out, and whatever has it is that
object. -/
structure Remembers (c : Cluster) (k : Kind) (o : k.Object) : Prop where
  version_le : ∃ n, n ≤ c.versions ∧ k.versionOf o = some (toString n)
  eq_of_version : ∀ {key} {x : k.Object}, c.get? k key = some x →
    k.versionOf x = k.versionOf o → x = o

theorem wellKept_empty : WellKept {} where
  key_eq := by intro k key o h; cases k <;> cases h
  version_le := by intro k key o h; cases k <;> cases h
  version_inj := by intro k key o j key' x h; cases k <;> cases h

/-- A version that was given out is not the next one. -/
theorem ne_next_version {n m : Nat} (h : n ≤ m) : toString n ≠ toString (m + 1) := by
  intro he
  have := version_text_inj he
  omega

theorem WellKept.remembers {c : Cluster} (h : c.WellKept) {k : Kind} {key : ObjectName}
    {o : k.Object} (ho : c.get? k key = some o) : c.Remembers k o where
  version_le := h.version_le ho
  eq_of_version := by
    intro key' x hx hv
    obtain ⟨-, rfl⟩ := h.version_inj hx ho hv
    rw [ho] at hx
    exact (Option.some.inj hx).symm

section Moves

variable {c c' : Cluster}

/-- What is written has another version than any object that was stored before. -/
theorem Remembers.version_ne {k j : Kind} {o : k.Object} {x : j.Object} (h : c.Remembers k o)
    (hw : Written c c' j x) : j.versionOf x ≠ k.versionOf o := by
  obtain ⟨n, hn, hv⟩ := h.version_le
  rw [hw.version, hv]
  exact fun he => ne_next_version hn (Option.some.inj he).symm

theorem WellKept.written (h : c.WellKept) {k : Kind} {o : k.Object} (hw : Written c c' k o) :
    c'.WellKept where
  key_eq := by
    intro j key x hx
    rcases hw.get?_cases hx with ⟨rfl, rfl, rfl⟩ | hx
    · rfl
    · exact h.key_eq hx
  version_le := by
    intro j key x hx
    rw [hw.versions]
    rcases hw.get?_cases hx with ⟨rfl, rfl, -⟩ | hx
    · exact ⟨c.versions + 1, Nat.le_refl _, hw.version⟩
    · obtain ⟨n, hn, hv⟩ := h.version_le hx
      exact ⟨n, by omega, hv⟩
  version_inj := by
    intro i key x j key' y hx hy hv
    rcases hw.get?_cases hx with ⟨rfl, rfl, rfl⟩ | hx <;>
      rcases hw.get?_cases hy with ⟨rfl, rfl, rfl⟩ | hy
    · exact ⟨rfl, rfl⟩
    · exact absurd hv ((h.remembers hy).version_ne hw)
    · exact absurd hv.symm ((h.remembers hx).version_ne hw)
    · exact h.version_inj hx hy hv

/-- **No operation breaks the invariant.** -/
theorem WellKept.move (h : c.WellKept) (hm : Move c c') : c'.WellKept := by
  cases hm with
  | still hs =>
    refine ⟨?_, ?_, ?_⟩
    · intro k key o ho
      exact h.key_eq (hs.get? _ _ ▸ ho)
    · intro k key o ho
      rw [hs.versions]
      exact h.version_le (hs.get? _ _ ▸ ho)
    · intro k key o j key' x ho hx
      exact h.version_inj (hs.get? _ _ ▸ ho) (hs.get? _ _ ▸ hx)
  | wrote hw => exact h.written hw
  | removed hr =>
    subst hr
    refine ⟨?_, ?_, ?_⟩
    · intro k key o ho
      exact h.key_eq (get?_remove c ho)
    · intro k key o ho
      exact h.version_le (get?_remove c ho)
    · intro k key o j key' x ho hx
      exact h.version_inj (get?_remove c ho) (get?_remove c hx)

/-- **An object stays known by its version**, whatever happens to the cluster after it was read. -/
theorem Remembers.move {k : Kind} {o : k.Object} (h : c.Remembers k o) (hm : Move c c') :
    c'.Remembers k o := by
  cases hm with
  | still hs =>
    constructor
    · rw [hs.versions]
      exact h.version_le
    · intro key x hx hv
      exact h.eq_of_version (hs.get? _ _ ▸ hx) hv
  | wrote hw =>
    constructor
    · obtain ⟨n, hn, hv⟩ := h.version_le
      rw [hw.versions]
      exact ⟨n, by omega, hv⟩
    · intro key x hx hvx
      rcases hw.get?_cases hx with ⟨rfl, rfl, -⟩ | hx
      · exact absurd hvx (h.version_ne hw)
      · exact h.eq_of_version hx hvx
  | removed hr =>
    subst hr
    exact ⟨h.version_le, fun hx hv => h.eq_of_version (get?_remove c hx) hv⟩

end Moves

end Cluster

end AuthProxy
