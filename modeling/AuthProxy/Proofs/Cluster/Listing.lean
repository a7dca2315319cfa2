import AuthProxy.Proofs.Cluster.Calls

/-! # Listings

A listing holds stored objects of one namespace, no two under the same name. Where every object of a
kind was replaced by another under the same name (`Mapped`) and with the same labels, so was every
object of a listing.
-/

namespace AuthProxy.Cluster

variable {c c' : Cluster} {k : Kind} {ns : String} {selector : LabelSelector} {os : List k.Object}

theorem list_eq_ok_iff :
    c.list k ns selector = .ok os ↔ ∃ s, selector.checked = .ok s ∧
      os = (c.inNamespace k ns).filter fun o => s.selects (k.metadata o).labelMap := by
  unfold list
  cases selector.checked with
  | error e =>
    constructor
    · intro h; cases h
    · rintro ⟨s, h, -⟩; cases h
  | ok s =>
    constructor
    · intro h; exact ⟨s, rfl, (Except.ok.inj h).symm⟩
    · rintro ⟨x, hx, rfl⟩; cases hx; rfl

theorem list_of_checked (c : Cluster) (k : Kind) (ns : String) {s : Selector}
    (h : selector.checked = .ok s) : ∃ os, c.list k ns selector = .ok os :=
  ⟨_, list_eq_ok_iff.2 ⟨s, h, rfl⟩⟩

theorem mem_inNamespace {o : k.Object} (h : o ∈ c.inNamespace k ns) :
    ∃ key, c.get? k key = some o ∧ key.ns = ns := by
  simp only [inNamespace, List.mem_map, List.mem_filter, decide_eq_true_eq] at h
  obtain ⟨⟨key, x⟩, ⟨hmem, hns⟩, rfl⟩ := h
  exact ⟨key, SortedMap.get?_eq_some_iff.2 hmem, hns⟩

theorem mem_of_list (h : c.list k ns selector = .ok os) {o : k.Object} (ho : o ∈ os) :
    ∃ key, c.get? k key = some o ∧ key.ns = ns := by
  obtain ⟨s, -, rfl⟩ := list_eq_ok_iff.1 h
  exact mem_inNamespace (List.mem_filter.1 ho).1

/-- What is stored in the namespace and selected is listed. -/
theorem mem_list {s : Selector} (hs : selector.checked = .ok s)
    (h : c.list k ns selector = .ok os) {o : k.Object} {name : String}
    (ho : c.get? k ⟨ns, name⟩ = some o) (hselects : s.selects (k.metadata o).labelMap = true) :
    o ∈ os := by
  obtain ⟨x, hx, rfl⟩ := list_eq_ok_iff.1 h
  obtain rfl := Except.ok.inj (hs.symm.trans hx)
  refine List.mem_filter.2 ⟨List.mem_map.2 ⟨(⟨ns, name⟩, o), ?_, rfl⟩, hselects⟩
  exact List.mem_filter.2 ⟨SortedMap.get?_eq_some_iff.1 ho, decide_eq_true rfl⟩

/-- What is listed is stored under its own name. -/
theorem WellKept.get?_of_list (hc : c.WellKept) (h : c.list k ns selector = .ok os) {o : k.Object}
    (ho : o ∈ os) : c.get? k (k.key o) = some o ∧ (k.key o).ns = ns := by
  obtain ⟨key, hkey, hns⟩ := mem_of_list h ho
  rw [hc.key_eq hkey]
  exact ⟨hkey, hns⟩

/-- No two listed objects have the same name. -/
theorem WellKept.list_distinct (hc : c.WellKept) (h : c.list k ns selector = .ok os) :
    os.Pairwise fun o x => k.key o ≠ k.key x := by
  obtain ⟨s, -, rfl⟩ := list_eq_ok_iff.1 h
  refine List.Pairwise.filter _ (List.pairwise_map.2 (List.Pairwise.filter _ ?_))
  apply (c.tables.table k).sorted.imp_of_mem
  intro e x he hx hlt heq
  -- Objects lie under their own names, so two of one name would be one entry of the table.
  rw [hc.key_eq (SortedMap.get?_eq_some_iff.2 he),
    hc.key_eq (SortedMap.get?_eq_some_iff.2 hx)] at heq
  rw [heq] at hlt
  simp at hlt

theorem get?_congr (h : c'.tables.table k = c.tables.table k) (key : ObjectName) :
    c'.get? k key = c.get? k key := by
  rw [get?, get?, h]

theorem list_congr (h : c'.tables.table k = c.tables.table k) :
    c'.list k ns selector = c.list k ns selector := by
  simp only [list, inNamespace, h]

/-- Every stored object of the kind was replaced by its image, and none was added or removed. -/
def Mapped (c c' : Cluster) (k : Kind) (f : k.Object → k.Object) : Prop :=
  ∀ key, c'.get? k key = (c.get? k key).map f

/-- What an object of the kind became. -/
def current (c' : Cluster) (k : Kind) (o : k.Object) : k.Object := (c'.get? k (k.key o)).getD o

theorem WellKept.key_current (hc' : c'.WellKept) (o : k.Object) :
    k.key (c'.current k o) = k.key o := by
  unfold current
  cases hx : c'.get? k (k.key o) with
  | none => rfl
  | some x => exact hc'.key_eq hx

theorem WellKept.mapped_current (hc : c.WellKept)
    (h : ∀ key, (c'.get? k key).isSome = (c.get? k key).isSome) : Mapped c c' k (c'.current k) := by
  intro key
  cases ho : c.get? k key with
  | none => simpa [ho] using h key
  | some o =>
    obtain ⟨x, hx⟩ := Option.isSome_iff_exists.1 ((h key).trans (by rw [ho]; rfl))
    simp [current, hc.key_eq ho, hx]

/-- If only labels count, a listing afterwards is the image of the listing before. -/
theorem Mapped.list {f : k.Object → k.Object} (h : Mapped c c' k f)
    (hlabels : ∀ key o, c.get? k key = some o →
      (k.metadata (f o)).labelMap = (k.metadata o).labelMap)
    (hl : c.list k ns selector = .ok os) : c'.list k ns selector = .ok (os.map f) := by
  obtain ⟨s, hs, rfl⟩ := list_eq_ok_iff.1 hl
  have htable : c'.tables.table k = (c.tables.table k).mapValues f :=
    SortedMap.ext_get? fun key => by rw [SortedMap.get?_mapValues]; exact h key
  have hns : c'.inNamespace k ns = (c.inNamespace k ns).map f := by
    simp [inNamespace, htable, SortedMap.mapValues, List.filter_map, Function.comp_def]
  refine list_eq_ok_iff.2 ⟨s, hs, ?_⟩
  rw [hns, List.filter_map]
  refine congrArg (List.map f) (List.filter_congr fun o ho => ?_)
  obtain ⟨key, hkey, -⟩ := mem_inNamespace ho
  rw [Function.comp_apply, hlabels key o hkey]

/-- If every object has the labels that it had, a listing afterwards holds what became of the listed
objects. -/
theorem WellKept.list_current (hc : c.WellKept)
    (h : ∀ key, (c'.get? k key).map (fun o => (k.metadata o).labelMap) =
      (c.get? k key).map fun o => (k.metadata o).labelMap)
    (hl : c.list k ns selector = .ok os) :
    c'.list k ns selector = .ok (os.map (c'.current k)) := by
  have hmapped : Mapped c c' k (c'.current k) :=
    hc.mapped_current fun key => by simpa using congrArg Option.isSome (h key)
  refine hmapped.list (fun key o ho => ?_) hl
  have hlabels := h key
  rw [ho] at hlabels
  obtain ⟨x, hx, hlabels⟩ := Option.map_eq_some_iff.1 hlabels
  rw [current, hc.key_eq ho, hx]
  exact hlabels

end AuthProxy.Cluster
