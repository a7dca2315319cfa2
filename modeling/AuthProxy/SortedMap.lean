/-! # Sorted maps

A finite map kept as the list of its entries in strictly increasing key order. The order is part
of the type, so two maps with the same bindings are the same list and equality of maps is equality
of entries. `get?_insert` is the law every later proof uses.
-/

namespace AuthProxy

/-- A finite map from `κ` to `α`, stored as its entries in increasing key order. -/
structure SortedMap (κ : Type) (α : Type) [Ord κ] where
  entries : List (κ × α)
  sorted : entries.Pairwise (fun a b => compare a.1 b.1 = .lt)

namespace SortedMap

variable {κ α β : Type} [Ord κ]

theorem ext {m n : SortedMap κ α} (h : m.entries = n.entries) : m = n := by
  cases m; cases n; cases h; rfl

instance [DecidableEq κ] [DecidableEq α] : DecidableEq (SortedMap κ α) := fun m n =>
  decidable_of_iff (m.entries = n.entries) ⟨ext, fun h => h ▸ rfl⟩

instance [Repr κ] [Repr α] : Repr (SortedMap κ α) := ⟨fun m p => reprPrec m.entries p⟩

/-- The map without bindings. -/
def empty : SortedMap κ α := ⟨[], .nil⟩

instance : Inhabited (SortedMap κ α) := ⟨empty⟩

def isEmpty (m : SortedMap κ α) : Bool := m.entries.isEmpty

def keys (m : SortedMap κ α) : List κ := m.entries.map (·.1)

def values (m : SortedMap κ α) : List α := m.entries.map (·.2)

/-- The entries with `k` bound to `a`, replacing an earlier binding in its place. -/
def insertEntry (k : κ) (a : α) : List (κ × α) → List (κ × α)
  | [] => [(k, a)]
  | (k', a') :: rest =>
    match compare k k' with
    | .lt => (k, a) :: (k', a') :: rest
    | .eq => (k, a) :: rest
    | .gt => (k', a') :: insertEntry k a rest

/-- The first value bound to `k`. -/
def lookup (k : κ) : List (κ × α) → Option α
  | [] => none
  | (k', a) :: rest => if compare k k' = .eq then some a else lookup k rest

/-- The entries whose key is not `k`. -/
def eraseKey (k : κ) (l : List (κ × α)) : List (κ × α) :=
  l.filter (fun e => compare k e.1 != .eq)

theorem mem_insertEntry {k : κ} {a : α} {e : κ × α} {l : List (κ × α)}
    (h : e ∈ insertEntry k a l) : e = (k, a) ∨ e ∈ l := by
  induction l with
  | nil => simpa [insertEntry] using h
  | cons d rest ih =>
    obtain ⟨k', a'⟩ := d
    rw [insertEntry] at h
    split at h
    · simpa using h
    · rcases List.mem_cons.1 h with h | h
      · exact .inl h
      · exact .inr (List.mem_cons_of_mem _ h)
    · rcases List.mem_cons.1 h with h | h
      · exact .inr (h ▸ List.mem_cons_self)
      · rcases ih h with h | h
        · exact .inl h
        · exact .inr (List.mem_cons_of_mem _ h)

theorem insertEntry_sorted [Std.TransOrd κ] (k : κ) (a : α) {l : List (κ × α)}
    (h : l.Pairwise (fun a b => compare a.1 b.1 = .lt)) :
    (insertEntry k a l).Pairwise (fun a b => compare a.1 b.1 = .lt) := by
  induction l with
  | nil => simp [insertEntry]
  | cons d rest ih =>
    obtain ⟨k', a'⟩ := d
    obtain ⟨hd, hr⟩ := List.pairwise_cons.1 h
    rw [insertEntry]
    split
    next hk =>
      refine List.pairwise_cons.2 ⟨fun e he => ?_, h⟩
      rcases List.mem_cons.1 he with rfl | he
      · exact hk
      · exact Std.TransCmp.lt_trans hk (hd e he)
    next hk =>
      refine List.pairwise_cons.2 ⟨fun e he => ?_, hr⟩
      exact Std.TransCmp.lt_of_eq_of_lt hk (hd e he)
    next hk =>
      refine List.pairwise_cons.2 ⟨fun e he => ?_, ih hr⟩
      rcases mem_insertEntry he with rfl | he
      · exact Std.OrientedCmp.lt_of_gt hk
      · exact hd e he

/-- Binds `k` to `a`, replacing an earlier binding. -/
def insert [Std.TransOrd κ] (m : SortedMap κ α) (k : κ) (a : α) : SortedMap κ α :=
  ⟨insertEntry k a m.entries, insertEntry_sorted k a m.sorted⟩

def get? (m : SortedMap κ α) (k : κ) : Option α := lookup k m.entries

def contains (m : SortedMap κ α) (k : κ) : Bool := (m.get? k).isSome

/-- Removes the binding of `k`, if there is one. -/
def erase (m : SortedMap κ α) (k : κ) : SortedMap κ α :=
  ⟨eraseKey k m.entries, m.sorted.sublist List.filter_sublist⟩

/-- Binds the pairs in order, so that the last pair of a key wins. -/
def ofList [Std.TransOrd κ] (l : List (κ × α)) : SortedMap κ α :=
  l.foldl (fun m e => m.insert e.1 e.2) empty

theorem lookup_insertEntry [Std.TransOrd κ] (k k' : κ) (a : α) (l : List (κ × α)) :
    lookup k' (insertEntry k a l) = if compare k' k = .eq then some a else lookup k' l := by
  induction l with
  | nil => simp [insertEntry, lookup]
  | cons d rest ih =>
    obtain ⟨j, b⟩ := d
    rw [insertEntry]
    split
    next hk => simp [lookup]
    next hk =>
      have : compare k' j = .eq ↔ compare k' k = .eq := by
        rw [Std.TransCmp.congr_right hk]
      by_cases h : compare k' k = .eq <;> simp [lookup, h, this]
    next hk =>
      by_cases h : compare k' k = .eq
      · have hj : compare k' j ≠ .eq := by
          rw [Std.TransCmp.congr_left h, hk]; decide
        simp [lookup, ih, h, hj]
      · simp [lookup, ih, h]

/-- A binding is read back under its own key and leaves every other key alone. -/
theorem get?_insert [Std.TransOrd κ] (m : SortedMap κ α) (k k' : κ) (a : α) :
    (m.insert k a).get? k' = if compare k' k = .eq then some a else m.get? k' :=
  lookup_insertEntry k k' a m.entries

theorem lookup_eraseKey [Std.TransOrd κ] (k k' : κ) (l : List (κ × α)) :
    lookup k' (eraseKey k l) = if compare k' k = .eq then none else lookup k' l := by
  induction l with
  | nil => simp [eraseKey, lookup]
  | cons d rest ih =>
    obtain ⟨j, b⟩ := d
    simp only [eraseKey] at ih
    by_cases hj : compare k j = .eq
    · have : compare k' j = .eq ↔ compare k' k = .eq := by rw [Std.TransCmp.congr_right hj]
      by_cases h : compare k' k = .eq <;> simp [eraseKey, lookup, hj, ih, h, this]
    · by_cases h : compare k' k = .eq
      · have : compare k' j ≠ .eq := by rwa [Std.TransCmp.congr_left h]
        simp [eraseKey, lookup, hj, ih, h, this]
      · simp [eraseKey, lookup, hj, ih, h]

theorem get?_erase [Std.TransOrd κ] (m : SortedMap κ α) (k k' : κ) :
    (m.erase k).get? k' = if compare k' k = .eq then none else m.get? k' :=
  lookup_eraseKey k k' m.entries

@[simp] theorem get?_empty (k : κ) : (empty : SortedMap κ α).get? k = none := rfl

section Entries

variable [Std.LawfulEqOrd κ]

theorem lookup_eq_some_iff {k : κ} {a : α} {l : List (κ × α)}
    (h : l.Pairwise (fun a b => compare a.1 b.1 = .lt)) : lookup k l = some a ↔ (k, a) ∈ l := by
  induction l with
  | nil => simp [lookup]
  | cons d rest ih =>
    obtain ⟨j, b⟩ := d
    obtain ⟨hd, hr⟩ := List.pairwise_cons.1 h
    by_cases hj : k = j
    · subst hj
      have hnot : ∀ x, (k, x) ∉ rest := fun x hx => by simpa using hd (k, x) hx
      simp [lookup, hnot, eq_comm]
    · have hc : compare k j ≠ .eq := fun he => hj (Std.LawfulEqCmp.eq_of_compare he)
      simp [lookup, hc, ih hr, hj]

/-- The entries are the bindings. -/
theorem get?_eq_some_iff {m : SortedMap κ α} {k : κ} {a : α} :
    m.get? k = some a ↔ (k, a) ∈ m.entries :=
  lookup_eq_some_iff m.sorted

/-- A map is its bindings: the order of the entries leaves no choice. -/
theorem ext_get? [Std.TransOrd κ] {m n : SortedMap κ α} (h : ∀ k, m.get? k = n.get? k) : m = n := by
  apply ext
  have hperm : m.entries.Perm n.entries := by
    have nodup : ∀ x : SortedMap κ α, x.entries.Nodup := fun x =>
      x.sorted.imp fun {a b} hab he => by simp [he] at hab
    refine (List.perm_ext_iff_of_nodup (nodup m) (nodup n)).2 fun ⟨k, a⟩ => ?_
    rw [← get?_eq_some_iff, ← get?_eq_some_iff, h]
  refine hperm.eq_of_pairwise ?_ m.sorted n.sorted
  intro a b _ _ hab hba
  have := Std.OrientedCmp.gt_of_lt hab
  rw [hba] at this
  cases this

end Entries

/-- The map with every value replaced. -/
def mapValues (m : SortedMap κ α) (f : α → β) : SortedMap κ β :=
  ⟨m.entries.map fun e => (e.1, f e.2), List.pairwise_map.2 m.sorted⟩

theorem get?_mapValues (m : SortedMap κ α) (f : α → β) (k : κ) :
    (m.mapValues f).get? k = (m.get? k).map f := by
  simp only [get?, mapValues]
  induction m.entries with
  | nil => rfl
  | cons e rest ih =>
    simp only [List.map_cons, lookup, ih]
    split <;> rfl

end SortedMap

/-- Maps keyed by strings, in the order of their characters (which is also the order of their
UTF-8 bytes). -/
abbrev StringMap (α : Type) := SortedMap String α

end AuthProxy
