import Mathlib.Data.List.Forall2
import AuthProxy.Selector

/-! # What a selector means

When labels match a label selector, as it is documented, and that a checked selector selects just
these. What is checked is all there is: every pair and every requirement becomes a term, so a
selector without terms is one in which nothing is written. Such a selector would match everything.
-/

namespace AuthProxy

namespace LabelRequirement

/-- The labels satisfy the requirement. A label that is missing has none of the values. -/
inductive Holds (labels : Labels) (r : LabelRequirement) : Prop where
  | isIn {values : List String} {v : String} (operator : r.operator = "In")
    (given : r.values = some values) (label : labels.get? r.key = some v) (listed : v ∈ values)
  | notIn {values : List String} (operator : r.operator = "NotIn")
    (given : r.values = some values) (unlisted : ∀ v, labels.get? r.key = some v → v ∉ values)
  | present {v : String} (operator : r.operator = "Exists") (label : labels.get? r.key = some v)
  | missing (operator : r.operator = "DoesNotExist") (label : labels.get? r.key = none)

/-- The operator is known, and there is a list of values where it compares values. -/
structure WellFormed (r : LabelRequirement) : Prop where
  operator : r.operator ∈ ["In", "NotIn", "Exists", "DoesNotExist"]
  values : r.operator = "In" ∨ r.operator = "NotIn" → r.values.isSome = true

/-- The term that the requirement stands for. -/
inductive StandsFor (r : LabelRequirement) : SelectorTerm → Prop where
  | isIn {values : List String} (operator : r.operator = "In") (given : r.values = some values) :
    StandsFor r (.isIn r.key values)
  | notIn {values : List String} (operator : r.operator = "NotIn")
    (given : r.values = some values) : StandsFor r (.notIn r.key values)
  | present (operator : r.operator = "Exists") : StandsFor r (.present r.key)
  | missing (operator : r.operator = "DoesNotExist") : StandsFor r (.missing r.key)

variable {r : LabelRequirement} {t : SelectorTerm}

theorem term_eq_ok_iff : r.term = .ok t ↔ r.StandsFor t := by
  constructor
  · intro h
    unfold term at h
    split at h
    · next operator =>
      cases given : r.values with
      | none => rw [given] at h; cases h
      | some values => rw [given] at h; cases h; exact .isIn operator given
    split at h
    · next operator =>
      cases given : r.values with
      | none => rw [given] at h; cases h
      | some values => rw [given] at h; cases h; exact .notIn operator given
    split at h
    · next operator => cases h; exact .present operator
    split at h
    · next operator => cases h; exact .missing operator
    · cases h
  · intro h
    cases h with
    | isIn operator given => simp [term, operator, given]
    | notIn operator given => simp [term, operator, given]
    | present operator => simp [term, operator]
    | missing operator => simp [term, operator]

theorem exists_term_iff : (∃ t, r.term = .ok t) ↔ r.WellFormed := by
  simp only [term_eq_ok_iff]
  constructor
  · rintro ⟨t, ht⟩
    cases ht with
    | isIn operator given => exact ⟨by simp [operator], fun _ => by rw [given]; rfl⟩
    | notIn operator given => exact ⟨by simp [operator], fun _ => by rw [given]; rfl⟩
    | present operator => exact ⟨by simp [operator], by simp [operator]⟩
    | missing operator => exact ⟨by simp [operator], by simp [operator]⟩
  · rintro ⟨known, values⟩
    simp only [List.mem_cons, List.not_mem_nil, or_false] at known
    rcases known with operator | operator | operator | operator
    · obtain ⟨vs, given⟩ := Option.isSome_iff_exists.1 (values (.inl operator))
      exact ⟨_, .isIn operator given⟩
    · obtain ⟨vs, given⟩ := Option.isSome_iff_exists.1 (values (.inr operator))
      exact ⟨_, .notIn operator given⟩
    · exact ⟨_, .present operator⟩
    · exact ⟨_, .missing operator⟩

/-- Labels that satisfy a requirement are accepted by the term that it stands for. -/
theorem Holds.accepted {labels : Labels} (h : r.Holds labels) :
    ∃ t, r.term = .ok t ∧ t.accepts labels = true := by
  simp only [term_eq_ok_iff]
  cases h with
  | isIn operator given label listed =>
    exact ⟨_, .isIn operator given, by simp [SelectorTerm.accepts, label, listed]⟩
  | notIn operator given unlisted =>
    refine ⟨_, .notIn operator given, ?_⟩
    cases label : labels.get? r.key with
    | none => simp [SelectorTerm.accepts, label]
    | some v => simp [SelectorTerm.accepts, label, unlisted v label]
  | present operator label =>
    exact ⟨_, .present operator, by simp [SelectorTerm.accepts, SortedMap.contains, label]⟩
  | missing operator label =>
    exact ⟨_, .missing operator, by simp [SelectorTerm.accepts, SortedMap.contains, label]⟩

theorem holds_of_accepts {labels : Labels} (h : r.term = .ok t)
    (haccepts : t.accepts labels = true) : r.Holds labels := by
  cases term_eq_ok_iff.1 h with
  | isIn operator given =>
    obtain ⟨v, label, listed⟩ := (Option.any_eq_true ..).1 haccepts
    exact .isIn operator given label (by simpa using listed)
  | notIn operator given =>
    refine .notIn operator given fun v label listed => ?_
    simp [SelectorTerm.accepts, label, listed] at haccepts
  | present operator =>
    obtain ⟨v, label⟩ := Option.isSome_iff_exists.1 haccepts
    exact .present operator label
  | missing operator =>
    refine .missing operator ?_
    simpa [SelectorTerm.accepts, SortedMap.contains] using haccepts

/-- **A term accepts just the labels that satisfy the requirement.** -/
theorem accepts_iff {labels : Labels} (h : r.term = .ok t) :
    t.accepts labels = true ↔ r.Holds labels := by
  constructor
  · exact holds_of_accepts h
  · intro holds
    obtain ⟨t', ht', haccepts⟩ := holds.accepted
    rw [h] at ht'
    cases ht'
    exact haccepts

end LabelRequirement

namespace LabelSelector

/-- The pairs that the labels have to contain. -/
def pairs (s : LabelSelector) : Labels := s.matchLabels.getD .empty

def requirements (s : LabelSelector) : List LabelRequirement := s.matchExpressions.getD []

/-- The selector asks for something. -/
def Selective (s : LabelSelector) : Prop := s.pairs.entries ≠ [] ∨ s.requirements ≠ []

/-- The labels match the selector. -/
structure Matches (s : LabelSelector) (labels : Labels) : Prop where
  pairs : ∀ k v, s.pairs.get? k = some v → labels.get? k = some v
  requirements : ∀ r ∈ s.requirements, r.Holds labels

end LabelSelector

namespace Selector

variable {s : LabelSelector} {t : Selector} {rs : List LabelRequirement} {ts : List SelectorTerm}
  {labels : Labels}

/-- One term for each requirement, in order. -/
theorem requirementTerms_eq_ok_iff :
    requirementTerms rs = .ok ts ↔ List.Forall₂ (fun r t => r.term = .ok t) rs ts := by
  induction rs generalizing ts with
  | nil =>
    rw [List.forall₂_nil_left_iff]
    exact ⟨fun h => (Except.ok.inj h).symm, fun h => h ▸ rfl⟩
  | cons r rest ih =>
    rw [List.forall₂_cons_left_iff]
    unfold requirementTerms
    cases hr : r.term with
    | error e =>
      constructor
      · intro h; cases h
      · rintro ⟨t, more, ht, -⟩; cases ht
    | ok t =>
      cases hrest : requirementTerms rest with
      | error e =>
        constructor
        · intro h; cases h
        · rintro ⟨t', more, -, hmore, -⟩
          rw [ih.2 hmore] at hrest
          cases hrest
      | ok more =>
        constructor
        · intro h
          exact ⟨t, more, rfl, ih.1 hrest, (Except.ok.inj h).symm⟩
        · rintro ⟨t', more', ht', hmore', rfl⟩
          cases ht'
          rw [ih.2 hmore'] at hrest
          cases hrest
          rfl

/-- If one requirement stands for no term, none of them becomes one. -/
theorem exists_requirementTerms_iff :
    (∃ ts, requirementTerms rs = .ok ts) ↔ ∀ r ∈ rs, r.WellFormed := by
  simp only [requirementTerms_eq_ok_iff]
  induction rs with
  | nil => simp
  | cons r rest ih =>
    rw [List.forall_mem_cons, ← ih, ← LabelRequirement.exists_term_iff]
    constructor
    · rintro ⟨_, _ | ⟨ht, hmore⟩⟩
      exact ⟨⟨_, ht⟩, _, hmore⟩
    · rintro ⟨⟨t, ht⟩, more, hmore⟩
      exact ⟨t :: more, .cons ht hmore⟩

theorem requirementTerms_accept_iff (h : requirementTerms rs = .ok ts) :
    (∀ t ∈ ts, t.accepts labels = true) ↔ ∀ r ∈ rs, r.Holds labels := by
  induction requirementTerms_eq_ok_iff.1 h with
  | nil => simp
  | cons ht hmore ih =>
    rw [List.forall_mem_cons, List.forall_mem_cons, LabelRequirement.accepts_iff ht,
      ih (requirementTerms_eq_ok_iff.2 hmore)]

theorem pairTerms_accept_iff {pairs : Labels} :
    (∀ t ∈ pairTerms pairs, t.accepts labels = true) ↔
      ∀ k v, pairs.get? k = some v → labels.get? k = some v := by
  simp only [pairTerms, List.forall_mem_map, SelectorTerm.accepts, decide_eq_true_eq,
    SortedMap.get?_eq_some_iff, Prod.forall]

theorem check_eq_ok_iff : check s = .ok t ↔ ∃ more,
    requirementTerms s.requirements = .ok more ∧ t = ⟨pairTerms s.pairs ++ more⟩ := by
  have hcheck : check s =
      (requirementTerms s.requirements).map fun more => ⟨pairTerms s.pairs ++ more⟩ := rfl
  rw [hcheck]
  cases requirementTerms s.requirements with
  | error e =>
    constructor
    · intro h; cases h
    · rintro ⟨more, hmore, -⟩; cases hmore
  | ok more =>
    constructor
    · intro h; exact ⟨more, rfl, (Except.ok.inj h).symm⟩
    · rintro ⟨more', hmore, rfl⟩; cases hmore; rfl

end Selector

namespace LabelSelector

variable {s : LabelSelector} {t : Selector} {labels : Labels}

theorem checked_eq_ok_iff : s.checked = .ok t ↔ Selector.check s = .ok t := by
  unfold checked
  cases Selector.check s <;> simp [Except.mapError]

/-- A selector that is not checked is an invalid one. -/
theorem checked_eq_error {e : Error} (h : s.checked = .error e) :
    ∃ text, e = .invalidSelector text := by
  unfold checked at h
  cases hcheck : Selector.check s with
  | error cause =>
    rw [hcheck] at h
    exact ⟨_, (Except.error.inj h).symm⟩
  | ok t =>
    rw [hcheck] at h
    cases h

/-- **A selector is valid if and only if all its requirements are well formed.** -/
theorem exists_checked_iff : (∃ t, s.checked = .ok t) ↔ ∀ r ∈ s.requirements, r.WellFormed := by
  rw [← Selector.exists_requirementTerms_iff]
  simp only [checked_eq_ok_iff, Selector.check_eq_ok_iff]
  constructor
  · rintro ⟨t, more, hmore, -⟩
    exact ⟨more, hmore⟩
  · rintro ⟨more, hmore⟩
    exact ⟨_, more, hmore, rfl⟩

theorem isEmpty_eq_true_iff : s.isEmpty = true ↔ s.pairs.entries = [] ∧ s.requirements = [] := by
  simp [isEmpty, pairs, requirements, SortedMap.isEmpty]

theorem isEmpty_eq_false_iff : s.isEmpty = false ↔ s.Selective := by
  rw [← Bool.not_eq_true, isEmpty_eq_true_iff, Selective, not_and_or]

/-- **A selector counts as empty if and only if it contributes no term.** -/
theorem isEmpty_iff_checked : s.isEmpty = true ↔ s.checked = .ok ⟨[]⟩ := by
  rw [isEmpty_eq_true_iff, checked_eq_ok_iff, Selector.check_eq_ok_iff]
  simp only [Selector.mk.injEq, List.nil_eq, List.append_eq_nil_iff]
  constructor
  · rintro ⟨hpairs, hrequirements⟩
    rw [hrequirements]
    exact ⟨[], rfl, by simp [Selector.pairTerms, hpairs], rfl⟩
  · rintro ⟨_, hmore, hpairs, rfl⟩
    refine ⟨by simpa [Selector.pairTerms] using hpairs, ?_⟩
    cases hlist : s.requirements with
    | nil => rfl
    | cons r rest =>
      rw [hlist, Selector.requirementTerms_eq_ok_iff] at hmore
      cases hmore

/-- **A checked selector selects just the labels that match.** -/
theorem selects_iff (h : s.checked = .ok t) : t.selects labels = true ↔ s.Matches labels := by
  obtain ⟨more, hmore, rfl⟩ := Selector.check_eq_ok_iff.1 (checked_eq_ok_iff.1 h)
  rw [Selector.selects, List.all_eq_true, List.forall_mem_append, Selector.pairTerms_accept_iff,
    Selector.requirementTerms_accept_iff hmore]
  exact ⟨fun ⟨hpairs, hrequirements⟩ => ⟨hpairs, hrequirements⟩, fun h => ⟨h.pairs, h.requirements⟩⟩

/-- An empty selector would match everything. -/
theorem matches_of_isEmpty (h : s.isEmpty = true) (labels : Labels) : s.Matches labels := by
  rw [← selects_iff (isEmpty_iff_checked.1 h)]
  rfl

end LabelSelector

end AuthProxy
