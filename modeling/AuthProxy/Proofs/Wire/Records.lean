import AuthProxy.Json.Record
import AuthProxy.Proofs.Given
import AuthProxy.Proofs.Wire.Values

/-! # Records of JSON objects

An object is read as a record if no known member occurs twice (`Json.NoRepeat`). What it gives is
then said member by member, and members of other names make no difference (`Json.known`).
-/

namespace AuthProxy

namespace Json

variable {α : Type} {fields : List String} {k : String} {v : Json} {ms : List (String × Json)}
  {read : Json → Read α} {StandsFor : Json → α → Prop} {default a : α}

/-- No two members have the same name, if it is one of these. -/
def NoRepeat (fields : List String) (ms : List (String × Json)) : Prop :=
  ms.Pairwise fun m n => m.1 ∈ fields → m.1 ≠ n.1

theorem duplicate?_eq_none_iff :
    RecordType.duplicate? fields ms = none ↔ NoRepeat fields ms := by
  induction ms with
  | nil => simp [RecordType.duplicate?, NoRepeat]
  | cons e rest ih =>
    obtain ⟨k, v⟩ := e
    rw [NoRepeat, List.pairwise_cons, ← NoRepeat, ← ih, RecordType.duplicate?]
    split
    next h =>
      obtain ⟨hk, m, hm, rfl⟩ : k ∈ fields ∧ ∃ m ∈ rest, m.1 = k := by simpa using h
      exact ⟨nofun, fun hrest => absurd rfl (hrest.1 m hm hk)⟩
    next h =>
      constructor
      · intro hrest
        refine ⟨fun m hm hk heq => h ?_, hrest⟩
        rw [Bool.and_eq_true, List.contains_iff_mem, List.any_eq_true]
        exact ⟨hk, m, hm, decide_eq_true heq.symm⟩
      · exact And.right

/-- A member that does not occur twice is found. -/
theorem NoRepeat.member?_eq_some (h : NoRepeat fields ms) (hk : k ∈ fields) (hv : (k, v) ∈ ms) :
    member? k ms = some v := by
  induction ms with
  | nil => cases hv
  | cons e rest ih =>
    obtain ⟨k', v'⟩ := e
    obtain ⟨he, hrest⟩ := List.pairwise_cons.1 h
    rw [member?]
    rcases List.mem_cons.1 hv with heq | hv
    · cases heq
      exact if_pos rfl
    · have hne : k ≠ k' := fun heq => he (k, v) hv (heq ▸ hk) heq.symm
      rw [if_neg hne]
      exact ih hrest hv

theorem checkMembers_eq_ok_iff {check : String → Json → Read Unit} :
    Record.checkMembers check ms = .ok () ↔ ∀ m ∈ ms, check m.1 m.2 = .ok () := by
  induction ms with
  | nil => simp [Record.checkMembers]
  | cons e rest ih =>
    rw [Record.checkMembers, bind_eq_ok_iff, List.forall_mem_cons, ← ih]
    constructor
    · rintro ⟨⟨⟩, he, hrest⟩
      exact ⟨he, hrest⟩
    · rintro ⟨he, hrest⟩
      exact ⟨(), he, hrest⟩

theorem RecordType.read_obj {t : RecordType} : t.read (.obj ms) =
    match RecordType.duplicate? t.fields ms with
    | some k => .error (.duplicateField k)
    | none => .ok ⟨ms, none⟩ := by
  show (match RecordType.duplicate? t.fields ms with
    | some k => throw (ReadError.duplicateField k)
    | none => _) = _
  cases RecordType.duplicate? t.fields ms <;> rfl

theorem RecordType.read_obj_eq_ok_iff {t : RecordType} {r : Record Json} :
    t.read (.obj ms) = .ok r ↔ NoRepeat t.fields ms ∧ r = ⟨ms, none⟩ := by
  rw [RecordType.read_obj, ← duplicate?_eq_none_iff]
  cases RecordType.duplicate? t.fields ms with
  | some k => exact ⟨nofun, nofun⟩
  | none => simp [eq_comm]

theorem getD_eq_ok_iff (h : ReadsExactly read StandsFor) {r : Record Json} :
    r.getD k read default = .ok a ↔ Given StandsFor default (member? k r.members) a := by
  rw [Record.getD, map_eq_ok_iff, Record.get?]
  cases member? k r.members with
  | none =>
    rw [given_none_iff]
    constructor
    · rintro ⟨o, ⟨⟩, rfl⟩
      rfl
    · rintro rfl
      exact ⟨none, rfl, rfl⟩
  | some v =>
    simp only [given_some_iff, map_eq_ok_iff]
    constructor
    · rintro ⟨o, ⟨b, hb, rfl⟩, rfl⟩
      exact h.1 hb
    · intro ha
      exact ⟨some a, ⟨a, h.2 ha, rfl⟩, rfl⟩

/-- A required member of an object. -/
theorem require_eq_ok_iff (h : ReadsExactly read StandsFor) {t : RecordType} :
    ((⟨ms, none⟩ : Record Json).get? k read >>= t.require ⟨ms, none⟩ k) = .ok a ↔
      ∃ v, member? k ms = some v ∧ StandsFor v a := by
  rw [bind_eq_ok_iff, Record.get?]
  cases member? k ms with
  | none =>
    constructor
    · rintro ⟨o, ⟨⟩, ho⟩
      cases ho
    · rintro ⟨v, ⟨⟩, -⟩
  | some v =>
    simp only [map_eq_ok_iff, Option.some.injEq, exists_eq_left']
    constructor
    · rintro ⟨o, ⟨b, hb, rfl⟩, ⟨⟩⟩
      exact h.1 hb
    · intro ha
      exact ⟨some a, ⟨a, h.2 ha, rfl⟩, rfl⟩

/-- A member that has to be there is given, whatever the default. -/
theorem given_of_required (h : ∃ v, member? k ms = some v ∧ StandsFor v a) :
    Given StandsFor a (member? k ms) a := by
  obtain ⟨v, hv, ha⟩ := h
  rw [hv]
  exact .present ha

/-- The member that is given passes its check. -/
theorem discard_given (h : ReadsExactly read StandsFor) (hrepeat : NoRepeat fields ms)
    (hk : k ∈ fields) (hgiven : Given StandsFor default (member? k ms) a) (hv : (k, v) ∈ ms) :
    discard (read v) = .ok () := by
  rw [hrepeat.member?_eq_some hk hv, given_some_iff] at hgiven
  rw [h.2 hgiven]
  rfl

/-! ## Unknown members -/

/-- The members of these names. -/
def known (fields : List String) (ms : List (String × Json)) : List (String × Json) :=
  ms.filter fun m => fields.contains m.1

theorem known_cons_of_mem (hk : k ∈ fields) :
    known fields ((k, v) :: ms) = (k, v) :: known fields ms :=
  List.filter_cons_of_pos (List.contains_iff_mem.2 hk)

theorem known_cons_of_not_mem (hk : k ∉ fields) : known fields ((k, v) :: ms) = known fields ms :=
  List.filter_cons_of_neg fun h => hk (List.contains_iff_mem.1 h)

theorem member?_known (hk : k ∈ fields) : member? k (known fields ms) = member? k ms := by
  induction ms with
  | nil => rfl
  | cons e rest ih =>
    obtain ⟨k', v⟩ := e
    by_cases hk' : k' ∈ fields
    · rw [known_cons_of_mem hk', member?, member?, ih]
    · have hne : k ≠ k' := fun heq => hk' (heq ▸ hk)
      rw [known_cons_of_not_mem hk', member?, if_neg hne, ih]

theorem any_known (hk : k ∈ fields) :
    (known fields ms).any (fun m => m.1 = k) = ms.any (fun m => m.1 = k) := by
  rw [Bool.eq_iff_iff]
  simp only [known, List.any_eq_true, List.mem_filter, List.contains_iff_mem, decide_eq_true_eq]
  constructor
  · rintro ⟨m, ⟨hm, -⟩, hmk⟩
    exact ⟨m, hm, hmk⟩
  · rintro ⟨m, hm, rfl⟩
    exact ⟨m, ⟨hm, hk⟩, rfl⟩

theorem duplicate?_known :
    RecordType.duplicate? fields (known fields ms) = RecordType.duplicate? fields ms := by
  induction ms with
  | nil => rfl
  | cons e rest ih =>
    obtain ⟨k, v⟩ := e
    by_cases hk : k ∈ fields
    · rw [known_cons_of_mem hk, RecordType.duplicate?, RecordType.duplicate?, ih, any_known hk]
    · have hcontains : fields.contains k = false := by simpa using hk
      rw [known_cons_of_not_mem hk, RecordType.duplicate?, ih, hcontains, Bool.false_and,
        if_neg Bool.false_ne_true]

theorem checkMembers_known {check : String → Json → Read Unit}
    (h : ∀ k v, k ∉ fields → check k v = .ok ()) :
    Record.checkMembers check (known fields ms) = Record.checkMembers check ms := by
  induction ms with
  | nil => rfl
  | cons e rest ih =>
    obtain ⟨k, v⟩ := e
    by_cases hk : k ∈ fields
    · rw [known_cons_of_mem hk, Record.checkMembers, Record.checkMembers, ih]
    · rw [known_cons_of_not_mem hk, Record.checkMembers, h k v hk, ih]
      rfl

end Json

end AuthProxy
