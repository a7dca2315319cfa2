import AuthProxy.Proofs.Wire.Values
import AuthProxy.Wire.Metadata

/-! # Metadata and label selectors, written and read

Objects that drop unknown members are read member by member. What the members of one name give is
`Json.LastMember`, and the meaning of a label selector is put together from it (`IsSelector`).
Written objects are followed member by member in the same way (`Json.foldMembers_written`), so they
are read back.
-/

namespace AuthProxy

namespace Json

variable {α β : Type} {set : α → String → Json → Read α} {StandsFor : Json → β → Prop}
  {k : String} {v : Json} {ms : List (String × Json)}

/-- What the members named `k` give, starting from what holds without any. All of them have to stand
for something, and the last one counts. -/
inductive LastMember (StandsFor : Json → β → Prop) (k : String) :
    β → List (String × Json) → β → Prop
  | none {b : β} : LastMember StandsFor k b [] b
  | named {b c d : β} {v : Json} {ms : List (String × Json)} (hv : StandsFor v c)
    (h : LastMember StandsFor k c ms d) : LastMember StandsFor k b ((k, v) :: ms) d
  | other {b d : β} {k' : String} {v : Json} {ms : List (String × Json)} (hk : k' ≠ k)
    (h : LastMember StandsFor k b ms d) : LastMember StandsFor k b ((k', v) :: ms) d

theorem lastMember_nil_iff {b d : β} : LastMember StandsFor k b [] d ↔ b = d := by
  constructor
  · rintro ⟨⟩
    rfl
  · rintro rfl
    exact .none

theorem lastMember_named_iff {b d : β} : LastMember StandsFor k b ((k, v) :: ms) d ↔
    ∃ c, StandsFor v c ∧ LastMember StandsFor k c ms d := by
  constructor
  · intro h
    cases h with
    | named hv h => exact ⟨_, hv, h⟩
    | other hk => exact absurd rfl hk
  · rintro ⟨c, hv, h⟩
    exact .named hv h

theorem lastMember_other_iff {b d : β} {k' : String} (hk : k' ≠ k) :
    LastMember StandsFor k b ((k', v) :: ms) d ↔ LastMember StandsFor k b ms d := by
  constructor
  · intro h
    cases h with
    | named => exact absurd rfl hk
    | other _ h => exact h
  · exact .other hk

theorem foldMembers_cons_iff {a c : α} : foldMembers set a ((k, v) :: ms) = .ok c ↔
    ∃ b, set a k v = .ok b ∧ foldMembers set b ms = .ok c := by
  rw [foldMembers, bind_eq_ok_iff]
  cases set a k v with
  | error e => simp [Except.mapError]
  | ok b => simp [Except.mapError]

/-- A member that is named so changes the structure to what it stands for. -/
theorem foldMembers_named_iff {p : β → α} {a c : α} {read : Json → Read β}
    (hread : ReadsExactly read StandsFor) (hset : set a k v = (read v).map p) :
    foldMembers set a ((k, v) :: ms) = .ok c ↔
      ∃ b, StandsFor v b ∧ foldMembers set (p b) ms = .ok c := by
  rw [foldMembers_cons_iff, hset]
  constructor
  · rintro ⟨a', ha', hc⟩
    obtain ⟨b, hb, rfl⟩ := map_eq_ok_iff.1 ha'
    exact ⟨b, hread.1 hb, hc⟩
  · rintro ⟨b, hb, hc⟩
    exact ⟨p b, map_eq_ok_iff.2 ⟨b, hread.2 hb, rfl⟩, hc⟩

/-- A member that leaves the structure as it was is passed over. -/
theorem foldMembers_ignored_iff {a c : α} (hset : set a k v = .ok a) :
    foldMembers set a ((k, v) :: ms) = .ok c ↔ foldMembers set a ms = .ok c := by
  rw [foldMembers_cons_iff, hset]
  constructor
  · rintro ⟨_, ⟨⟩, h⟩
    exact h
  · exact fun h => ⟨a, rfl, h⟩

theorem foldObject_eq_ok_iff {expected : String} {start a : α} :
    foldObject expected start set v = .ok a ↔
      ∃ ms, v = .obj ms ∧ foldMembers set start ms = .ok a := by
  cases v with
  | obj ms =>
    have hread : foldObject expected start set (.obj ms) = foldMembers set start ms := by
      show (foldMembers set start ms >>= .ok) = _
      cases foldMembers set start ms <;> rfl
    rw [hread]
    exact ⟨fun h => ⟨ms, rfl, h⟩, fun ⟨_, hms, h⟩ => (Json.obj.inj hms) ▸ h⟩
  | _ => exact ⟨nofun, nofun⟩

/-! ## What is written -/

/-- The members that are there. -/
def present (ms : List (String × Option Json)) : List (String × Json) :=
  ms.filterMap fun m => m.2.map fun v => (m.1, v)

/-- A written member is read back, and an absent one is left as it was. -/
theorem foldMembers_written {read : Json → Read β} {write : β → Json} {a : α}
    {ms : List (String × Option Json)} (o : Option β) (u : α → Option β → α)
    (habsent : u a none = a) (hset : ∀ v, set a k v = (readOption read v).map (u a))
    (hread : ∀ b, readOption read (write b) = .ok (some b)) :
    foldMembers set a (present ((k, o.map write) :: ms)) =
      foldMembers set (u a o) (present ms) := by
  cases o with
  | none => rw [habsent]; rfl
  | some b =>
    show foldMembers set a ((k, write b) :: present ms) = _
    rw [foldMembers, hset, hread]
    rfl

/-! ## Optional texts, lists and maps of them -/

/-- A text, empty for a null. -/
def IsTextOrNull (v : Json) (s : String) : Prop := ∃ o, Nullable IsText v o ∧ s = o.getD ""

theorem readText_exactly : ReadsExactly (readOption readString) (Nullable IsText) :=
  readOption_exactly readString_exactly fun _ h => by cases h

theorem readTexts_exactly :
    ReadsExactly (readOption (readList readString)) (Nullable (ListOf IsText)) :=
  readOption_exactly (readList_exactly readString_exactly) fun _ h => by cases h

theorem readTextMap_exactly :
    ReadsExactly (readOption (readMap readString)) (Nullable (MapOf IsText)) :=
  readOption_exactly (readMap_exactly readString_exactly) fun _ h => by cases h

theorem readText_written (s : String) : readOption readString (Json.str s) = .ok (some s) := rfl

theorem readFlag_written (b : Bool) : readOption readBool (Json.bool b) = .ok (some b) := rfl

theorem readList_written {read : Json → Read β} {write : β → Json}
    (h : ∀ b, read (write b) = .ok b) (l : List β) :
    readOption (readList read) (ofList write l) = .ok (some l) :=
  (readOption_exactly (readList_exactly Iff.rfl) fun _ h => by cases h).2
    (.value (listOf_ofList h l))

theorem readTexts_written (l : List String) :
    readOption (readList readString) (ofStrings l) = .ok (some l) :=
  readList_written (fun s => (rfl : readString (Json.str s) = .ok s)) l

theorem readTextMap_written (m : Labels) :
    readOption (readMap readString) (ofTexts m) = .ok (some m) :=
  readTextMap_exactly.2 (.value (mapOf_ofMap (fun s => (rfl : IsText (.str s) s)) m))

end Json

open Json

/-! ## Metadata -/

theorem OwnerReference.read_write (r : OwnerReference) : read r.write = .ok r := by
  refine foldObject_eq_ok_iff.2 ⟨_, rfl, ?_⟩
  -- one step for each member, from what the members before it have made of the empty reference
  refine (foldMembers_written (some r.apiVersion)
    (fun (r : OwnerReference) o => { r with apiVersion := o.getD "" }) rfl (fun _ => rfl)
    readText_written).trans ?_
  refine (foldMembers_written r.blockOwnerDeletion
    (fun (r : OwnerReference) o => { r with blockOwnerDeletion := o }) rfl (fun _ => rfl)
    readFlag_written).trans ?_
  refine (foldMembers_written r.controller
    (fun (r : OwnerReference) o => { r with controller := o }) rfl (fun _ => rfl)
    readFlag_written).trans ?_
  refine (foldMembers_written (some r.kind)
    (fun (r : OwnerReference) o => { r with kind := o.getD "" }) rfl (fun _ => rfl)
    readText_written).trans ?_
  refine (foldMembers_written (some r.name)
    (fun (r : OwnerReference) o => { r with name := o.getD "" }) rfl (fun _ => rfl)
    readText_written).trans ?_
  exact foldMembers_written (some r.uid)
    (fun (r : OwnerReference) o => { r with uid := o.getD "" }) rfl (fun _ => rfl)
    readText_written

theorem ObjectMeta.read_write (m : ObjectMeta) : read m.write = .ok m := by
  have hgeneration (n : Int64) : readOption readInt64 (ofInt64 n) = .ok (some n) := by
    show (readInt64 _).map some = _
    rw [readInt64_ofInt64]
    rfl
  refine foldObject_eq_ok_iff.2 ⟨_, rfl, ?_⟩
  refine (foldMembers_written m.annotations
    (fun (m : ObjectMeta) o => { m with annotations := o }) rfl (fun _ => rfl)
    readTextMap_written).trans ?_
  refine (foldMembers_written m.finalizers
    (fun (m : ObjectMeta) o => { m with finalizers := o }) rfl (fun _ => rfl)
    readTexts_written).trans ?_
  refine (foldMembers_written m.generateName
    (fun (m : ObjectMeta) o => { m with generateName := o }) rfl (fun _ => rfl)
    readText_written).trans ?_
  refine (foldMembers_written m.generation
    (fun (m : ObjectMeta) o => { m with generation := o }) rfl (fun _ => rfl)
    hgeneration).trans ?_
  refine (foldMembers_written m.labels
    (fun (m : ObjectMeta) o => { m with labels := o }) rfl (fun _ => rfl)
    readTextMap_written).trans ?_
  refine (foldMembers_written m.name
    (fun (m : ObjectMeta) o => { m with name := o }) rfl (fun _ => rfl)
    readText_written).trans ?_
  refine (foldMembers_written m.ns
    (fun (m : ObjectMeta) o => { m with ns := o }) rfl (fun _ => rfl)
    readText_written).trans ?_
  refine (foldMembers_written m.ownerReferences
    (fun (m : ObjectMeta) o => { m with ownerReferences := o }) rfl (fun _ => rfl)
    (readList_written OwnerReference.read_write)).trans ?_
  refine (foldMembers_written m.resourceVersion
    (fun (m : ObjectMeta) o => { m with resourceVersion := o }) rfl (fun _ => rfl)
    readText_written).trans ?_
  exact foldMembers_written m.uid
    (fun (m : ObjectMeta) o => { m with uid := o }) rfl (fun _ => rfl)
    readText_written

/-! ## Label selectors -/

/-- A requirement as an object. -/
inductive IsRequirement : Json → LabelRequirement → Prop
  | members {ms : List (String × Json)} {r : LabelRequirement}
    (key : LastMember IsTextOrNull "key" "" ms r.key)
    (operator : LastMember IsTextOrNull "operator" "" ms r.operator)
    (values : LastMember (Nullable (ListOf IsText)) "values" none ms r.values) :
    IsRequirement (.obj ms) r

/-- A label selector as an object. -/
inductive IsSelector : Json → LabelSelector → Prop
  | members {ms : List (String × Json)} {s : LabelSelector}
    (matchExpressions : LastMember (Nullable (ListOf IsRequirement)) "matchExpressions" none ms
      s.matchExpressions)
    (matchLabels : LastMember (Nullable (MapOf IsText)) "matchLabels" none ms s.matchLabels) :
    IsSelector (.obj ms) s

namespace LabelRequirement

theorem foldMembers_eq_ok_iff {ms : List (String × Json)} {r r' : LabelRequirement} :
    foldMembers setMember r ms = .ok r' ↔
      LastMember IsTextOrNull "key" r.key ms r'.key ∧
      LastMember IsTextOrNull "operator" r.operator ms r'.operator ∧
      LastMember (Nullable (ListOf IsText)) "values" r.values ms r'.values := by
  induction ms generalizing r with
  | nil =>
    cases r
    cases r'
    simp only [foldMembers, Except.ok.injEq, lastMember_nil_iff, LabelRequirement.mk.injEq]
  | cons e rest ih =>
    obtain ⟨k, v⟩ := e
    by_cases hkey : k = "key"
    · subst hkey
      rw [foldMembers_named_iff (p := fun o => { r with key := o.getD "" }) readText_exactly rfl]
      simp only [ih, lastMember_named_iff, lastMember_other_iff, ne_eq, String.reduceEq,
        not_false_eq_true, IsTextOrNull]
      grind
    by_cases hoperator : k = "operator"
    · subst hoperator
      rw [foldMembers_named_iff (p := fun o => { r with operator := o.getD "" })
        readText_exactly rfl]
      simp only [ih, lastMember_named_iff, lastMember_other_iff, ne_eq, String.reduceEq,
        not_false_eq_true, IsTextOrNull]
      grind
    by_cases hvalues : k = "values"
    · subst hvalues
      rw [foldMembers_named_iff (p := fun o => { r with values := o }) readTexts_exactly rfl]
      simp only [ih, lastMember_named_iff, lastMember_other_iff, ne_eq, String.reduceEq,
        not_false_eq_true]
      grind
    · have hset : setMember r k v = .ok r := by
        unfold setMember
        split
        all_goals first | contradiction | rfl
      rw [foldMembers_ignored_iff hset, ih, lastMember_other_iff hkey,
        lastMember_other_iff hoperator, lastMember_other_iff hvalues]

theorem read_exactly : ReadsExactly read IsRequirement := by
  intro v r
  rw [read, foldObject_eq_ok_iff]
  constructor
  · rintro ⟨ms, rfl, h⟩
    obtain ⟨hkey, hoperator, hvalues⟩ := foldMembers_eq_ok_iff.1 h
    exact .members hkey hoperator hvalues
  · rintro ⟨hkey, hoperator, hvalues⟩
    exact ⟨_, rfl, foldMembers_eq_ok_iff.2 ⟨hkey, hoperator, hvalues⟩⟩

theorem read_write (r : LabelRequirement) : read r.write = .ok r := by
  refine foldObject_eq_ok_iff.2 ⟨_, rfl, ?_⟩
  refine (foldMembers_written (some r.key)
    (fun (r : LabelRequirement) o => { r with key := o.getD "" }) rfl (fun _ => rfl)
    readText_written).trans ?_
  refine (foldMembers_written (some r.operator)
    (fun (r : LabelRequirement) o => { r with operator := o.getD "" }) rfl (fun _ => rfl)
    readText_written).trans ?_
  exact foldMembers_written r.values
    (fun (r : LabelRequirement) o => { r with values := o }) rfl (fun _ => rfl)
    readTexts_written

end LabelRequirement

namespace LabelSelector

theorem readRequirements_exactly :
    ReadsExactly (readOption (readList LabelRequirement.read)) (Nullable (ListOf IsRequirement)) :=
  readOption_exactly (readList_exactly LabelRequirement.read_exactly) fun _ h => by cases h

theorem foldMembers_eq_ok_iff {ms : List (String × Json)} {s s' : LabelSelector} :
    foldMembers setMember s ms = .ok s' ↔
      LastMember (Nullable (ListOf IsRequirement)) "matchExpressions" s.matchExpressions ms
        s'.matchExpressions ∧
      LastMember (Nullable (MapOf IsText)) "matchLabels" s.matchLabels ms s'.matchLabels := by
  induction ms generalizing s with
  | nil =>
    cases s
    cases s'
    simp only [foldMembers, Except.ok.injEq, lastMember_nil_iff, LabelSelector.mk.injEq]
  | cons e rest ih =>
    obtain ⟨k, v⟩ := e
    by_cases hexpressions : k = "matchExpressions"
    · subst hexpressions
      rw [foldMembers_named_iff (p := fun o => { s with matchExpressions := o })
        readRequirements_exactly rfl]
      simp only [ih, lastMember_named_iff, lastMember_other_iff, ne_eq, String.reduceEq,
        not_false_eq_true]
      grind
    by_cases hlabels : k = "matchLabels"
    · subst hlabels
      rw [foldMembers_named_iff (p := fun o => { s with matchLabels := o })
        readTextMap_exactly rfl]
      simp only [ih, lastMember_named_iff, lastMember_other_iff, ne_eq, String.reduceEq,
        not_false_eq_true]
      grind
    · have hset : setMember s k v = .ok s := by
        unfold setMember
        split
        all_goals first | contradiction | rfl
      rw [foldMembers_ignored_iff hset, ih, lastMember_other_iff hexpressions,
        lastMember_other_iff hlabels]

theorem read_exactly : ReadsExactly read IsSelector := by
  intro v s
  rw [read, foldObject_eq_ok_iff]
  constructor
  · rintro ⟨ms, rfl, h⟩
    obtain ⟨hexpressions, hlabels⟩ := foldMembers_eq_ok_iff.1 h
    exact .members hexpressions hlabels
  · rintro ⟨hexpressions, hlabels⟩
    exact ⟨_, rfl, foldMembers_eq_ok_iff.2 ⟨hexpressions, hlabels⟩⟩

theorem read_write (s : LabelSelector) : read s.write = .ok s := by
  refine foldObject_eq_ok_iff.2 ⟨_, rfl, ?_⟩
  refine (foldMembers_written s.matchExpressions
    (fun (s : LabelSelector) o => { s with matchExpressions := o }) rfl (fun _ => rfl)
    (readList_written LabelRequirement.read_write)).trans ?_
  exact foldMembers_written s.matchLabels
    (fun (s : LabelSelector) o => { s with matchLabels := o }) rfl (fun _ => rfl)
    readTextMap_written

end LabelSelector

end AuthProxy
