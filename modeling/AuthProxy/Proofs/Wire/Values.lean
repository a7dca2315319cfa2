import AuthProxy.Json.Read
import AuthProxy.Json.Write
import Mathlib.Data.List.Forall2

/-! # What JSON values stand for

A reader has a relation between values and what they stand for, which does not mention how they are
read: a text, a number in its range, a list of such values. The reader finds exactly that
(`Json.ReadsExactly`). What is written stands for what it was written from, so it is read back.
-/

namespace AuthProxy

namespace SortedMap

variable {κ α : Type} [Ord κ] [Std.TransOrd κ]

/-- A key beyond all others goes to the end. -/
theorem insertEntry_of_forall_lt {k : κ} {a : α} {l : List (κ × α)}
    (h : ∀ e ∈ l, compare e.1 k = .lt) : insertEntry k a l = l ++ [(k, a)] := by
  induction l with
  | nil => rfl
  | cons e rest ih =>
    obtain ⟨he, hrest⟩ := List.forall_mem_cons.1 h
    simp only [insertEntry, Std.OrientedCmp.gt_of_lt he, ih hrest, List.cons_append]

/-- Pairs in increasing order, all beyond the bindings of a map, go to its end. -/
theorem entries_foldl_insert {m : SortedMap κ α} {l : List (κ × α)}
    (h : (m.entries ++ l).Pairwise (fun a b => compare a.1 b.1 = .lt)) :
    (l.foldl (fun m e => m.insert e.1 e.2) m).entries = m.entries ++ l := by
  induction l generalizing m with
  | nil => exact (List.append_nil _).symm
  | cons e rest ih =>
    have hentries : (m.insert e.1 e.2).entries = m.entries ++ [e] :=
      insertEntry_of_forall_lt fun d hd =>
        (List.pairwise_append.1 h).2.2 d hd e List.mem_cons_self
    rw [List.foldl_cons, ih, hentries, List.append_assoc, List.singleton_append]
    rw [hentries, List.append_assoc, List.singleton_append]
    exact h

theorem ofList_entries (m : SortedMap κ α) : ofList m.entries = m :=
  ext (entries_foldl_insert (m := .empty) m.sorted)

end SortedMap

namespace Json

variable {α β : Type}

theorem bind_eq_ok_iff {x : Read α} {f : α → Read β} {b : β} :
    (x >>= f) = .ok b ↔ ∃ a, x = .ok a ∧ f a = .ok b := by
  cases x with
  | error e => exact ⟨nofun, nofun⟩
  | ok a => exact ⟨fun h => ⟨a, rfl, h⟩, fun ⟨_, h, hf⟩ => Except.ok.inj h ▸ hf⟩

theorem map_eq_ok_iff {x : Read α} {f : α → β} {b : β} :
    x.map f = .ok b ↔ ∃ a, x = .ok a ∧ f a = b := by
  cases x with
  | error e => exact ⟨nofun, nofun⟩
  | ok a => simp [Except.map]

/-- A reader finds exactly what a value stands for. -/
def ReadsExactly (read : Json → Read α) (StandsFor : Json → α → Prop) : Prop :=
  ∀ {v a}, read v = .ok a ↔ StandsFor v a

/-! ## Basic types -/

def IsText (v : Json) (s : String) : Prop := v = .str s

def IsFlag (v : Json) (b : Bool) : Prop := v = .bool b

def IsInt32 (v : Json) (n : Int32) : Prop := v = .int n.toInt

theorem readString_exactly : ReadsExactly readString IsText := by
  intro v s
  cases v with
  | str t =>
    show Except.ok t = Except.ok s ↔ Json.str t = .str s
    rw [Except.ok.injEq, Json.str.injEq]
  | _ => exact ⟨nofun, nofun⟩

theorem readBool_exactly : ReadsExactly readBool IsFlag := by
  intro v b
  cases v with
  | bool c =>
    show Except.ok c = Except.ok b ↔ Json.bool c = .bool b
    rw [Except.ok.injEq, Json.bool.injEq]
  | _ => exact ⟨nofun, nofun⟩

theorem readIntIn_eq_ok_iff {least greatest n : Int} {expected : String} {v : Json} :
    readIntIn least greatest expected v = .ok n ↔ v = .int n ∧ least ≤ n ∧ n ≤ greatest := by
  cases v with
  | int m =>
    show (if least ≤ m ∧ m ≤ greatest then pure m else throw _) = _ ↔ _
    split
    next hm =>
      constructor
      · rintro ⟨⟩
        exact ⟨rfl, hm⟩
      · rintro ⟨⟨⟩, -⟩
        rfl
    next hm =>
      constructor
      · nofun
      · rintro ⟨⟨⟩, hn⟩
        exact absurd hn hm
  | _ => exact ⟨nofun, nofun⟩

theorem readInt32_exactly : ReadsExactly readInt32 IsInt32 := by
  intro v n
  rw [readInt32, map_eq_ok_iff]
  constructor
  · rintro ⟨m, hm, rfl⟩
    obtain ⟨rfl, hleast, hgreatest⟩ := readIntIn_eq_ok_iff.1 hm
    rw [IsInt32, Int32.toInt_ofInt_of_le hleast (by omega)]
  · rintro rfl
    exact ⟨n.toInt, readIntIn_eq_ok_iff.2 ⟨rfl, n.le_toInt, n.toInt_le⟩, Int32.ofInt_toInt n⟩

theorem readInt64_ofInt64 (n : Int64) : readInt64 (ofInt64 n) = .ok n := by
  rw [readInt64, map_eq_ok_iff]
  exact ⟨n.toInt, readIntIn_eq_ok_iff.2 ⟨rfl, n.le_toInt, n.toInt_le⟩, Int64.ofInt_toInt n⟩

/-! ## Values of values -/

/-- What values stand for, or nothing for a null. -/
inductive Nullable (StandsFor : Json → α → Prop) : Json → Option α → Prop
  | null : Nullable StandsFor .null none
  | value {v : Json} {a : α} (h : StandsFor v a) : Nullable StandsFor v (some a)

/-- A list of values. -/
inductive ListOf (StandsFor : Json → α → Prop) : Json → List α → Prop
  | items {items : List Json} {as : List α} (h : List.Forall₂ StandsFor items as) :
    ListOf StandsFor (.arr items) as

/-- A map to values. Of equal keys the last one counts, but all values have to stand for
something. -/
inductive MapOf (StandsFor : Json → α → Prop) : Json → StringMap α → Prop
  | members {ms : List (String × Json)} {entries : List (String × α)}
    (h : List.Forall₂ (fun m e => m.1 = e.1 ∧ StandsFor m.2 e.2) ms entries) :
    MapOf StandsFor (.obj ms) (.ofList entries)

section

variable {read : Json → Read α} {StandsFor : Json → α → Prop} {write : α → Json}

theorem readOption_exactly (h : ReadsExactly read StandsFor) (hnull : ∀ a, ¬StandsFor .null a) :
    ReadsExactly (readOption read) (Nullable StandsFor) := by
  intro v o
  cases v with
  | null =>
    constructor
    · rintro ⟨⟩
      exact .null
    · intro ho
      cases ho with
      | null => rfl
      | value ha => exact absurd ha (hnull _)
  | _ =>
    show (read _).map some = _ ↔ _
    rw [map_eq_ok_iff]
    constructor
    · rintro ⟨a, ha, rfl⟩
      exact .value (h.1 ha)
    · intro ho
      cases ho with
      | value ha => exact ⟨_, h.2 ha, rfl⟩

theorem readItems_eq_ok_iff (h : ReadsExactly read StandsFor) {items : List Json} {as : List α} :
    readItems read items = .ok as ↔ List.Forall₂ StandsFor items as := by
  induction items generalizing as with
  | nil =>
    rw [List.forall₂_nil_left_iff]
    exact ⟨fun has => (Except.ok.inj has).symm, fun has => has ▸ rfl⟩
  | cons v rest ih =>
    constructor
    · intro has
      obtain ⟨a, ha, has⟩ := bind_eq_ok_iff.1 has
      obtain ⟨more, hmore, ⟨⟩⟩ := bind_eq_ok_iff.1 has
      exact .cons (h.1 ha) (ih.1 hmore)
    · intro has
      cases has with
      | cons ha hmore => exact bind_eq_ok_iff.2 ⟨_, h.2 ha, bind_eq_ok_iff.2 ⟨_, ih.2 hmore, rfl⟩⟩

theorem readList_exactly (h : ReadsExactly read StandsFor) :
    ReadsExactly (readList read) (ListOf StandsFor) := by
  intro v as
  cases v with
  | arr items =>
    have hread : readList read (.arr items) = readItems read items := by
      show (readItems read items >>= .ok) = _
      cases readItems read items <;> rfl
    rw [hread, readItems_eq_ok_iff h]
    exact ⟨.items, fun ⟨has⟩ => has⟩
  | _ => exact ⟨nofun, nofun⟩

/-- Members are bound in order to what their values stand for. -/
theorem readEntries_eq_ok_iff (h : ReadsExactly read StandsFor) {ms : List (String × Json)}
    {m m' : StringMap α} : readEntries read m ms = .ok m' ↔
      ∃ entries : List (String × α),
        List.Forall₂ (fun m e => m.1 = e.1 ∧ StandsFor m.2 e.2) ms entries ∧
          m' = entries.foldl (fun m e => m.insert e.1 e.2) m := by
  induction ms generalizing m with
  | nil =>
    constructor
    · rintro ⟨⟩
      exact ⟨[], .nil, rfl⟩
    · rintro ⟨entries, ⟨⟩, rfl⟩
      rfl
  | cons e rest ih =>
    constructor
    · intro hm
      obtain ⟨a, ha, hm⟩ := bind_eq_ok_iff.1 hm
      obtain ⟨entries, hentries, rfl⟩ := ih.1 hm
      exact ⟨(e.1, a) :: entries, .cons ⟨rfl, h.1 ha⟩ hentries, rfl⟩
    · rintro ⟨entries, hentries, rfl⟩
      cases hentries with
      | @cons _ d _ entries hd hentries =>
        obtain ⟨k, v⟩ := e
        obtain ⟨rfl, ha⟩ := hd
        exact bind_eq_ok_iff.2 ⟨d.2, h.2 ha, ih.2 ⟨entries, hentries, rfl⟩⟩

theorem readMap_exactly (h : ReadsExactly read StandsFor) :
    ReadsExactly (readMap read) (MapOf StandsFor) := by
  intro v m
  cases v with
  | obj ms =>
    have hread : readMap read (.obj ms) = readEntries read .empty ms := by
      show (readEntries read .empty ms >>= .ok) = _
      cases readEntries read .empty ms <;> rfl
    rw [hread, readEntries_eq_ok_iff h]
    constructor
    · rintro ⟨entries, hentries, rfl⟩
      exact .members hentries
    · rintro ⟨hentries⟩
      exact ⟨_, hentries, rfl⟩
  | _ => exact ⟨nofun, nofun⟩

/-! ## What is written -/

theorem listOf_ofList (h : ∀ a, StandsFor (write a) a) (as : List α) :
    ListOf StandsFor (ofList write as) as :=
  .items (List.forall₂_map_left_iff.2 (List.forall₂_same.2 fun a _ => h a))

theorem mapOf_ofMap (h : ∀ a, StandsFor (write a) a) (m : StringMap α) :
    MapOf StandsFor (ofMap write m) m := by
  have hm : MapOf StandsFor (ofMap write m) (.ofList m.entries) :=
    .members (List.forall₂_map_left_iff.2 (List.forall₂_same.2 fun e _ => ⟨rfl, h e.2⟩))
  rwa [SortedMap.ofList_entries] at hm

end

end Json

end AuthProxy
