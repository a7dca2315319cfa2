import AuthProxy.Discovery.Group
import Mathlib.Data.Prod.Lex
import Mathlib.Data.String.Basic

/-! # Which version is recommended

The order of preference among versions is lexicographic: by stage, by the number before and the
number after it, and by name (`ApiVersion.precedes_iff`). It is total, so among the versions of a
group there are highest ones, and the first of them is recommended unless the server prefers
another (`ApiGroup.recommended?_eq_some_iff`).
-/

namespace AuthProxy

namespace ApiVersion

/-- The name of a version that says nothing else. -/
def otherName : ApiVersion → String
  | other name => name
  | stable _ | beta .. | alpha .. => ""

/-- The rank of a version. Of two versions the one with the higher rank comes first, and so does an
earlier name. -/
def rank (v : ApiVersion) : Nat ×ₗ Nat ×ₗ Nat ×ₗ Stringᵒᵈ :=
  toLex (v.stage, toLex (v.major, toLex (v.minor, OrderDual.toDual v.otherName)))

/-- A number decides unless it is the same on both sides. -/
theorem decided_iff {m n : Nat} {rest : Bool} :
    (if m ≠ n then decide (n < m) else rest) = true ↔ n < m ∨ n = m ∧ rest = true := by
  by_cases h : m = n
  · simp [h]
  · simp [h, Ne.symm h]

theorem precedes_iff {v w : ApiVersion} : v.precedes w = true ↔ w.rank < v.rank := by
  simp only [precedes, rank, decided_iff, Prod.Lex.toLex_lt_toLex, OrderDual.toDual_lt_toDual]
  refine or_congr_right (and_congr_right fun hstage => ?_)
  refine or_congr_right (and_congr_right fun _ => or_congr_right (and_congr_right fun _ => ?_))
  -- two versions of one stage both have names of their own, or neither has
  cases v <;> cases w <;> simp [stage, otherName] at hstage ⊢

end ApiVersion

namespace ApiGroup

open ApiVersion (ofName rank)

variable {g : ApiGroup} {names : List String} {v : String}

theorem mem_of_highest? (h : highest? names = some v) : v ∈ names := by
  induction names generalizing v with
  | nil => cases h
  | cons x names ih =>
    cases hrest : highest? names with
    | none =>
      simp only [highest?, hrest, Option.some.injEq] at h
      simp [h]
    | some w =>
      simp only [highest?, hrest] at h
      split at h
      · cases h
        exact List.mem_cons_of_mem x (ih hrest)
      · cases h
        exact List.mem_cons_self

theorem highest?_eq_none (h : highest? names = none) : names = [] := by
  cases names with
  | nil => rfl
  | cons x names =>
    simp only [highest?] at h
    split at h
    · cases h
    · split at h <;> cases h

/-- The first of the versions that no other one outranks: those before it have lower ranks, those
after it no higher ones. -/
def IsFirstHighest (names : List String) (v : String) : Prop :=
  ∃ before after, names = before ++ v :: after ∧
    (∀ w ∈ before, (ofName w).rank < (ofName v).rank) ∧
    ∀ w ∈ after, (ofName w).rank ≤ (ofName v).rank

theorem isFirstHighest_of_highest? (h : highest? names = some v) : IsFirstHighest names v := by
  induction names generalizing v with
  | nil => cases h
  | cons x names ih =>
    cases hrest : highest? names with
    | none =>
      simp only [highest?, hrest, Option.some.injEq] at h
      subst h
      exact ⟨[], names, rfl, by simp, by simp [highest?_eq_none hrest]⟩
    | some w =>
      obtain ⟨before, after, heq, hbefore, hafter⟩ := ih hrest
      simp only [highest?, hrest, ApiVersion.precedes_iff] at h
      split at h
      · next hx =>
        cases h
        refine ⟨x :: before, after, by simp [heq], ?_, hafter⟩
        simpa using ⟨hx, hbefore⟩
      · next hx =>
        cases h
        refine ⟨[], names, rfl, by simp, ?_⟩
        intro y hy
        -- the highest of the rest does not outrank the first one, so nothing in the rest does
        have hw : (ofName w).rank ≤ (ofName x).rank := not_lt.1 hx
        rw [heq] at hy
        rcases List.mem_append.1 hy with hy | hy
        · exact (hbefore y hy).le.trans hw
        · rcases List.mem_cons.1 hy with rfl | hy
          · exact hw
          · exact (hafter y hy).trans hw

/-- By induction on the versions before the highest one. -/
theorem highest?_eq_some_iff : highest? names = some v ↔ IsFirstHighest names v := by
  refine ⟨isFirstHighest_of_highest?, ?_⟩
  rintro ⟨before, after, rfl, hbefore, hafter⟩
  induction before with
  | nil =>
    cases hrest : highest? after with
    | none => simp [highest?, hrest]
    | some w =>
      have hw := hafter w (mem_of_highest? hrest)
      simp [highest?, hrest, ApiVersion.precedes_iff, not_lt.2 hw]
  | cons x before ih =>
    obtain ⟨hx, hbefore⟩ := List.forall_mem_cons.1 hbefore
    simp [highest?, ih hbefore, ApiVersion.precedes_iff, hx]

/-- The version that counts for a group: the one that the server prefers, or else the first of the
highest ones. -/
inductive Recommends (g : ApiGroup) (v : String) : Prop where
  | preferred (h : g.preferred = some v)
  | highest (h : g.preferred = none) (hv : IsFirstHighest (g.versions.map (·.1)) v)

theorem recommended?_eq_some_iff : g.recommended? = some v ↔ g.Recommends v := by
  unfold recommended?
  cases h : g.preferred with
  | none =>
    simp only [Option.orElse_none, highest?_eq_some_iff]
    constructor
    · exact .highest h
    · intro hv
      cases hv with
      | preferred hsome => simp [h] at hsome
      | highest _ hv => exact hv
  | some w =>
    simp only [Option.orElse_some, Option.some.injEq]
    constructor
    · rintro rfl
      exact .preferred h
    · intro hv
      cases hv with
      | preferred hsome => exact Option.some.inj (h.symm.trans hsome)
      | highest hnone _ => simp [h] at hnone

end ApiGroup

end AuthProxy
