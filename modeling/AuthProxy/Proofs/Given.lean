/-! # Optional parts

Many inputs are optional: a variable may not be set, and a member of a document may be absent. What
such a part gives is what it spells if it is there, and a default otherwise.
-/

namespace AuthProxy

/-- An optional part gives a value: the one that it spells, or the default if it is absent. -/
inductive Given {β α : Type} (Spells : β → α → Prop) (default : α) : Option β → α → Prop
  | absent : Given Spells default none default
  | present {b : β} {a : α} (h : Spells b a) : Given Spells default (some b) a

variable {β α : Type} {Spells : β → α → Prop} {default a : α} {b : β} {part : Option β}

@[simp] theorem given_none_iff : Given Spells default none a ↔ a = default := by
  constructor
  · rintro ⟨⟩
    rfl
  · rintro rfl
    exact .absent

@[simp] theorem given_some_iff : Given Spells default (some b) a ↔ Spells b a := by
  constructor
  · rintro ⟨⟩
    assumption
  · exact .present

/-- A part that is taken as it is. -/
theorem given_eq_iff {part : Option α} : Given Eq default part a ↔ a = part.getD default := by
  cases part with
  | none => simp
  | some b => simp [eq_comm]

/-- An optional part gives something unless it is there and spells nothing. -/
theorem exists_given_iff :
    (∃ a, Given Spells default part a) ↔ ∀ b, part = some b → ∃ a, Spells b a := by
  cases part with
  | none => simp
  | some b => simp

end AuthProxy
