import AuthProxy.Pass.Converge

/-! # Undisturbed runs

How a program that nothing disturbs ends (`Yields`). One equivalence for each way to build a
program; read from left to right they take a run apart, read from right to left they put one
together.
-/

namespace AuthProxy.Program

variable {σ α β : Type} {store : Store σ} {s t : σ} {b : β}

/-- On the store `s` the program ends with `a`, and leaves the store as `t`. -/
def Yields (store : Store σ) (p : Program α) (s : σ) (a : α) (t : σ) : Prop :=
  (p.run store s).result = .ok a ∧ (p.run store s).store = t

/-- A run that ends with a value yields it. -/
theorem yields_of_result {p : Program α} {a : α} (h : (p.run store s).result = .ok a) :
    p.Yields store s a (p.run store s).store := ⟨h, rfl⟩

theorem yields_bind (p : Program α) (f : α → Program β) :
    (p >>= f).Yields store s b t ↔
      ∃ a s', p.Yields store s a s' ∧ (f a).Yields store s' b t := by
  rw [Yields, run_bind]
  constructor
  · intro h
    cases hp : (p.run store s).result with
    | error e => rw [hp] at h; cases h.1
    | ok a => rw [hp] at h; exact ⟨a, _, ⟨hp, rfl⟩, h⟩
  · rintro ⟨a, _, ⟨hp, rfl⟩, h⟩
    rw [hp]
    exact h

@[simp] theorem yields_pure {a : β} :
    (pure a : Program β).Yields store s b t ↔ b = a ∧ t = s := by
  constructor
  · rintro ⟨h, rfl⟩
    exact ⟨(Except.ok.inj h).symm, rfl⟩
  · rintro ⟨rfl, rfl⟩
    exact ⟨rfl, rfl⟩

@[simp] theorem yields_fail {e : Error} : ¬ (fail e : Program β).Yields store s b t := by
  rintro ⟨h, -⟩
  cases h

theorem yields_lift (x : Except Error α) (f : α → Program β) :
    ((liftM x : Program α) >>= f).Yields store s b t ↔
      ∃ a, x = .ok a ∧ (f a).Yields store s b t := by
  cases x with
  | ok a => exact ⟨fun h => ⟨a, rfl, h⟩, fun ⟨_, hx, h⟩ => Except.ok.inj hx ▸ h⟩
  | error e => exact ⟨fun h => absurd h yields_fail, fun ⟨_, hx, _⟩ => by cases hx⟩

@[simp] theorem yields_tell (n : Notice) (f : Unit → Program β) :
    (tell n >>= f).Yields store s b t ↔ (f ()).Yields store s b t := Iff.rfl

@[simp] theorem yields_tellAll (ns : List Notice) (f : Unit → Program β) :
    (tellAll ns >>= f).Yields store s b t ↔ (f ()).Yields store s b t := by
  induction ns with
  | nil => exact Iff.rfl
  | cons n rest ih => exact ih

/-- A call goes on with how it ends. -/
theorem yields_call (c : Call) (next : c.Result → Program β) :
    (call c next).Yields store s b t ↔
      ∃ r s', store c s = (r, s') ∧ (next r).Yields store s' b t :=
  ⟨fun h => ⟨_, _, rfl, h⟩, fun ⟨_, _, hc, h⟩ => by rw [Yields, run, hc]; exact h⟩

theorem yields_ask (c : Call) (f : c.Answer → Program β) :
    (ask c >>= f).Yields store s b t ↔
      ∃ a s', store c s = (.ok a, s') ∧ (f a).Yields store s' b t := by
  refine (yields_call c fun r => (ofExcept r).bind f).trans ⟨?_, ?_⟩
  · rintro ⟨e | a, s', hc, h⟩
    · exact absurd h yields_fail
    · exact ⟨a, s', hc, h⟩
  · rintro ⟨a, s', hc, h⟩
    exact ⟨_, s', hc, h⟩

/-- A write either takes place or loses a race. -/
theorem yields_attempt (c : Call) (f : Bool → Program β) :
    (attempt c >>= f).Yields store s b t ↔
      (∃ a s', store c s = (.ok a, s') ∧ (f true).Yields store s' b t) ∨
        ∃ e s', store c s = (.error e, s') ∧ e.isLostRace = true ∧
          (f false).Yields store s' b t := by
  rw [yields_bind, attempt]
  simp only [yields_call]
  constructor
  · rintro ⟨ok, s'', ⟨e | a, s', hc, h⟩, hf⟩
    · cases he : e.isLostRace with
      | false => simp only [he] at h; exact absurd h yields_fail
      | true =>
        simp only [he, if_true] at h
        obtain ⟨h, rfl⟩ := h
        cases h
        exact .inr ⟨e, _, hc, he, hf⟩
    · obtain ⟨rfl, rfl⟩ := yields_pure.1 h
      exact .inl ⟨a, _, hc, hf⟩
  · rintro (⟨a, s', hc, hf⟩ | ⟨e, s', hc, he, hf⟩)
    · exact ⟨true, s', ⟨_, s', hc, yields_pure.2 ⟨rfl, rfl⟩⟩, hf⟩
    · refine ⟨false, s', ⟨_, s', hc, ?_⟩, hf⟩
      simp only [he, if_true]
      exact ⟨rfl, rfl⟩

theorem yields_thenStep {p : Program (Progress α)} {rest : α → Program Outcome} {o : Outcome} :
    (p.thenStep rest).Yields store s o t ↔
      (∃ a s', p.Yields store s (.proceed a) s' ∧ (rest a).Yields store s' o t) ∨
        ∃ reason, p.Yields store s (.requeue reason) t ∧ o = .requeue reason := by
  rw [thenStep, yields_bind]
  constructor
  · rintro ⟨a | reason, s', hp, hrest⟩
    · exact .inl ⟨a, s', hp, hrest⟩
    · obtain ⟨rfl, rfl⟩ := yields_pure.1 hrest
      exact .inr ⟨reason, hp, rfl⟩
  · rintro (⟨a, s', hp, hrest⟩ | ⟨reason, hp, rfl⟩)
    · exact ⟨_, s', hp, hrest⟩
    · exact ⟨_, t, hp, yields_pure.2 ⟨rfl, rfl⟩⟩

end AuthProxy.Program
