import AuthProxy.Cluster.Bench

/-! # Paths of a program

A path is what one assignment of answers makes of a program: the calls it made so far, each with how
it ended. `Obeys` bounds every path at once: each call satisfies a law that may look at the calls
before it, and so does the end. Nothing is assumed of the answers, so what is obeyed is obeyed on
every store, whatever else happens to that store between the calls.
-/

namespace AuthProxy

/-- The calls that a program made, the earliest first. -/
abbrev Path : Type := List CallRecord

namespace Program

variable {α β : Type} {law : Path → Call → Prop} {past : Path}

/-- Every call that the program makes after `past` satisfies the law, and however it ends, it ends
as `ends` says. -/
def Obeys (law : Path → Call → Prop) (ends : Path → Except Error α → Prop) :
    Program α → Path → Prop
  | done a, past => ends past (.ok a)
  | fail e, past => ends past (.error e)
  | note _ p, past => p.Obeys law ends past
  | call c next, past => law past c ∧ ∀ r, (next r).Obeys law ends (past ++ [⟨c, r⟩])

/-- How the rest of a program takes over where its first part ends. -/
def continuing (law : Path → Call → Prop) (ends : Path → Except Error β → Prop)
    (f : α → Program β) : Path → Except Error α → Prop
  | past, .ok a => (f a).Obeys law ends past
  | past, .error e => ends past (.error e)

theorem obeys_bind {ends : Path → Except Error β → Prop} (p : Program α) (f : α → Program β) :
    (p >>= f).Obeys law ends past ↔ p.Obeys law (continuing law ends f) past := by
  show (p.bind f).Obeys law ends past ↔ _
  induction p generalizing past with
  | done a => exact Iff.rfl
  | fail e => exact Iff.rfl
  | note n p ih => exact ih
  | call c next ih =>
    simp only [bind, Obeys]
    exact and_congr_right fun _ => forall_congr' fun r => ih r

/-- A law may be given up for what follows from it on the paths that go on from `past`. -/
theorem Obeys.imp {law' : Path → Call → Prop} {ends ends' : Path → Except Error α → Prop}
    {p : Program α} (h : p.Obeys law ends past)
    (hlaw : ∀ later c, past <+: later → law later c → law' later c)
    (hends : ∀ later r, past <+: later → ends later r → ends' later r) :
    p.Obeys law' ends' past := by
  induction p generalizing past with
  | done a => exact hends _ _ (List.prefix_refl _) h
  | fail e => exact hends _ _ (List.prefix_refl _) h
  | note n p ih => exact ih h hlaw hends
  | call c next ih =>
    refine ⟨hlaw _ _ (List.prefix_refl _) h.1, fun r => ih r (h.2 r) ?_ ?_⟩ <;>
      intro later x hp
    · exact hlaw later x ((List.prefix_append past _).trans hp)
    · exact hends later x ((List.prefix_append past _).trans hp)

theorem Obeys.mono {ends ends' : Path → Except Error α → Prop} {p : Program α}
    (h : p.Obeys law ends past) (himp : ∀ past r, ends past r → ends' past r) :
    p.Obeys law ends' past :=
  h.imp (fun _ _ _ hlaw => hlaw) fun later r _ => himp later r

/-- Where a program ends, all it did before is still in its past. -/
theorem Obeys.extends {ends : Path → Except Error α → Prop} {p : Program α}
    (h : p.Obeys law ends past) :
    p.Obeys law (fun later r => past <+: later ∧ ends later r) past :=
  h.imp (fun _ _ _ hlaw => hlaw) fun _ _ => And.intro

/-- What holds of the path at first and is kept by every call that the law allows holds at every
call, and at the end. -/
theorem Obeys.keeps {holds : Path → Prop} {ends : Path → Except Error α → Prop} {p : Program α}
    (h : p.Obeys law ends past) (hpast : holds past)
    (hcall : ∀ later c r, holds later → law later c → holds (later ++ [⟨c, r⟩])) :
    p.Obeys (fun later c => law later c ∧ holds later)
      (fun later r => ends later r ∧ holds later) past := by
  induction p generalizing past with
  | done a => exact ⟨h, hpast⟩
  | fail e => exact ⟨h, hpast⟩
  | note n p ih => exact ih h hpast
  | call c next ih => exact ⟨⟨h.1, hpast⟩, fun r => ih r (h.2 r) (hcall past c r hpast h.1)⟩

/-- Every program obeys the law that allows everything. -/
theorem obeys_trivial (p : Program α) (past : Path) :
    p.Obeys (fun _ _ => True) (fun _ _ => True) past := by
  induction p generalizing past with
  | done a => trivial
  | fail e => trivial
  | note n p ih => exact ih past
  | call c next ih => exact ⟨trivial, fun r => ih r _⟩

/-! ## The building blocks -/

section Blocks

variable {ends : Path → Except Error β → Prop}

theorem obeys_tell (n : Notice) (f : Unit → Program β) :
    (tell n >>= f).Obeys law ends past ↔ (f ()).Obeys law ends past := Iff.rfl

theorem obeys_tellAll (ns : List Notice) (f : Unit → Program β) :
    (tellAll ns >>= f).Obeys law ends past ↔ (f ()).Obeys law ends past := by
  induction ns with
  | nil => exact Iff.rfl
  | cons n rest ih => exact ih

/-- A call without answer ends the program. -/
theorem obeys_ask (c : Call) (f : c.Answer → Program β) :
    (ask c >>= f).Obeys law ends past ↔
      law past c ∧ (∀ a, (f a).Obeys law ends (past ++ [⟨c, .ok a⟩])) ∧
        ∀ e, ends (past ++ [⟨c, .error e⟩]) (.error e) := by
  rw [obeys_bind]
  refine and_congr_right fun _ => ⟨fun h => ⟨fun a => h (.ok a), fun e => h (.error e)⟩, ?_⟩
  rintro ⟨hok, herror⟩ (e | a)
  · exact herror e
  · exact hok a

/-- A write goes on in two ways, and ends the program where it fails for another reason than a lost
race. -/
theorem obeys_attempt (c : Call) (f : Bool → Program β) :
    (attempt c >>= f).Obeys law ends past ↔
      law past c ∧ (∀ a, (f true).Obeys law ends (past ++ [⟨c, .ok a⟩])) ∧
        ∀ e : Error, if e.isLostRace then (f false).Obeys law ends (past ++ [⟨c, .error e⟩])
          else ends (past ++ [⟨c, .error e⟩]) (.error e) := by
  rw [obeys_bind]
  have hfailed : ∀ e past, (if e.isLostRace then note (.writeLost e) (done false) else fail e).Obeys
      law (continuing law ends f) past ↔ if e.isLostRace then (f false).Obeys law ends past
        else ends past (.error e) := by
    intro e past
    cases e.isLostRace <;> exact Iff.rfl
  refine and_congr_right fun _ => ⟨fun h => ⟨fun a => h (.ok a), fun e => ?_⟩, ?_⟩
  · exact (hfailed e _).mp (h (.error e))
  · rintro ⟨hok, herror⟩ (e | a)
    · exact (hfailed e _).mpr (herror e)
    · exact hok a

theorem obeys_lift (x : Except Error α) (f : α → Program β) :
    ((liftM x : Program α) >>= f).Obeys law ends past ↔
      (∀ a, x = .ok a → (f a).Obeys law ends past) ∧ ∀ e, x = .error e → ends past (.error e) := by
  rw [obeys_bind]
  cases x with
  | ok a => exact ⟨fun h => ⟨fun b hb => Except.ok.inj hb ▸ h, by simp⟩, fun h => h.1 a rfl⟩
  | error e => exact ⟨fun h => ⟨by simp, fun b hb => Except.error.inj hb ▸ h⟩, fun h => h.2 e rfl⟩

end Blocks

/-! ## The next call -/

/-- The call that the program makes next, with what follows each way it can end. -/
def nextCall? : Program α → Option ((c : Call) × (c.Result → Program α))
  | done _ | fail _ => none
  | note _ p => p.nextCall?
  | call c next => some ⟨c, next⟩

theorem Obeys.nextCall {ends : Path → Except Error α → Prop} {p : Program α}
    (h : p.Obeys law ends past) {c : Call} {next : c.Result → Program α}
    (hn : p.nextCall? = some ⟨c, next⟩) :
    law past c ∧ ∀ r, (next r).Obeys law ends (past ++ [⟨c, r⟩]) := by
  induction p with
  | done a => cases hn
  | fail e => cases hn
  | note n p ih => exact ih h hn
  | call c next => cases hn; exact h

/-- How the program has ended, if it has no call left. -/
def result? : Program α → Option (Except Error α)
  | done a => some (.ok a)
  | fail e => some (.error e)
  | note _ p => p.result?
  | call .. => none

theorem result?_of_nextCall? {p : Program α} (h : p.nextCall? = none) :
    ∃ r, p.result? = some r := by
  induction p with
  | done a => exact ⟨_, rfl⟩
  | fail e => exact ⟨_, rfl⟩
  | note n p ih => exact ih h
  | call c next => cases h

theorem Obeys.result {ends : Path → Except Error α → Prop} {p : Program α}
    (h : p.Obeys law ends past) {r : Except Error α} (hr : p.result? = some r) : ends past r := by
  induction p with
  | done a => cases hr; exact h
  | fail e => cases hr; exact h
  | note n p ih => exact ih h hr
  | call c next => cases hr

end Program

end AuthProxy
