import AuthProxy.Proofs.Program.Yields
import AuthProxy.Proofs.Traffic.Basic

/-! # What a program ensures whatever calls fail

A program alone on a cluster: nobody else changes the cluster, but any call may fail without
reaching it. `Ensures` bounds all these runs at once, each call by the cluster that it finds, and
the end by the cluster that is left. The run in which no call fails is one of them
(`Ensures.yields`).
-/

namespace AuthProxy.Program

variable {α β : Type} {law : Call → Cluster → Prop} {c : Cluster}

/-- Every call that the program makes, from `c` on, satisfies the law with the cluster that it
finds, and however the program ends, it ends as `ends` says. -/
def Ensures (law : Call → Cluster → Prop) (ends : Except Error α → Cluster → Prop) :
    Program α → Cluster → Prop
  | done a, c => ends (.ok a) c
  | fail e, c => ends (.error e) c
  | note _ p, c => p.Ensures law ends c
  | call q next, c => law q c ∧
      ∀ failure, (next (deliver failure q c).1).Ensures law ends (deliver failure q c).2

/-- How the rest of a program takes over where its first part ends. -/
def resuming (law : Call → Cluster → Prop) (ends : Except Error β → Cluster → Prop)
    (f : α → Program β) : Except Error α → Cluster → Prop
  | .ok a, c => (f a).Ensures law ends c
  | .error e, c => ends (.error e) c

theorem ensures_bind {ends : Except Error β → Cluster → Prop} (p : Program α)
    (f : α → Program β) :
    (p >>= f).Ensures law ends c ↔ p.Ensures law (resuming law ends f) c := by
  show (p.bind f).Ensures law ends c ↔ _
  induction p generalizing c with
  | done a => exact Iff.rfl
  | fail e => exact Iff.rfl
  | note n p ih => exact ih
  | call q next ih =>
    simp only [bind, Ensures]
    exact and_congr_right fun _ => forall_congr' fun _ => ih _

theorem Ensures.mono {law' : Call → Cluster → Prop} {ends ends' : Except Error α → Cluster → Prop}
    {p : Program α} (h : p.Ensures law ends c) (hlaw : ∀ q c, law q c → law' q c)
    (hends : ∀ r c, ends r c → ends' r c) : p.Ensures law' ends' c := by
  induction p generalizing c with
  | done a => exact hends _ _ h
  | fail e => exact hends _ _ h
  | note n p ih => exact ih h
  | call q next ih => exact ⟨hlaw _ _ h.1, fun failure => ih _ (h.2 failure)⟩

/-- Two things that a program ensures hold together. -/
theorem Ensures.and {law' : Call → Cluster → Prop} {ends ends' : Except Error α → Cluster → Prop}
    {p : Program α} (h : p.Ensures law ends c) (h' : p.Ensures law' ends' c) :
    p.Ensures (fun q c => law q c ∧ law' q c) (fun r c => ends r c ∧ ends' r c) c := by
  induction p generalizing c with
  | done a => exact ⟨h, h'⟩
  | fail e => exact ⟨h, h'⟩
  | note n p ih => exact ih h h'
  | call q next ih => exact ⟨⟨h.1, h'.1⟩, fun failure => ih _ (h.2 failure) (h'.2 failure)⟩

/-- A program leaves a cluster well kept, whatever calls fail. -/
theorem Ensures.wellKept {ends : Except Error α → Cluster → Prop} {p : Program α}
    (h : p.Ensures law ends c) (hc : c.WellKept) :
    p.Ensures law (fun r c' => ends r c' ∧ c'.WellKept) c := by
  induction p generalizing c with
  | done a => exact ⟨h, hc⟩
  | fail e => exact ⟨h, hc⟩
  | note n p ih => exact ih h hc
  | call q next ih =>
    exact ⟨h.1, fun failure => ih _ (h.2 failure) (hc.move (deliver_move failure q c))⟩

/-- What is ensured whatever calls fail holds if none does. -/
theorem Ensures.yields {ends : Except Error α → Cluster → Prop} {p : Program α} {a : α}
    {c' : Cluster} (h : p.Ensures law ends c) (hy : p.Yields Cluster.answer c a c') :
    ends (.ok a) c' := by
  suffices hrun : ends (p.run Cluster.answer c).result (p.run Cluster.answer c).store by
    obtain ⟨hresult, hstore⟩ := hy
    rwa [hresult, hstore] at hrun
  clear hy
  induction p generalizing c with
  | done a => exact h
  | fail e => exact h
  | note n p ih => exact ih h
  | call q next ih => exact ih _ (h.2 none)

theorem Ensures.nextCall {ends : Except Error α → Cluster → Prop} {p : Program α}
    (h : p.Ensures law ends c) {q : Call} {next : q.Result → Program α}
    (hn : p.nextCall? = some ⟨q, next⟩) :
    law q c ∧ ∀ failure,
      (next (deliver failure q c).1).Ensures law ends (deliver failure q c).2 := by
  induction p with
  | done a => cases hn
  | fail e => cases hn
  | note n p ih => exact ih h hn
  | call q next => cases hn; exact h

theorem Ensures.result {ends : Except Error α → Cluster → Prop} {p : Program α}
    (h : p.Ensures law ends c) {r : Except Error α} (hr : p.result? = some r) : ends r c := by
  induction p with
  | done a => cases hr; exact h
  | fail e => cases hr; exact h
  | note n p ih => exact ih h hr
  | call q next => cases hr

/-! ## The building blocks -/

section Blocks

variable {ends : Except Error β → Cluster → Prop}

theorem ensures_tellAll (ns : List Notice) (f : Unit → Program β) :
    (tellAll ns >>= f).Ensures law ends c ↔ (f ()).Ensures law ends c := by
  induction ns with
  | nil => exact Iff.rfl
  | cons n rest ih => exact ih

theorem ensures_lift {x : Except Error α} {f : α → Program β}
    (hok : ∀ a, x = .ok a → (f a).Ensures law ends c)
    (herror : ∀ e, x = .error e → ends (.error e) c) :
    ((liftM x : Program α) >>= f).Ensures law ends c := by
  cases x with
  | ok a => exact hok a rfl
  | error e => exact herror e rfl

/-- What was read is stored. That nothing was read says nothing: the read may have failed. -/
theorem ensures_get {k : Kind} {ns name : String} {f : Option k.Object → Program β}
    (hlaw : law (.get k ns name) c)
    (hsome : ∀ o, c.get? k ⟨ns, name⟩ = some o → (f (some o)).Ensures law ends c)
    (hnone : (f none).Ensures law ends c) (herror : ∀ e, ends (.error e) c) :
    (ask (.get k ns name) >>= f).Ensures law ends c := by
  refine (ensures_bind _ _).2 ⟨hlaw, fun failure => ?_⟩
  cases failure with
  | some failure =>
    cases failure with
    | absent => exact hnone
    | error e => exact herror e
  | none =>
    show (f (c.get? k ⟨ns, name⟩)).Ensures law ends c
    cases ho : c.get? k ⟨ns, name⟩ with
    | none => exact hnone
    | some o => exact hsome o ho

theorem ensures_list {k : Kind} {ns : String} {selector : LabelSelector}
    {f : List k.Object → Program β} (hlaw : law (.list k ns selector) c)
    (hok : ∀ os, c.list k ns selector = .ok os → (f os).Ensures law ends c)
    (herror : ∀ e, ends (.error e) c) :
    (ask (.list k ns selector) >>= f).Ensures law ends c := by
  refine (ensures_bind _ _).2 ⟨hlaw, fun failure => ?_⟩
  cases failure with
  | some failure => cases failure <;> exact herror _
  | none =>
    simp only [deliver, Cluster.answer_list]
    cases hos : c.list k ns selector with
    | error e => exact herror e
    | ok os => exact hok os hos

/-- A write that did not take place changed nothing. -/
theorem deliver_eq_error {failure : Option Failure} {q : Call} {e : Error} {c' : Cluster}
    (h : deliver failure q c = (.error e, c')) : Cluster.SameObjects c c' := by
  cases failure with
  | some failure =>
    obtain ⟨-, rfl⟩ := Prod.mk.inj h
    exact ⟨rfl, rfl⟩
  | none =>
    have hanswered := c.answered q
    rw [show Cluster.answer q c = (.error e, c') from h] at hanswered
    exact hanswered.unmoved_of_error.sameObjects

theorem ensures_attempt {q : Call} {f : Bool → Program β} (hlaw : law q c)
    (hok : ∀ failure a c', deliver failure q c = (.ok a, c') → (f true).Ensures law ends c')
    (hlost : ∀ c', Cluster.SameObjects c c' → (f false).Ensures law ends c')
    (herror : ∀ e c', Cluster.SameObjects c c' → ends (.error e) c') :
    (attempt q >>= f).Ensures law ends c := by
  refine (ensures_bind _ _).2 ⟨hlaw, fun failure => ?_⟩
  rcases hd : deliver failure q c with ⟨e | a, c'⟩
  · have hsame := deliver_eq_error hd
    dsimp only
    split
    · exact hlost c' hsame
    · exact herror e c' hsame
  · exact hok failure a c' hd

theorem deliver_update {failure : Option Failure} {k : Kind} {o stored : k.Object} {c' : Cluster}
    (h : deliver failure (.update k o) c = (.ok stored, c')) :
    c.update k o = (.ok stored, c') := by
  cases failure with
  | some failure => cases failure <;> cases (Prod.mk.inj h).1
  | none => exact h

theorem deliver_updateStatus {failure : Option Failure} {k : Kind} {o stored : k.Object}
    {c' : Cluster} (h : deliver failure (.updateStatus k o) c = (.ok stored, c')) :
    c.updateStatus k o = (.ok stored, c') := by
  cases failure with
  | some failure => cases failure <;> cases (Prod.mk.inj h).1
  | none => exact h

theorem deliver_list_eq_ok {failure : Option Failure} {k : Kind} {ns : String}
    {selector : LabelSelector} {os : List k.Object} {c' : Cluster}
    (h : deliver failure (.list k ns selector) c = (.ok os, c')) :
    c.list k ns selector = .ok os ∧ c' = c := by
  cases failure with
  | some failure => cases failure <;> cases (Prod.mk.inj h).1
  | none =>
    obtain ⟨hlist, rfl⟩ := Prod.mk.inj h
    exact ⟨hlist, rfl⟩

end Blocks

/-! ## Steps of a pass -/

/-- If the step goes on, with `x`, then `post x` holds of the cluster that it leaves. -/
def goesOn (post : α → Cluster → Prop) : Except Error (Progress α) → Cluster → Prop
  | .ok (.proceed x), c => post x c
  | .ok (.requeue _), _ | .error _, _ => True

/-- A pass whose step does not go on is not done. -/
def isDone (post : Int32 → Cluster → Prop) : Except Error Outcome → Cluster → Prop
  | .ok (.done r), c => post r c
  | .ok .deleted, _ | .ok (.requeue _), _ | .error _, _ => True

theorem Ensures.thenStep {post : α → Cluster → Prop} {donePost : Int32 → Cluster → Prop}
    {step : Program (Progress α)} {rest : α → Program Outcome}
    (h : step.Ensures law (goesOn post) c) (hc : c.WellKept)
    (hrest : ∀ x c', c'.WellKept → post x c' → (rest x).Ensures law (isDone donePost) c') :
    (step.thenStep rest).Ensures law (isDone donePost) c := by
  refine (ensures_bind _ _).2 ((h.wellKept hc).mono (fun _ _ hq => hq) ?_)
  rintro (e | x | reason) c' ⟨hpost, hc'⟩
  · trivial
  · exact hrest x c' hc' hpost
  · trivial

end AuthProxy.Program
