import AuthProxy.Proofs.Pass.Settled

/-! # One program on two clusters

A program that runs alone on each of two clusters (`Twins`). Where both hold the same in what it
reads, it makes the same calls, so it ends in the same way; and what it writes under one name is
alike on both (`Beside`): the same object but for its version, and for its uid if it is new.
-/

namespace AuthProxy

namespace Kind

/-- The object without its version, and without its uid if it is new. -/
def unstamped (k : Kind) (new : Bool) (o : k.Object) : k.Object :=
  if new then k.withUid (k.withVersion o none) none else k.withVersion o none

@[simp] theorem unstamped_withVersion (k : Kind) (new : Bool) (o : k.Object) (v : Option String) :
    k.unstamped new (k.withVersion o v) = k.unstamped new o := by
  cases k <;> rfl

@[simp] theorem unstamped_withUid (k : Kind) (o : k.Object) (u : Option String) :
    k.unstamped true (k.withUid o u) = k.unstamped true o := by
  cases k <;> rfl

/-- The same object on both sides, or none, but for the version, and for the uid if it is new. -/
def Alike (k : Kind) (new : Bool) (x y : Option k.Object) : Prop :=
  x.map (k.unstamped new) = y.map (k.unstamped new)

end Kind

namespace Cluster

/-- A cluster that makes no update fail. -/
structure Ready (c : Cluster) : Prop where
  wellKept : c.WellKept
  calm : c.pendingConflict = none

theorem Ready.answer {c : Cluster} (h : c.Ready) (q : Call) : (answer q c).2.Ready :=
  ⟨h.wellKept.move (c.answer_move q), (c.answered q).calm h.calm⟩

theorem Ready.run {α : Type} {c : Cluster} (h : c.Ready) (p : Program α) :
    (p.run Cluster.answer c).store.Ready :=
  ⟨h.wellKept.run p, run_pendingConflict h.calm p⟩

/-- On both sides nothing but the object of the kind under the name may have changed, and what lies
there now is alike. -/
structure Beside (k : Kind) (key : ObjectName) (c d c' d' : Cluster) : Prop where
  left : OnlyAt k key c c'
  right : OnlyAt k key d d'
  alike : k.Alike (c.get? k key).isNone (c'.get? k key) (d'.get? k key)

variable {c d c' d' : Cluster} {k : Kind} {key : ObjectName} {o found x y : k.Object}

theorem beside_refl (h : d.get? k key = c.get? k key) : Beside k key c d c d :=
  ⟨onlyAt_refl .., onlyAt_refl .., by rw [h]; rfl⟩

theorem Written.beside (h : Written c c' k x) (h' : Written d d' k y) (hx : k.key x = key)
    (hy : k.key y = key)
    (halike : k.unstamped (c.get? k key).isNone x = k.unstamped (c.get? k key).isNone y) :
    Beside k key c d c' d' := by
  refine ⟨h.onlyAt hx, h'.onlyAt hy, ?_⟩
  have hleft := h.get?_self
  have hright := h'.get?_self
  rw [hx] at hleft
  rw [hy] at hright
  rw [Kind.Alike, hleft, hright]
  exact congrArg some halike

/-- The write takes place on both sides, and leaves an object under the name. -/
structure WritesBeside (q : Call) (k : Kind) (key : ObjectName) (c d : Cluster) : Prop where
  left : ∃ a, (answer q c).1 = .ok a
  right : ∃ a, (answer q d).1 = .ok a
  beside : Beside k key c d (answer q c).2 (answer q d).2
  there : ((answer q c).2.get? k key).isSome = true ∧ ((answer q d).2.get? k key).isSome = true

theorem writesBeside_of_written {q : Call} {a b : q.Answer} (hc : answer q c = (.ok a, c'))
    (hd : answer q d = (.ok b, d')) (h : Written c c' k x) (h' : Written d d' k y)
    (hx : k.key x = key) (hy : k.key y = key)
    (halike : k.unstamped (c.get? k key).isNone x = k.unstamped (c.get? k key).isNone y) :
    WritesBeside q k key c d := by
  refine ⟨⟨a, by rw [hc]⟩, ⟨b, by rw [hd]⟩, ?_, ?_⟩
  · rw [hc, hd]
    exact h.beside h' hx hy halike
  · rw [hc, hd]
    subst hx
    refine ⟨by rw [h.get?_self]; rfl, ?_⟩
    rw [← hy, h'.get?_self]
    rfl

/-- What is created on both sides is alike; the uids that it gets are not. -/
theorem create_beside (hkey : k.key o = key) (hc : c.get? k key = none) (hd : d.get? k key = none) :
    WritesBeside (.create k o) k key c d := by
  subst hkey
  obtain ⟨x, c', hok, written, created⟩ := create_of_none hc
  obtain ⟨y, d', hok', written', created'⟩ := create_of_none hd
  refine writesBeside_of_written hok hok' written written' created.key created'.key ?_
  obtain ⟨u, v, rfl⟩ := created.content
  obtain ⟨u', v', rfl⟩ := created'.content
  simp [hc]

/-- An object that both sides hold is replaced on both. -/
theorem Ready.update_beside (hc : c.Ready) (hd : d.Ready) (hkey : k.key o = key)
    (hfound : c.get? k key = some found) (hfound' : d.get? k key = some found)
    (hv : k.versionOf o = k.versionOf found) : WritesBeside (.update k o) k key c d := by
  subst hkey
  have hstale := isStale_eq_false_iff.2 (.inr hv)
  obtain ⟨x, c', v, hok, written, rfl⟩ := update_of_current hfound (by simp [hc.calm]) hstale
  obtain ⟨y, d', v', hok', written', rfl⟩ := update_of_current hfound' (by simp [hd.calm]) hstale
  exact writesBeside_of_written hok hok' written written' (by simp) (by simp) (by simp)

/-- The same of a status. -/
theorem Ready.updateStatus_beside (hc : c.Ready) (hd : d.Ready) (hkey : k.key o = key)
    (hfound : c.get? k key = some found) (hfound' : d.get? k key = some found)
    (hv : k.versionOf o = k.versionOf found) : WritesBeside (.updateStatus k o) k key c d := by
  have hplace := hc.wellKept.key_eq hfound
  subst hkey
  obtain ⟨x, c', v, hok, written, rfl⟩ := updateStatus_of_current hfound (by simp [hc.calm]) hv
  obtain ⟨y, d', v', hok', written', rfl⟩ := updateStatus_of_current hfound' (by simp [hd.calm]) hv
  exact writesBeside_of_written hok hok' written written' (by simpa using hplace)
    (by simpa using hplace) (by simp)

end Cluster

namespace Program

variable {α β : Type} {c d : Cluster}

/-- Alone on each of the clusters the program ends in the same way, and it leaves them as `ends`
says. -/
def Twins (ends : Except Error α → Cluster → Cluster → Prop) (p : Program α) (c d : Cluster) :
    Prop :=
  (p.run Cluster.answer d).result = (p.run Cluster.answer c).result ∧
    ends (p.run Cluster.answer c).result (p.run Cluster.answer c).store
      (p.run Cluster.answer d).store

theorem Twins.mono {ends ends' : Except Error α → Cluster → Cluster → Prop} {p : Program α}
    (h : p.Twins ends c d) (himp : ∀ r c' d', ends r c' d' → ends' r c' d') : p.Twins ends' c d :=
  ⟨h.1, himp _ _ _ h.2⟩

section Blocks

variable {ends : Except Error β → Cluster → Cluster → Prop}

theorem twins_pure {b : β} (h : ends (.ok b) c d) : (pure b : Program β).Twins ends c d := ⟨rfl, h⟩

theorem twins_fail {e : Error} (h : ends (.error e) c d) : (fail e : Program β).Twins ends c d :=
  ⟨rfl, h⟩

theorem twins_tell {n : Notice} {f : Unit → Program β} (h : (f ()).Twins ends c d) :
    (tell n >>= f).Twins ends c d := h

theorem twins_lift {x : Except Error α} {f : α → Program β}
    (hok : ∀ a, x = .ok a → (f a).Twins ends c d) (herror : ∀ e, ends (.error e) c d) :
    ((liftM x : Program α) >>= f).Twins ends c d := by
  cases x with
  | ok a => exact hok a rfl
  | error e => exact twins_fail (herror e)

/-- A program may read what it goes on with in the same way on both sides. -/
theorem twins_get {k : Kind} {ns name : String} {f : Option k.Object → Program β}
    (hsame : f (d.get? k ⟨ns, name⟩) = f (c.get? k ⟨ns, name⟩))
    (h : (f (c.get? k ⟨ns, name⟩)).Twins ends c d) :
    (ask (.get k ns name) >>= f).Twins ends c d := by
  show ((f (d.get? k ⟨ns, name⟩)).run Cluster.answer d).result = _ ∧
    ends _ _ ((f (d.get? k ⟨ns, name⟩)).run Cluster.answer d).store
  rw [hsame]
  exact h

theorem run_attempt {q : Call} {f : Bool → Program β} (h : ∃ a, (Cluster.answer q c).1 = .ok a) :
    (attempt q >>= f).run Cluster.answer c =
      (f true).run Cluster.answer (Cluster.answer q c).2 := by
  obtain ⟨a, ha⟩ := h
  rcases hq : Cluster.answer q c with ⟨r, c'⟩
  rw [hq] at ha
  subst ha
  show Program.run Cluster.answer (call q _) c = _
  rw [run, hq]
  rfl

theorem twins_attempt {q : Call} {k : Kind} {key : ObjectName} {f : Bool → Program β}
    (h : Cluster.WritesBeside q k key c d) (hc : c.Ready) (hd : d.Ready)
    (hf : ∀ c' d', c'.Ready → d'.Ready → Cluster.Beside k key c d c' d' →
      (c'.get? k key).isSome = true ∧ (d'.get? k key).isSome = true → (f true).Twins ends c' d') :
    (attempt q >>= f).Twins ends c d := by
  rw [Twins, run_attempt h.left, run_attempt h.right]
  exact hf _ _ (hc.answer q) (hd.answer q) h.beside h.there

/-- If the step stops the pass, nothing else happens on either side. -/
theorem Twins.thenStep {R : Cluster → Cluster → Prop}
    {mid : Except Error (Progress α) → Cluster → Cluster → Prop} {step : Program (Progress α)}
    {rest : α → Program Outcome} (h : step.Twins mid c d) (hc : c.Ready) (hd : d.Ready)
    (hstop : ∀ r c' d', mid r c' d' → R c' d')
    (hrest : ∀ x c' d', c'.Ready → d'.Ready → mid (.ok (.proceed x)) c' d' →
      (rest x).Twins (fun _ => R) c' d') :
    (step.thenStep rest).Twins (fun _ => R) c d := by
  obtain ⟨hresult, hmid⟩ := h
  have hstopped := hstop _ _ _ hmid
  rw [Program.thenStep, Twins, run_bind, run_bind, hresult]
  cases hr : (step.run Cluster.answer c).result with
  | error e => exact ⟨rfl, hstopped⟩
  | ok p =>
    cases p with
    | requeue reason => exact ⟨rfl, hstopped⟩
    | proceed x =>
      rw [hr] at hmid
      exact hrest x _ _ (hc.run step) (hd.run step) hmid

end Blocks

end Program

end AuthProxy
