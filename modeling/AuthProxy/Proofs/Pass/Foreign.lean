import AuthProxy.Proofs.Pass.Law

/-! # Objects that belong to others

A pass that finds someone else's object in the place of a dependent ends there, with an error, and
has not written an object of that kind before (`GuardedCall`). The checks stand in three steps; what
they have in common is that the pass goes on only while its path is `Calm`.
-/

namespace AuthProxy

namespace Path

/-- The first call read the authenticator `a`. -/
def Fetched (past : Path) (key : ObjectName) (a : Authenticator) : Prop :=
  past.head? = some ⟨.get .authenticator key.ns key.name, .ok (some a)⟩

/-- No call was to write an object of the kind. -/
def Spares (past : Path) (k : Kind) : Prop :=
  ∀ r ∈ past, r.call.operation.isWrite = true → r.call.kind ≠ k

/-- An object was asked for, whether it was there or not. -/
def HasAsked (past : Path) (k : Kind) (key : ObjectName) : Prop :=
  ∃ r, (⟨.get k key.ns key.name, r⟩ : CallRecord) ∈ past

end Path

/-- Whether it matters to a pass that someone else owns what it reads, after `past`, in the place of
its dependent of the kind. The Secret matters only as long as it is to be generated. -/
def Authenticator.Minds (a : Authenticator) (key : ObjectName) (past : Path) : Kind → Prop
  | .authenticator => False
  | .configMap => True
  | .deployment => a.spec.mode = .standalone
  | .secret => a.spec.credentialsSecretRef = "" ∧ ¬ past.HasAsked .secret (key.dependent .secret)

/-- The call found someone else's object where it matters. -/
def CallRecord.FindsForeign (a : Authenticator) (key : ObjectName) (past : Path) :
    CallRecord → Prop
  | ⟨.get k ns name, .ok (some o)⟩ =>
    ⟨ns, name⟩ = key.dependent k ∧ a.owns (k.metadata o) = false ∧ a.Minds key past k
  | _ => False

namespace Path

variable {past : Path} {key : ObjectName} {a : Authenticator} {r : CallRecord} {k : Kind}

/-- The last call found someone else's object. -/
def EndsForeign (past : Path) (key : ObjectName) : Prop :=
  ∃ a earlier r, past.Fetched key a ∧ past = earlier ++ [r] ∧ r.FindsForeign a key earlier

/-- The authenticator `a` was read first, and the last call found nothing of someone else's. -/
structure Calm (past : Path) (key : ObjectName) (a : Authenticator) : Prop where
  fetched : past.Fetched key a
  not_foreign : ¬ past.EndsForeign key

theorem Fetched.append (h : past.Fetched key a) (more : Path) : Fetched (past ++ more) key a := by
  rw [Fetched, List.head?_append, h]
  rfl

theorem Fetched.unique {b : Authenticator} (h : past.Fetched key a) (hb : past.Fetched key b) :
    a = b := by
  have heq := Option.some.inj (h.symm.trans hb)
  exact Option.some.inj (Except.ok.inj (eq_of_heq (CallRecord.mk.inj heq).2))

theorem Fetched.endsForeign_snoc (h : past.Fetched key a) :
    EndsForeign (past ++ [r]) key ↔ r.FindsForeign a key past := by
  constructor
  · rintro ⟨b, earlier, x, hb, heq, hx⟩
    obtain ⟨rfl, hr⟩ := List.append_inj' heq rfl
    obtain rfl := List.singleton_inj.1 hr
    obtain rfl := (h.append [r]).unique hb
    exact hx
  · exact fun hr => ⟨a, past, r, h.append [r], rfl, hr⟩

theorem Calm.snoc (h : past.Calm key a) (hr : ¬ r.FindsForeign a key past) :
    Calm (past ++ [r]) key a :=
  ⟨h.fetched.append [r], fun hends => hr (h.fetched.endsForeign_snoc.1 hends)⟩

theorem Spares.snoc (h : past.Spares k)
    (hr : r.call.operation.isWrite = true → r.call.kind ≠ k) : Spares (past ++ [r]) k := by
  intro x hx
  rcases List.mem_append.1 hx with hx | hx
  · exact h x hx
  · rw [List.mem_singleton.1 hx]
    exact hr

end Path

/-- What a call of a pass over `key` after `past` respects: nothing follows someone else's object,
the authenticator is read before anything else, and a dependent is read before objects of its kind
are written, unless it is read again. -/
structure GuardedCall (key : ObjectName) (past : Path) (q : Call) : Prop where
  not_foreign : ¬ past.EndsForeign key
  first : ∀ ns name, q = .get .authenticator ns name → past = []
  early : ∀ k ns name, q = .get k ns name →
    past.Spares k ∨ k = .secret ∧ past.HasAsked .secret ⟨ns, name⟩

/-- A pass that ended with someone else's object ended with an error that says so. -/
def GuardedEnd {α : Type} (key : ObjectName) (past : Path) (r : Except Error α) : Prop :=
  past.EndsForeign key → ∃ text, r = .error (.invariantViolation text)

namespace Program

variable {α β : Type} {key : ObjectName} {a : Authenticator} {past : Path}

/-- Every call is guarded, and where the program ends with a value, nothing of someone else's was
found last and `post` holds. -/
abbrev Guarded (key : ObjectName) (a : Authenticator) (post : Path → α → Prop) (p : Program α)
    (past : Path) : Prop :=
  p.Obeys (GuardedCall key) (fun later r => GuardedEnd key later r ∧
    ∀ x, r = .ok x → later.Calm key a ∧ post later x) past

variable {post : Path → α → Prop} {post' : Path → β → Prop}

theorem guarded_pure {x : α} (h : past.Calm key a) (hpost : post past x) :
    (pure x : Program α).Guarded key a post past :=
  ⟨fun hends => absurd hends h.not_foreign, fun _ hx => Except.ok.inj hx ▸ ⟨h, hpost⟩⟩

/-- Whatever was found before, to fail because of it is allowed. -/
theorem guarded_notOwned {what : String} {object : ObjectName} :
    (fail (a.notOwned what object) : Program α).Guarded key a post past :=
  ⟨fun _ => ⟨_, rfl⟩, nofun⟩

theorem Guarded.bind {p : Program α} {f : α → Program β} (h : p.Guarded key a post past)
    (hf : ∀ later x, later.Calm key a → post later x → (f x).Guarded key a post' later) :
    (p >>= f).Guarded key a post' past := by
  refine (obeys_bind _ _).2 (h.mono ?_)
  rintro later (e | x) ⟨hends, hok⟩
  · exact ⟨fun hf => (hends hf).imp fun text he => congrArg _ (Except.error.inj he), nofun⟩
  · exact hf later x (hok x rfl).1 (hok x rfl).2

theorem guarded_lift {x : Except Error α} {f : α → Program β} (h : past.Calm key a)
    (hf : ∀ y, x = .ok y → (f y).Guarded key a post' past) :
    ((liftM x : Program α) >>= f).Guarded key a post' past :=
  (obeys_lift _ _).2 ⟨hf, fun _ _ => ⟨fun hends => absurd hends h.not_foreign, nofun⟩⟩

/-- A call that failed has found nothing. -/
theorem guardedEnd_of_error (h : past.Calm key a) {q : Call} {r : q.Result} {e : Error}
    (hr : r = .error e) {x : Except Error α} : GuardedEnd key (past ++ [⟨q, r⟩]) x := by
  subst hr
  exact fun hends => absurd (h.fetched.endsForeign_snoc.1 hends) (by cases q <;> exact id)

theorem guarded_get {k : Kind} {ns name : String} {f : Option k.Object → Program β}
    (h : past.Calm key a) (hk : k ≠ .authenticator)
    (hearly : past.Spares k ∨ k = .secret ∧ past.HasAsked .secret ⟨ns, name⟩)
    (hf : ∀ found, (f found).Guarded key a post' (past ++ [⟨.get k ns name, .ok found⟩])) :
    (ask (.get k ns name) >>= f).Guarded key a post' past := by
  refine (obeys_ask _ _).2
    ⟨⟨h.not_foreign, ?_, ?_⟩, hf, fun e => ⟨guardedEnd_of_error h rfl, nofun⟩⟩
  · rintro _ _ ⟨⟩
    exact absurd rfl hk
  · rintro _ _ _ ⟨⟩
    exact hearly

/-- A call that is no read of a single object is always allowed. -/
theorem guardedCall_of_calm {q : Call} (h : past.Calm key a) (hq : q.operation ≠ .get) :
    GuardedCall key past q where
  not_foreign := h.not_foreign
  first := by
    rintro _ _ rfl
    exact absurd rfl hq
  early := by
    rintro _ _ _ rfl
    exact absurd rfl hq

/-- Only a read of a single object can find someone else's. -/
theorem calm_snoc_of_operation (h : past.Calm key a) {q : Call} (hq : q.operation ≠ .get)
    (r : q.Result) : Path.Calm (past ++ [⟨q, r⟩]) key a := by
  apply h.snoc
  cases q with
  | get k ns name => exact absurd rfl hq
  | list k ns selector => exact id
  | create k o => exact id
  | update k o => exact id
  | updateStatus k o => exact id

theorem calm_snoc_of_owned (h : past.Calm key a) (k : Kind) (ns name : String) {o : k.Object}
    (howned : a.owns (k.metadata o) = true) :
    Path.Calm (past ++ [⟨.get k ns name, .ok (some o)⟩]) key a := by
  apply h.snoc
  rintro ⟨-, hforeign, -⟩
  rw [howned] at hforeign
  cases hforeign

theorem guarded_list {k : Kind} {ns : String} {selector : LabelSelector}
    {f : List k.Object → Program β} (h : past.Calm key a)
    (hf : ∀ os, Path.Calm (past ++ [⟨.list k ns selector, .ok os⟩]) key a →
      (f os).Guarded key a post' (past ++ [⟨.list k ns selector, .ok os⟩])) :
    (ask (.list k ns selector) >>= f).Guarded key a post' past :=
  (obeys_ask _ _).2 ⟨guardedCall_of_calm h nofun,
    fun os => hf os (calm_snoc_of_operation h (by nofun) _),
    fun _ => ⟨guardedEnd_of_error h rfl, nofun⟩⟩

theorem guarded_attempt {q : Call} {f : Bool → Program β} (h : past.Calm key a)
    (hq : q.operation ≠ .get)
    (hf : ∀ ok r, Path.Calm (past ++ [⟨q, r⟩]) key a →
      (f ok).Guarded key a post' (past ++ [⟨q, r⟩])) :
    (attempt q >>= f).Guarded key a post' past := by
  refine (obeys_attempt _ _).2 ⟨guardedCall_of_calm h hq,
    fun x => hf true (.ok x) (calm_snoc_of_operation h hq _), fun e => ?_⟩
  split
  · exact hf false (.error e) (calm_snoc_of_operation h hq _)
  · exact ⟨guardedEnd_of_error h rfl, nofun⟩

end Program

namespace Authenticator

open Program

variable {settings : Settings} {key : ObjectName} {fresh : Credentials} {past : Path}
  {a : Authenticator} {ns name secret map : String}

/-- If the step goes on, `post` holds of the path. -/
def ifProceeds {α : Type} (post : Path → Prop) (past : Path) : Progress α → Prop
  | .proceed _ => post past
  | .requeue _ => True

theorem guarded_thenStep {α : Type} {post : Path → Prop} {step : Program (Progress α)}
    {rest : α → Program Outcome} (h : step.Guarded key a (ifProceeds post) past)
    (hrest : ∀ later x, later.Calm key a → post later →
      (rest x).Guarded key a (fun _ _ => True) later) :
    (step.thenStep rest).Guarded key a (fun _ _ => True) past := by
  refine h.bind fun later p hcalm hpost => ?_
  cases p with
  | proceed x => exact hrest later x hcalm hpost
  | requeue reason => exact guarded_pure hcalm trivial

/-! ## Credentials -/

theorem setReference_guarded {reason : Requeue} (h : past.Calm key a)
    (hasked : ∀ ns, a.ownNamespace = .ok ns → past.HasAsked .secret ⟨ns, name⟩)
    (post : Path → Prop) :
    (a.setReference name reason).Guarded key a (ifProceeds post) past := by
  refine guarded_lift h fun ns hns => guarded_attempt h nofun fun ok r hcalm => ?_
  cases ok with
  | false => exact guarded_pure hcalm trivial
  | true =>
    have hagain : Path.HasAsked (past ++ [⟨_, r⟩]) .secret ⟨ns, name⟩ :=
      (hasked ns hns).imp fun _ hx => List.mem_append_left _ hx
    refine guarded_get hcalm (by decide) (.inr ⟨rfl, hagain⟩) fun found => ?_
    cases found with
    | none => exact guarded_pure (hcalm.snoc id) trivial
    | some s =>
      -- The Secret was asked for before, so it does not matter any more who owns it.
      refine guarded_pure (hcalm.snoc ?_) trivial
      rintro ⟨hobject, -, -, hnot⟩
      exact hnot (hobject ▸ hagain)

/-- A credentials step that goes on has only read. -/
theorem credentialsStep_guarded (h : past.Calm key a) (hspares : ∀ k, past.Spares k) :
    (a.credentialsStep fresh).Guarded key a (ifProceeds fun later => ∀ k, later.Spares k) past := by
  refine guarded_lift h fun ns hns => ?_
  cases hset : a.hasReference with
  | true =>
    refine guarded_get h (by decide) (.inl (hspares _)) fun found => ?_
    cases found with
    | none => exact guarded_pure (h.snoc id) trivial
    | some s =>
      -- A Secret that is referred to may belong to anyone.
      have hcalm := h.snoc (r := ⟨.get .secret ns a.spec.credentialsSecretRef, .ok (some s)⟩)
        fun hforeign => hasReference_eq_true_iff.1 hset hforeign.2.2.1
      have hlater := fun k => (hspares k).snoc
        (r := ⟨.get .secret ns a.spec.credentialsSecretRef, .ok (some s)⟩) nofun
      dsimp only
      split
      · exact guarded_pure hcalm hlater
      · exact guarded_pure hcalm hlater
  | false =>
    refine guarded_get h (by decide) (.inl (hspares _)) fun found => ?_
    have hasked : Path.HasAsked (past ++ [⟨.get .secret ns a.ownSecretName, .ok found⟩]) .secret
        ⟨ns, a.ownSecretName⟩ := ⟨_, List.mem_append_right _ (List.mem_singleton.2 rfl)⟩
    have hns' : ∀ {later : Path}, later.HasAsked .secret ⟨ns, a.ownSecretName⟩ →
        ∀ ns', a.ownNamespace = .ok ns' → later.HasAsked .secret ⟨ns', a.ownSecretName⟩ :=
      fun hlater ns' hns' => Except.ok.inj (hns.symm.trans hns') ▸ hlater
    cases found with
    | none =>
      refine guarded_lift (h.snoc id) fun s hmade =>
        guarded_attempt (h.snoc id) nofun fun ok r hcalm => ?_
      cases ok with
      | false => exact guarded_pure hcalm trivial
      | true =>
        exact setReference_guarded hcalm
          (hns' (hasked.imp fun _ hx => List.mem_append_left _ hx)) _
    | some s =>
      cases howned : a.owns s.metadata with
      | false => simp only [howned]; exact guarded_notOwned
      | true =>
        simp only [howned, if_true]
        exact setReference_guarded (calm_snoc_of_owned h .secret _ _ howned) (hns' hasked) _

/-! ## Configuration -/

/-- A configuration step that goes on has written no Deployment. -/
theorem configurationStep_guarded (h : past.Calm key a) (hspares : ∀ k, past.Spares k) :
    (a.configurationStep settings).Guarded key a
      (ifProceeds fun later => later.Spares .deployment) past := by
  refine guarded_lift h fun ns hns => guarded_lift h fun desired hmade => ?_
  refine guarded_get h (by decide) (.inl (hspares _)) fun found => ?_
  cases found with
  | none =>
    refine guarded_attempt (h.snoc id) nofun fun ok r hcalm => ?_
    cases ok <;> exact guarded_pure hcalm trivial
  | some found =>
    cases howned : a.owns found.metadata with
    | false => simp only [howned]; exact guarded_notOwned
    | true =>
      have hcalm := calm_snoc_of_owned h .configMap ns a.ownConfigMapName howned
      have hread := (hspares .deployment).snoc
        (r := ⟨.get .configMap ns a.ownConfigMapName, .ok (some found)⟩) nofun
      simp only [howned, Bool.not_true, Bool.false_eq_true, if_false]
      split
      · exact guarded_pure hcalm hread
      · refine guarded_attempt hcalm nofun fun ok r hcalm => ?_
        cases ok with
        | false => exact guarded_pure hcalm trivial
        | true =>
          exact guarded_pure hcalm (hread.snoc fun _ => (by decide : Kind.configMap ≠ .deployment))

/-! ## Proxy and report -/

theorem chooseReplicas_guarded (h : past.Calm key a) (hspares : past.Spares .deployment) :
    a.chooseReplicas.Guarded key a (fun later _ => later.Spares .deployment) past := by
  unfold chooseReplicas
  split
  · exact guarded_pure h hspares
  · refine guarded_lift h fun ns _ => guarded_list h fun workloads hcalm => ?_
    have hread := hspares.snoc (r := ⟨.list .deployment ns a.spec.selector, .ok workloads⟩) nofun
    dsimp only
    split
    · exact guarded_pure hcalm hread
    · split
      · exact guarded_pure hcalm hread
      · exact (obeys_tell _ _).2 (guarded_pure hcalm hread)

theorem standaloneStep_guarded (h : past.Calm key a) (hspares : past.Spares .deployment) :
    (a.standaloneStep secret map settings).Guarded key a (ifProceeds fun _ => True) past := by
  refine guarded_lift h fun ns hns => (chooseReplicas_guarded h hspares).bind
    fun later n h hspares => guarded_lift h fun desired hmade => ?_
  refine guarded_get h (by decide) (.inl hspares) fun found => ?_
  cases found with
  | none =>
    refine guarded_attempt (h.snoc id) nofun fun ok r hcalm => ?_
    cases ok <;> exact guarded_pure hcalm trivial
  | some found =>
    cases howned : a.owns found.metadata with
    | false => simp only [howned]; exact guarded_notOwned
    | true =>
      have hcalm := calm_snoc_of_owned h .deployment ns a.ownDeploymentName howned
      simp only [howned, Bool.not_true, Bool.false_eq_true, if_false]
      split
      · exact guarded_pure hcalm trivial
      · refine guarded_attempt hcalm nofun fun ok r hcalm => ?_
        cases ok <;> exact guarded_pure hcalm trivial

/-- By induction on the workloads: a write finds nothing. -/
theorem writeWorkloads_guarded {changed : List Deployment} {lost : Bool} (h : past.Calm key a) :
    (writeWorkloads ns lost changed).Guarded key a (fun _ _ => True) past := by
  induction changed generalizing lost past with
  | nil => exact guarded_pure h trivial
  | cons d rest ih =>
    refine guarded_attempt h nofun fun ok r hcalm => ?_
    cases ok <;> exact ih hcalm

theorem workloadsStep_guarded (h : past.Calm key a) :
    (a.workloadsStep secret map settings).Guarded key a (ifProceeds fun _ => True) past := by
  unfold workloadsStep
  split
  · exact guarded_pure h trivial
  · refine guarded_lift h fun ns _ => guarded_list h fun workloads hcalm => ?_
    refine (obeys_tellAll _ _).2 ((writeWorkloads_guarded hcalm).bind fun later lost hcalm _ => ?_)
    cases lost <;> exact guarded_pure hcalm trivial

theorem proxyStep_guarded (h : past.Calm key a) (hspares : past.Spares .deployment) :
    (a.proxyStep secret map settings).Guarded key a (ifProceeds fun _ => True) past := by
  unfold proxyStep
  split
  · exact standaloneStep_guarded h hspares
  · exact workloadsStep_guarded h

theorem reportStep_guarded {n : Int32} (h : past.Calm key a) :
    (a.reportStep n).Guarded key a (ifProceeds fun _ => True) past := by
  unfold reportStep
  split
  · exact guarded_pure h trivial
  · refine guarded_attempt h nofun fun ok r hcalm => ?_
    cases ok <;> exact guarded_pure hcalm trivial

theorem converge_guarded (h : past.Calm key a) (hspares : ∀ k, past.Spares k) :
    (a.converge settings fresh).Guarded key a (fun _ _ => True) past := by
  refine guarded_thenStep (credentialsStep_guarded h hspares) fun p₁ secret h₁ hspares₁ => ?_
  refine guarded_thenStep (configurationStep_guarded h₁ hspares₁) fun p₂ map h₂ hspares₂ => ?_
  refine guarded_thenStep (proxyStep_guarded h₂ hspares₂) fun p₃ ready h₃ _ => ?_
  exact guarded_thenStep (reportStep_guarded h₃) fun p₄ _ h₄ _ => guarded_pure h₄ trivial

/-- **Every pass is guarded**, whatever its calls are answered. -/
theorem pass_guarded (settings : Settings) (key : ObjectName) (fresh : Credentials) :
    (pass settings key.ns key.name fresh).Obeys (GuardedCall key) (GuardedEnd key) [] := by
  have hstart : ¬ Path.EndsForeign [] key := by
    rintro ⟨a, earlier, r, hfetched, -, -⟩
    cases hfetched
  -- Without an authenticator nothing is anyone's.
  have hnone : ∀ (r : Except Error (Option Authenticator)) (x : Except Error Outcome),
      (∀ a, r ≠ .ok (some a)) → GuardedEnd key [⟨.get .authenticator key.ns key.name, r⟩] x := by
    rintro r x hr ⟨a, earlier, q, hfetched, -, -⟩
    have hrecord := CallRecord.mk.inj (Option.some.inj hfetched)
    exact absurd (eq_of_heq hrecord.2) (hr a)
  refine (obeys_ask _ _).2 ⟨⟨hstart, fun _ _ _ => rfl, fun _ _ _ _ => .inl fun r hr => ?_⟩,
    fun found => ?_, fun e => hnone _ _ fun a h => by cases h⟩
  · cases hr
  · cases found with
    | none => exact hnone _ _ fun a h => by cases h
    | some a =>
      have hcalm : Path.Calm [⟨.get .authenticator key.ns key.name, .ok (some a)⟩] key a := by
        refine ⟨rfl, ?_⟩
        rintro ⟨b, earlier, r, -, heq, hforeign⟩
        obtain rfl := List.length_eq_zero_iff.1 (by simpa using congrArg List.length heq)
        obtain rfl := List.singleton_inj.1 heq
        exact hforeign.2.2
      have hspares : ∀ k, Path.Spares [⟨.get .authenticator key.ns key.name, .ok (some a)⟩] k := by
        intro k r hr
        rw [List.mem_singleton.1 hr]
        exact fun h => by cases h
      exact (converge_guarded hcalm hspares).mono fun later r hr => hr.1

end Authenticator

end AuthProxy
