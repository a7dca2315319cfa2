import AuthProxy.Pass.Converge
import AuthProxy.Proofs.Program.Recorded

/-! # Where failures lead

What becomes of a pass when its calls fail. A write that loses a race stops the pass, which then
runs again; only the loop over the workloads tries the remaining ones first. Every other failure of
a call ends the pass there and then, and is its error. So nothing follows a failure but the writes
of that loop (`Path.Unbroken`), and an error that is no call's failure comes from a pass in which no
call has failed (`RoutedEnd`). Errors that a pass makes itself are never lost races.
-/

namespace AuthProxy

namespace Path

/-- No call has failed. -/
def Clean (past : Path) : Prop := ∀ x ∈ past, ∀ e, x.result ≠ .error e

/-- No call has failed, except for writes that lost a race. -/
def Unbroken (past : Path) : Prop :=
  ∀ x ∈ past, ∀ e, x.result = .error e → e.isLostRace = true ∧ x.call.operation.isWrite = true

variable {past : Path} {q : Call}

theorem Clean.unbroken (h : past.Clean) : past.Unbroken :=
  fun x hx e he => absurd he (h x hx e)

theorem clean_nil : Clean [] := fun _ hx => absurd hx List.not_mem_nil

theorem Clean.snoc (h : past.Clean) (a : q.Answer) : Clean (past ++ [⟨q, .ok a⟩]) :=
  List.forall_mem_append.2 ⟨h, List.forall_mem_singleton.2 nofun⟩

theorem Unbroken.snoc_ok (h : past.Unbroken) (a : q.Answer) :
    Unbroken (past ++ [⟨q, .ok a⟩]) :=
  List.forall_mem_append.2 ⟨h, List.forall_mem_singleton.2 nofun⟩

theorem Unbroken.snoc_lost (h : past.Unbroken) (hq : q.operation.isWrite = true) {e : Error}
    (he : e.isLostRace = true) : Unbroken (past ++ [⟨q, .error e⟩]) := by
  refine List.forall_mem_append.2 ⟨h, List.forall_mem_singleton.2 ?_⟩
  rintro e' ⟨⟩
  exact ⟨he, hq⟩

end Path

/-- How a program may end: with a value, which says so if a race was lost; with an error of its own,
if no call has failed; or with the failure of its last call, if that was a read or no lost race. -/
inductive RoutedEnd {α : Type} (saysLost : α → Prop) (past : Path) : Except Error α → Prop where
  | value {v : α} (unbroken : past.Unbroken) (lost : ¬ past.Clean → saysLost v) :
    RoutedEnd saysLost past (.ok v)
  | own {e : Error} (clean : past.Clean) (made : e.isLostRace = false) :
    RoutedEnd saysLost past (.error e)
  | failed {before : Path} {x : CallRecord} {e : Error} (last : past = before ++ [x])
    (unbroken : before.Unbroken) (result : x.result = .error e)
    (fatal : x.call.operation.isWrite = true → e.isLostRace = false) :
    RoutedEnd saysLost past (.error e)

namespace Program

variable {α β : Type} {past : Path} {saysLost : α → Prop} {saysLost' : β → Prop}

/-- Nothing follows a failure but what may follow a lost race, and the program ends as routed. -/
abbrev Routed (saysLost : α → Prop) (p : Program α) (past : Path) : Prop :=
  p.Obeys (fun past _ => past.Unbroken) (RoutedEnd saysLost) past

theorem routed_pure {v : α} (h : past.Clean) : (pure v : Program α).Routed saysLost past :=
  .value h.unbroken fun hlost => absurd h hlost

theorem Routed.bind {p : Program α} {f : α → Program β} (h : p.Routed saysLost past)
    (hf : ∀ later v, later.Unbroken → (¬ later.Clean → saysLost v) →
      (f v).Routed saysLost' later) : (p >>= f).Routed saysLost' past := by
  refine (obeys_bind _ _).2 (h.mono fun later r hr => ?_)
  cases hr with
  | value unbroken lost => exact hf later _ unbroken lost
  | own clean made => exact .own clean made
  | failed last unbroken result fatal => exact .failed last unbroken result fatal

/-- An evaluation does not fail with a lost race. -/
def MakesNoRace (x : Except Error α) : Prop := ∀ e, x = .error e → e.isLostRace = false

theorem MakesNoRace.bind {x : Except Error α} {f : α → Except Error β} (h : MakesNoRace x)
    (hf : ∀ a, MakesNoRace (f a)) : MakesNoRace (x >>= f) := by
  cases x with
  | ok a => exact hf a
  | error e => exact fun e' he => h e' (congrArg _ (Except.error.inj he))

theorem routed_lift {x : Except Error α} {f : α → Program β} (h : past.Clean)
    (hx : MakesNoRace x) (hf : ∀ a, x = .ok a → (f a).Routed saysLost' past) :
    ((liftM x : Program α) >>= f).Routed saysLost' past :=
  (obeys_lift _ _).2 ⟨hf, fun e he => .own h (hx e he)⟩

/-- A read whose failure is the failure of the program. -/
theorem routed_ask {q : Call} {f : q.Answer → Program β} (h : past.Clean)
    (hq : q.operation.isWrite = false)
    (hf : ∀ a, Path.Clean (past ++ [⟨q, .ok a⟩]) →
      (f a).Routed saysLost' (past ++ [⟨q, .ok a⟩])) : (ask q >>= f).Routed saysLost' past :=
  (obeys_ask _ _).2 ⟨h.unbroken, fun a => hf a (h.snoc a),
    fun e => .failed rfl h.unbroken rfl fun hwrite => absurd (hq.symm.trans hwrite) (by decide)⟩

theorem routed_attempt {q : Call} {f : Bool → Program β} (h : past.Unbroken)
    (hq : q.operation.isWrite = true)
    (hok : ∀ a, (f true).Routed saysLost' (past ++ [⟨q, .ok a⟩]))
    (hlost : ∀ e, Path.Unbroken (past ++ [⟨q, .error e⟩]) →
      (f false).Routed saysLost' (past ++ [⟨q, .error e⟩])) :
    (attempt q >>= f).Routed saysLost' past := by
  refine (obeys_attempt _ _).2 ⟨h, hok, fun e => ?_⟩
  cases he : e.isLostRace with
  | true => exact hlost e (h.snoc_lost hq he)
  | false => exact .failed rfl h rfl fun _ => he

/-- A step says with a conflict that a race was lost. -/
abbrev RoutedStep (step : Program (Progress α)) (past : Path) : Prop :=
  step.Routed (· = .requeue .conflict) past

/-- A step that writes once, and stops where that is lost. -/
theorem routed_attempt_once {q : Call} {f : Bool → Program (Progress α)} (h : past.Clean)
    (hq : q.operation.isWrite = true) (hlost : f false = pure (.requeue .conflict))
    (hok : ∀ a, Path.Clean (past ++ [⟨q, .ok a⟩]) → (f true).RoutedStep (past ++ [⟨q, .ok a⟩])) :
    (attempt q >>= f).RoutedStep past :=
  routed_attempt h.unbroken hq (fun a => hok a (h.snoc a)) fun e hunbroken => by
    rw [hlost]
    exact .value hunbroken fun _ => rfl

theorem RoutedStep.thenStep {step : Program (Progress α)} {rest : α → Program Outcome}
    (h : step.RoutedStep past)
    (hrest : ∀ later x, later.Clean → (rest x).Routed (· = .requeue .conflict) later) :
    (step.thenStep rest).Routed (· = .requeue .conflict) past := by
  refine Routed.bind h fun later p hunbroken hlost => ?_
  cases p with
  | proceed x => exact hrest later x (Classical.byContradiction fun hclean => nomatch hlost hclean)
  | requeue reason =>
    refine .value hunbroken fun hclean => ?_
    obtain ⟨⟩ := hlost hclean
    rfl

end Program

namespace Authenticator

open Program

variable {a : Authenticator} {settings : Settings} {fresh : Credentials} {past : Path}
  {ns name secret map : String}

/-! ## Errors of the pass itself -/

theorem ownNamespace_makesNoRace : MakesNoRace a.ownNamespace := by
  unfold ownNamespace
  split
  · exact nofun
  · rintro e ⟨⟩
    rfl

theorem dependentMeta_makesNoRace : MakesNoRace (a.dependentMeta name) := by
  refine ownNamespace_makesNoRace.bind fun ns => ?_
  unfold ObjectMeta.declareOwner
  split
  · exact nofun
  · rintro e ⟨⟩
    rfl

theorem confText_makesNoRace : MakesNoRace (a.confText settings) := by
  refine MakesNoRace.bind (MakesNoRace.bind ?_ fun _ => nofun) fun _ => nofun
  unfold backendHost
  split
  · exact nofun
  · split
    · rintro e ⟨⟩
      rfl
    · exact nofun

theorem makeConfigMap_makesNoRace : MakesNoRace (a.makeConfigMap settings) :=
  dependentMeta_makesNoRace.bind fun _ => confText_makesNoRace.bind fun _ => nofun

/-! ## The steps -/

theorem setReference_routed {reason : Requeue} (h : past.Clean) :
    (a.setReference name reason).RoutedStep past := by
  refine routed_lift h ownNamespace_makesNoRace fun ns _ =>
    routed_attempt_once h rfl rfl fun _ hclean => ?_
  refine routed_ask hclean rfl fun found hclean => ?_
  cases found <;> exact routed_pure hclean

theorem credentialsStep_routed (h : past.Clean) : (a.credentialsStep fresh).RoutedStep past := by
  refine routed_lift h ownNamespace_makesNoRace fun ns _ => ?_
  cases a.hasReference with
  | true =>
    refine routed_ask h rfl fun found hclean => ?_
    cases found with
    | none => exact routed_pure hclean
    | some s => dsimp only; split <;> exact routed_pure hclean
  | false =>
    refine routed_ask h rfl fun found hclean => ?_
    cases found with
    | none =>
      refine routed_lift hclean (dependentMeta_makesNoRace.bind fun _ => nofun) fun s _ =>
        routed_attempt_once hclean rfl rfl fun _ hclean => ?_
      exact setReference_routed hclean
    | some s =>
      dsimp only
      split
      · exact setReference_routed hclean
      · exact .own hclean rfl

theorem configurationStep_routed (h : past.Clean) :
    (a.configurationStep settings).RoutedStep past := by
  refine routed_lift h ownNamespace_makesNoRace fun ns _ =>
    routed_lift h makeConfigMap_makesNoRace fun desired _ => ?_
  refine routed_ask h rfl fun found hclean => ?_
  cases found with
  | none => exact routed_attempt_once hclean rfl rfl fun _ hclean => routed_pure hclean
  | some found =>
    dsimp only
    split
    · exact .own hclean rfl
    · split
      · exact routed_pure hclean
      · exact routed_attempt_once hclean rfl rfl fun _ hclean => routed_pure hclean

theorem chooseReplicas_routed (h : past.Clean) :
    a.chooseReplicas.Routed (fun _ => False) past := by
  unfold chooseReplicas
  split
  · exact routed_pure h
  · refine routed_lift h ownNamespace_makesNoRace fun ns _ =>
      routed_ask h rfl fun workloads hclean => ?_
    dsimp only
    split
    · exact routed_pure hclean
    · split <;> exact routed_pure hclean

theorem standaloneStep_routed (h : past.Clean) :
    (a.standaloneStep secret map settings).RoutedStep past := by
  refine routed_lift h ownNamespace_makesNoRace fun ns _ =>
    (chooseReplicas_routed h).bind fun later n _ hlost => ?_
  have hclean : later.Clean := Classical.byContradiction hlost
  refine routed_lift hclean (dependentMeta_makesNoRace.bind fun _ => nofun) fun desired _ => ?_
  refine routed_ask hclean rfl fun found hclean => ?_
  cases found with
  | none => exact routed_attempt_once hclean rfl rfl fun _ hclean => routed_pure hclean
  | some found =>
    dsimp only
    split
    · exact .own hclean rfl
    · split
      · exact routed_pure hclean
      · exact routed_attempt_once hclean rfl rfl fun _ hclean => routed_pure hclean

/-- By induction on the workloads: once a race was lost, the loop goes on and says so at the end. -/
theorem writeWorkloads_routed {changed : List Deployment} {lost : Bool} (h : past.Unbroken)
    (hlost : ¬ past.Clean → lost = true) :
    (writeWorkloads ns lost changed).Routed (· = true) past := by
  induction changed generalizing lost past with
  | nil => exact .value h hlost
  | cons d rest ih =>
    refine routed_attempt h rfl (fun stored => ih (h.snoc_ok stored) fun hclean => ?_)
      fun e hlater => ih hlater fun _ => rfl
    exact hlost fun hpast => hclean (hpast.snoc stored)

theorem workloadsStep_routed (h : past.Clean) :
    (a.workloadsStep secret map settings).RoutedStep past := by
  unfold workloadsStep
  split
  · exact routed_pure h
  · refine routed_lift h ownNamespace_makesNoRace fun ns _ =>
      routed_ask h rfl fun workloads hclean => ?_
    refine (obeys_tellAll _ _).2 ((writeWorkloads_routed hclean.unbroken
      fun hlost => absurd hclean hlost).bind fun later lost hunbroken hlost => ?_)
    cases lost with
    | true => exact .value hunbroken fun _ => rfl
    | false => exact .value hunbroken fun hclean => nomatch hlost hclean

theorem reportStep_routed {n : Int32} (h : past.Clean) : (a.reportStep n).RoutedStep past := by
  unfold reportStep
  split
  · exact routed_pure h
  · exact routed_attempt_once h rfl rfl fun _ hclean => routed_pure hclean

/-- **Every pass is routed**, whatever its calls are answered. -/
theorem pass_routed (settings : Settings) (key : ObjectName) (fresh : Credentials) :
    (pass settings key.ns key.name fresh).Routed (· = .requeue .conflict) [] := by
  refine routed_ask Path.clean_nil rfl fun found hclean => ?_
  cases found with
  | none => exact routed_pure hclean
  | some a =>
    refine (credentialsStep_routed hclean).thenStep fun p₁ secret h₁ => ?_
    refine (configurationStep_routed h₁).thenStep fun p₂ map h₂ => ?_
    have hproxy : (a.proxyStep secret map settings).RoutedStep p₂ := by
      unfold proxyStep
      split
      · exact standaloneStep_routed h₂
      · exact workloadsStep_routed h₂
    refine hproxy.thenStep fun p₃ ready h₃ => ?_
    exact (reportStep_routed h₃).thenStep fun p₄ _ h₄ => routed_pure h₄

end Authenticator

/-! ## Runs -/

/-- No read from the store fails with a lost race. -/
def LosesNoRead {σ : Type} (store : Store σ) : Prop :=
  ∀ q s e, q.operation.isWrite = false → (store q s).1 = .error e → e.isLostRace = false

/-- What a pass makes of the failures of its calls. -/
structure RoutesFailures (calls : Path) (result : Except Error Outcome) : Prop where
  /-- It does not fail with a lost race. -/
  no_lost_race : ∀ e, result = .error e → e.isLostRace = false
  /-- It requeues if a race was lost and nothing else has failed. -/
  lost_race : ∀ x ∈ calls, ∀ e, x.result = .error e → e.isLostRace = true →
    (∀ y ∈ calls, y ≠ x → ∀ e, y.result = .error e → e.isLostRace = true) →
    result = .ok (.requeue .conflict)
  /-- It ends at every other failure, with this failure. -/
  last : ∀ earlier x later e, calls = earlier ++ x :: later → x.result = .error e →
    e.isLostRace = false → later = [] ∧ result = .error e

namespace Program

variable {σ α : Type} {store : Store σ} {s : σ} {p : Program α} {saysLost : α → Prop}

/-- A failure that is no lost race is that of the last call, and is how the program ends. -/
theorem Routed.last_of_failure (h : p.Routed saysLost []) {before after : Path} {x : CallRecord}
    {e : Error} (hcalls : p.calls store s = before ++ x :: after) (hx : x.result = .error e)
    (he : e.isLostRace = false) : after = [] ∧ (p.run store s).result = .error e := by
  obtain ⟨hlaw, hend⟩ := h.respected store s
  have hbroken : ¬ Path.Unbroken (before ++ [x]) := fun hunbroken => by
    have hlost := (hunbroken x (by simp) e hx).1
    rw [he] at hlost
    cases hlost
  cases after with
  | cons y rest => exact absurd (hlaw (before ++ [x]) y rest (by simp [hcalls])) hbroken
  | nil =>
    refine ⟨rfl, ?_⟩
    rw [List.nil_append, hcalls] at hend
    generalize (p.run store s).result = result at hend ⊢
    cases hend with
    | value unbroken => exact absurd unbroken hbroken
    | own clean => exact absurd clean.unbroken hbroken
    | failed last _ result =>
      obtain ⟨-, hlast⟩ := List.append_inj' last rfl
      obtain rfl := List.singleton_inj.1 hlast
      rw [hx] at result
      rw [Except.error.inj result]

/-- A read of the store and a failure that ends the program are no lost race. -/
theorem not_lost_of_fatal (hreads : LosesNoRead store) {x : CallRecord} {e : Error}
    (hx : x ∈ p.calls store s) (hresult : x.result = .error e)
    (hfatal : x.call.operation.isWrite = true → e.isLostRace = false) : e.isLostRace = false := by
  cases hwrite : x.call.operation.isWrite with
  | true => exact hfatal hwrite
  | false =>
    obtain ⟨t, ht⟩ := answered_of_mem_calls hx
    exact hreads x.call t e hwrite (ht.trans hresult)

/-- The program does not end with a lost race. -/
theorem Routed.not_lost_of_error (h : p.Routed saysLost []) (hreads : LosesNoRead store)
    {e : Error} (he : (p.run store s).result = .error e) : e.isLostRace = false := by
  have hend := (h.respected store s).2
  rw [List.nil_append, he] at hend
  cases hend with
  | own _ made => exact made
  | @failed before x _ last _ hresult fatal =>
    have hx : x ∈ p.calls store s := last ▸ List.mem_append_right before (List.mem_singleton.2 rfl)
    exact not_lost_of_fatal hreads hx hresult fatal

/-- If some call has failed, and every failure was a lost race, the program ends with a value that
says so. -/
theorem Routed.says_lost (h : p.Routed saysLost []) (hreads : LosesNoRead store) {x : CallRecord}
    {e : Error} (hx : x ∈ p.calls store s) (hresult : x.result = .error e)
    (hlost : ∀ y ∈ p.calls store s, ∀ e, y.result = .error e → e.isLostRace = true) :
    ∃ v, (p.run store s).result = .ok v ∧ saysLost v := by
  have hend := (h.respected store s).2
  have hclean : ¬ (p.calls store s).Clean := fun hclean => hclean x hx e hresult
  rw [List.nil_append] at hend
  generalize (p.run store s).result = result at hend
  cases hend with
  | value _ lost => exact ⟨_, rfl, lost hclean⟩
  | own clean => exact absurd clean hclean
  | @failed before y e' last _ hfailed fatal =>
    have hy : y ∈ p.calls store s := last ▸ List.mem_append_right before (List.mem_singleton.2 rfl)
    have hrace := hlost y hy e' hfailed
    rw [not_lost_of_fatal hreads hy hfailed fatal] at hrace
    cases hrace

theorem Routed.routesFailures {p : Program Outcome} (h : p.Routed (· = .requeue .conflict) [])
    (hreads : LosesNoRead store) (s : σ) :
    RoutesFailures (p.calls store s) (p.run store s).result where
  no_lost_race _ he := h.not_lost_of_error hreads he
  lost_race x hx e he hlost hothers := by
    have hall : ∀ y ∈ p.calls store s, ∀ e, y.result = .error e → e.isLostRace = true := by
      intro y hy e' he'
      by_cases hxy : y = x
      · subst hxy
        rwa [Except.error.inj (he'.symm.trans he)]
      · exact hothers y hy hxy e' he'
    obtain ⟨v, hv, rfl⟩ := h.says_lost hreads hx he hall
    exact hv
  last _ _ _ _ hcalls hx he := h.last_of_failure hcalls hx he

end Program

end AuthProxy
