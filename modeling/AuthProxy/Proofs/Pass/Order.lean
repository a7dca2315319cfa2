import AuthProxy.Proofs.Pass.Foreign
import AuthProxy.Proofs.Program.Recorded

/-! # The order of the calls of a pass

A pass fetches its authenticator and then goes through its stages in a fixed order, and it tries to
create at most one object. What was just created may not be visible to the next read, so a pass that
has tried to create something is over: only the reference to a Secret that it created is still set.
Each step stays in its own stage and goes on only if it has created nothing (`InStage`); the order
of the stages is that in which the steps are put together.
-/

namespace AuthProxy

/-- The stages of a pass. -/
inductive Stage where
  | fetch
  | credentials
  | configuration
  | proxy
  | report
deriving DecidableEq, Repr

/-- The place of a stage in the order. -/
def Stage.rank : Stage → Nat
  | fetch => 0
  | credentials => 1
  | configuration => 2
  | proxy => 3
  | report => 4

/-- The stage that a call belongs to. Some calls belong to none. -/
def Call.stage? : Call → Option Stage
  | .get .authenticator .. => some .fetch
  | .update .authenticator _ | .get .secret .. | .create .secret _ => some .credentials
  | .get .configMap .. | .create .configMap _ | .update .configMap _ => some .configuration
  | .get .deployment .. | .list .deployment .. | .create .deployment _ | .update .deployment _ =>
    some .proxy
  | .updateStatus .authenticator _ => some .report
  | _ => none

namespace Call

variable {q : Call} {st : Stage}

theorem stage_of_updateStatus (hq : q.operation = .updateStatus) (h : q.stage? = some st) :
    st = .report := by
  cases q with
  | updateStatus k o => cases k <;> cases h; rfl
  | get | list | create | update => cases hq

theorem stage_of_create (hq : q.operation = .create) (h : q.stage? = some st) :
    st.rank < Stage.rank .report := by
  cases q with
  | create k o => cases k <;> cases h <;> decide
  | get | list | update | updateStatus => cases hq

theorem kind_of_credentials (h : q.stage? = some .credentials) :
    ¬ (q.kind = .configMap ∨ q.kind = .deployment) := by
  rcases q with ⟨k, _, _⟩ | ⟨k, _, _⟩ | ⟨k, _⟩ | ⟨k, _⟩ | ⟨k, _⟩ <;> cases k <;> cases h <;>
    · rintro (h | h) <;> cases h

end Call

namespace Path

variable {past : Path} {st : Stage} {q : Call}

/-- No call was to create an object. -/
def CreatesNothing (past : Path) : Prop := ∀ x ∈ past, x.call.operation ≠ .create

/-- Every call belongs to the stage or to an earlier one. -/
def Upto (past : Path) (st : Stage) : Prop :=
  ∀ x ∈ past, ∃ earlier, x.call.stage? = some earlier ∧ earlier.rank ≤ st.rank

theorem createsNothing_nil : CreatesNothing [] := fun _ hx => absurd hx List.not_mem_nil

theorem upto_nil : Upto [] st := fun _ hx => absurd hx List.not_mem_nil

theorem CreatesNothing.snoc (h : past.CreatesNothing) (hq : q.operation ≠ .create)
    (r : q.Result) : CreatesNothing (past ++ [⟨q, r⟩]) :=
  List.forall_mem_append.2 ⟨h, List.forall_mem_singleton.2 hq⟩

theorem Upto.snoc (h : past.Upto st) (hq : q.stage? = some st) (r : q.Result) :
    Upto (past ++ [⟨q, r⟩]) st :=
  List.forall_mem_append.2 ⟨h, List.forall_mem_singleton.2 ⟨st, hq, Nat.le_refl _⟩⟩

theorem fetched_singleton (key : ObjectName) (a : Authenticator) :
    Fetched ([] ++ [⟨.get .authenticator key.ns key.name, .ok (some a)⟩]) key a := rfl

theorem createsNothing_singleton (key : ObjectName) (found : Option Authenticator) :
    CreatesNothing ([] ++ [⟨.get .authenticator key.ns key.name, .ok found⟩]) :=
  createsNothing_nil.snoc (q := .get .authenticator key.ns key.name) nofun _

theorem Upto.mono {next : Stage} (h : past.Upto st) (hst : st.rank ≤ next.rank) :
    past.Upto next := fun x hx =>
  (h x hx).imp fun _ hearlier => ⟨hearlier.1, Nat.le_trans hearlier.2 hst⟩

end Path

/-- The calls that may come after `past`, as far as objects were created: any while there was none,
then only reads and, right after a Secret was created, the reference to it. -/
inductive MayFollow (key : ObjectName) (past : Path) : Call → Prop where
  | any (q : Call) (h : past.CreatesNothing) : MayFollow key past q
  | read {q : Call} (h : q.operation.isWrite = false) : MayFollow key past q
  | refer {a : Authenticator} {s stored : Secret} {before : Path} (fetched : past.Fetched key a)
    (created : past = before ++ [⟨.create .secret s, .ok stored⟩])
    (once : before.CreatesNothing) :
    MayFollow key past (.update .authenticator (a.referring a.ownSecretName))

namespace Program

variable {α β : Type} {key : ObjectName} {st : Stage} {past : Path} {goesOn : α → Prop}
  {goesOn' : β → Prop}

/-- A program that ends with a value to go on with has created nothing. -/
def GoesOnClear (goesOn : α → Prop) (past : Path) (r : Except Error α) : Prop :=
  ∀ x, r = .ok x → goesOn x → past.CreatesNothing

/-- Every call belongs to the stage and may follow, and the program goes on only if it has created
nothing. -/
abbrev Staged (key : ObjectName) (st : Stage) (goesOn : α → Prop) (p : Program α) (past : Path) :
    Prop :=
  p.Obeys (fun past q => q.stage? = some st ∧ MayFollow key past q) (GoesOnClear goesOn) past

theorem goesOn_of_createsNothing {r : Except Error α} (h : past.CreatesNothing) :
    GoesOnClear goesOn past r := fun _ _ _ => h

theorem goesOn_of_error {e : Error} : GoesOnClear goesOn past (.error e) := nofun

theorem Staged.bind {p : Program α} {f : α → Program β}
    (h : p.Staged key st (fun _ => True) past)
    (hf : ∀ later x, later.CreatesNothing → (f x).Staged key st goesOn' later) :
    (p >>= f).Staged key st goesOn' past := by
  refine (obeys_bind _ _).2 (h.mono ?_)
  rintro later (e | x) hr
  · exact goesOn_of_error
  · exact hf later x (hr x rfl trivial)

theorem staged_lift {x : Except Error α} {f : α → Program β}
    (hf : ∀ y, x = .ok y → (f y).Staged key st goesOn' past) :
    ((liftM x : Program α) >>= f).Staged key st goesOn' past :=
  (obeys_lift _ _).2 ⟨hf, fun _ _ => goesOn_of_error⟩

theorem staged_ask {q : Call} {f : q.Answer → Program β} (h : past.CreatesNothing)
    (hst : q.stage? = some st) (hq : q.operation ≠ .create)
    (hf : ∀ a, Path.CreatesNothing (past ++ [⟨q, .ok a⟩]) →
      (f a).Staged key st goesOn' (past ++ [⟨q, .ok a⟩])) :
    (ask q >>= f).Staged key st goesOn' past :=
  (obeys_ask _ _).2 ⟨⟨hst, .any q h⟩, fun a => hf a (h.snoc hq _), fun _ => goesOn_of_error⟩

theorem staged_attempt {q : Call} {f : Bool → Program β} (hst : q.stage? = some st)
    (hq : MayFollow key past q) (hok : ∀ a, (f true).Staged key st goesOn' (past ++ [⟨q, .ok a⟩]))
    (hlost : ∀ e, (f false).Staged key st goesOn' (past ++ [⟨q, .error e⟩])) :
    (attempt q >>= f).Staged key st goesOn' past := by
  refine (obeys_attempt _ _).2 ⟨⟨hst, hq⟩, hok, fun e => ?_⟩
  split
  · exact hlost e
  · exact goesOn_of_error

/-- The step goes on. -/
def Proceeds (p : Progress α) : Prop := ∃ x, p = .proceed x

/-- A step of the pass within one stage. -/
abbrev InStage (key : ObjectName) (st : Stage) (step : Program (Progress α)) (past : Path) : Prop :=
  step.Staged key st Proceeds past

theorem proceeds_of_requeue {reason : Requeue} :
    GoesOnClear Proceeds past (.ok (.requeue reason : Progress α)) := by
  rintro _ ⟨⟩ ⟨x, ⟨⟩⟩

/-- A write that is the last call of its step. -/
theorem inStage_attempt_update {q : Call} {f : Bool → Program (Progress α)}
    (h : past.CreatesNothing) (hst : q.stage? = some st) (hq : q.operation ≠ .create)
    (hlost : f false = pure (.requeue .conflict))
    (hok : ∀ past, past.CreatesNothing → (f true).InStage key st past) :
    (attempt q >>= f).InStage key st past :=
  staged_attempt hst (.any q h) (fun _ => hok _ (h.snoc hq _)) fun _ => hlost ▸ proceeds_of_requeue

end Program

/-- What every call of a pass over `key` respects. -/
structure OrderedCall (key : ObjectName) (past : Path) (q : Call) : Prop where
  staged : ∃ st, q.stage? = some st ∧ past.Upto st
  first : q.stage? = some .fetch → past = []
  follows : MayFollow key past q

namespace Program

variable {α : Type} {key : ObjectName} {st : Stage} {past : Path}

/-- Every call is in order, and the pass is done only if it has created nothing. -/
abbrev Orderly (key : ObjectName) (p : Program Outcome) (past : Path) : Prop :=
  p.Obeys (OrderedCall key) (fun past r => ∀ n, r = .ok (.done n) → past.CreatesNothing) past

theorem InStage.thenStep {step : Program (Progress α)} {rest : α → Program Outcome}
    (h : step.InStage key st past) (hpast : past.Upto st) (hst : st ≠ .fetch)
    (hrest : ∀ later x, later.CreatesNothing → later.Upto st → (rest x).Orderly key later) :
    (step.thenStep rest).Orderly key past := by
  have hkeeps : step.Obeys
      (fun later q => (q.stage? = some st ∧ MayFollow key later q) ∧ later.Upto st)
      (fun later r => GoesOnClear Proceeds later r ∧ later.Upto st) past :=
    h.keeps hpast fun later q r hlater hq => hlater.snoc hq.1 r
  refine (obeys_bind _ _).2 (hkeeps.imp ?_ ?_)
  · rintro later q - ⟨⟨hstage, hfollows⟩, hlater⟩
    refine ⟨⟨st, hstage, hlater⟩, fun hfetch => ?_, hfollows⟩
    exact absurd (Option.some.inj (hstage.symm.trans hfetch)) hst
  · rintro later (e | p) - ⟨hr, hlater⟩
    · exact nofun
    · cases p with
      | proceed x => exact hrest later x (hr _ rfl ⟨x, rfl⟩) hlater
      | requeue reason => exact nofun

end Program

namespace Authenticator

open Program

variable {a : Authenticator} {settings : Settings} {key : ObjectName} {fresh : Credentials}
  {past : Path} {ns name secret map : String}

/-! ## The steps -/

theorem setReference_inStage {reason : Requeue}
    (h : MayFollow key past (.update .authenticator (a.referring name))) :
    (a.setReference name reason).InStage key .credentials past := by
  refine staged_lift fun ns _ => staged_attempt rfl h (fun _ => ?_) fun _ => proceeds_of_requeue
  refine (obeys_tell _ _).2 ((obeys_ask _ _).2
    ⟨⟨rfl, .read rfl⟩, fun found => ?_, fun _ => goesOn_of_error⟩)
  cases found <;> exact proceeds_of_requeue

theorem credentialsStep_inStage (fetched : past.Fetched key a) (h : past.CreatesNothing) :
    (a.credentialsStep fresh).InStage key .credentials past := by
  refine staged_lift fun ns _ => ?_
  cases a.hasReference with
  | true =>
    refine staged_ask h rfl nofun fun found hlater => ?_
    cases found with
    | none => exact proceeds_of_requeue
    | some s => dsimp only; split <;> exact goesOn_of_createsNothing hlater
  | false =>
    refine staged_ask h rfl nofun fun found hlater => ?_
    cases found with
    | none =>
      refine staged_lift fun s _ => staged_attempt rfl (.any _ hlater) (fun stored => ?_)
        fun _ => proceeds_of_requeue
      exact setReference_inStage (.refer ((fetched.append _).append _) rfl hlater)
    | some s =>
      dsimp only
      split
      · exact setReference_inStage (.any _ hlater)
      · exact goesOn_of_error

theorem configurationStep_inStage (h : past.CreatesNothing) :
    (a.configurationStep settings).InStage key .configuration past := by
  refine staged_lift fun ns _ => staged_lift fun desired _ => ?_
  refine staged_ask h rfl nofun fun found hlater => ?_
  cases found with
  | none =>
    exact staged_attempt rfl (.any _ hlater) (fun _ => proceeds_of_requeue)
      fun _ => proceeds_of_requeue
  | some found =>
    dsimp only
    split
    · exact goesOn_of_error
    · split
      · exact goesOn_of_createsNothing hlater
      · exact inStage_attempt_update hlater rfl nofun rfl fun _ => goesOn_of_createsNothing

theorem chooseReplicas_staged (h : past.CreatesNothing) :
    a.chooseReplicas.Staged key .proxy (fun _ => True) past := by
  unfold chooseReplicas
  split
  · exact goesOn_of_createsNothing h
  · refine staged_lift fun ns _ => staged_ask h rfl nofun fun workloads hlater => ?_
    dsimp only
    split
    · exact goesOn_of_createsNothing hlater
    · split <;> exact goesOn_of_createsNothing hlater

theorem standaloneStep_inStage (h : past.CreatesNothing) :
    (a.standaloneStep secret map settings).InStage key .proxy past := by
  refine staged_lift fun ns _ => (chooseReplicas_staged h).bind fun later n h => ?_
  refine staged_lift fun desired _ => staged_ask h rfl nofun fun found hlater => ?_
  cases found with
  | none =>
    exact staged_attempt rfl (.any _ hlater) (fun _ => proceeds_of_requeue)
      fun _ => proceeds_of_requeue
  | some found =>
    dsimp only
    split
    · exact goesOn_of_error
    · split
      · exact goesOn_of_createsNothing hlater
      · exact inStage_attempt_update hlater rfl nofun rfl fun _ => goesOn_of_createsNothing

/-- By induction on the workloads: the loop only updates. -/
theorem writeWorkloads_staged {changed : List Deployment} {lost : Bool}
    (h : past.CreatesNothing) :
    (writeWorkloads ns lost changed).Staged key .proxy (fun _ => True) past := by
  induction changed generalizing lost past with
  | nil => exact goesOn_of_createsNothing h
  | cons d rest ih =>
    have hlater := h.snoc (q := .update .deployment d) nofun
    exact staged_attempt rfl (.any _ h) (fun _ => ih (hlater _)) fun _ => ih (hlater _)

theorem workloadsStep_inStage (h : past.CreatesNothing) :
    (a.workloadsStep secret map settings).InStage key .proxy past := by
  unfold workloadsStep
  split
  · exact goesOn_of_createsNothing h
  · refine staged_lift fun ns _ => staged_ask h rfl nofun fun workloads hlater => ?_
    refine (obeys_tellAll _ _).2 ((writeWorkloads_staged hlater).bind fun later lost h => ?_)
    cases lost with
    | true => exact proceeds_of_requeue
    | false => exact goesOn_of_createsNothing h

theorem reportStep_inStage {n : Int32} (h : past.CreatesNothing) :
    (a.reportStep n).InStage key .report past := by
  unfold reportStep
  split
  · exact goesOn_of_createsNothing h
  · exact inStage_attempt_update h rfl nofun rfl fun _ => goesOn_of_createsNothing

/-- **The calls of every pass are in order**, whatever they are answered. -/
theorem pass_orderly (settings : Settings) (key : ObjectName) (fresh : Credentials) :
    (pass settings key.ns key.name fresh).Orderly key [] := by
  have hfirst : OrderedCall key [] (.get .authenticator key.ns key.name) := {
    staged := ⟨.fetch, rfl, Path.upto_nil⟩
    first := fun _ => rfl
    follows := .read rfl }
  refine (obeys_ask _ _).2 ⟨hfirst, fun found => ?_, fun _ => nofun⟩
  have h := Path.createsNothing_singleton key found
  have hfetch := Path.upto_nil.snoc (q := .get .authenticator key.ns key.name) rfl (.ok found)
  cases found with
  | none => exact nofun
  | some a =>
    have hcredentials : (a.credentialsStep fresh).InStage key .credentials _ :=
      credentialsStep_inStage (Path.fetched_singleton key a) h
    refine hcredentials.thenStep (hfetch.mono (by decide)) nofun
      fun p₁ secret h₁ hcredentials => ?_
    refine (configurationStep_inStage h₁).thenStep (hcredentials.mono (by decide)) nofun
      fun p₂ map h₂ hconfiguration => ?_
    have hproxy : (a.proxyStep secret map settings).InStage key .proxy p₂ := by
      unfold proxyStep
      split
      · exact standaloneStep_inStage h₂
      · exact workloadsStep_inStage h₂
    refine hproxy.thenStep (hconfiguration.mono (by decide)) nofun fun p₃ ready h₃ hproxy => ?_
    exact (reportStep_inStage h₃).thenStep (hproxy.mono (by decide)) nofun
      fun p₄ _ h₄ _ _ _ => h₄

end Authenticator

/-! ## Runs -/

/-- The calls of a pass over `key` go through its stages one after the other. -/
structure StagesInOrder (key : ObjectName) (calls : Path) : Prop where
  /-- The authenticator is fetched first, and never again. -/
  fetch_first : ∃ r rest, calls = ⟨.get .authenticator key.ns key.name, r⟩ :: rest ∧
    ∀ x ∈ rest, x.call.stage? ≠ some .fetch
  staged : ∀ x ∈ calls, ∃ st, x.call.stage? = some st
  sorted : calls.Pairwise fun x y =>
    ∀ s t, x.call.stage? = some s → y.call.stage? = some t → s.rank ≤ t.rank

/-- A pass over `key` tries to create at most one object, and is over then. -/
structure CreatesOnce (key : ObjectName) (calls : Path) (result : Except Error Outcome) : Prop where
  once : calls.countP (fun x => x.call.operation = .create) ≤ 1
  /-- The only write after a creation sets the reference, right after the Secret was created. -/
  refers : ∀ before x between y after, calls = before ++ x :: (between ++ y :: after) →
    x.call.operation = .create → y.call.operation.isWrite = true →
    between = [] ∧ (∃ s stored, x = ⟨.create .secret s, .ok stored⟩) ∧
      ∃ a, calls.Fetched key a ∧ y.call = .update .authenticator (a.referring a.ownSecretName)
  not_done : (∃ x ∈ calls, x.call.operation = .create) → ∀ n, result ≠ .ok (.done n)
  not_reported : (∃ x ∈ calls, x.call.operation = .create) →
    ∀ y ∈ calls, y.call.operation ≠ .updateStatus

/-- Only reads and the reference may follow a creation. -/
theorem MayFollow.createsNothing {key : ObjectName} {past : Path} {q : Call}
    (h : MayFollow key past q) (hq : q.operation = .create) : past.CreatesNothing := by
  cases h with
  | any _ hnothing => exact hnothing
  | read hread =>
    rw [hq] at hread
    cases hread
  | refer => cases hq

namespace Path

variable {key : ObjectName} {calls : Path}

/-- Every call is in order after those before it. -/
def InOrder (key : ObjectName) (calls : Path) : Prop :=
  ∀ before x after, calls = before ++ x :: after → OrderedCall key before x.call

theorem InOrder.stage_le (h : calls.InOrder key) {before between after : Path} {x y : CallRecord}
    (hcalls : calls = before ++ x :: (between ++ y :: after)) {s t : Stage}
    (hs : x.call.stage? = some s) (ht : y.call.stage? = some t) : s.rank ≤ t.rank := by
  obtain ⟨st, hst, hupto⟩ := (h (before ++ x :: between) y after (by simp [hcalls])).staged
  obtain ⟨earlier, hearlier, hle⟩ := hupto x (by simp)
  obtain rfl := Option.some.inj (ht.symm.trans hst)
  obtain rfl := Option.some.inj (hs.symm.trans hearlier)
  exact hle

theorem InOrder.refers (h : calls.InOrder key) {before between after : Path} {x y : CallRecord}
    (hcalls : calls = before ++ x :: (between ++ y :: after)) (hx : x.call.operation = .create)
    (hy : y.call.operation.isWrite = true) :
    between = [] ∧ (∃ s stored, x = ⟨.create .secret s, .ok stored⟩) ∧
      ∃ a, calls.Fetched key a ∧ y.call = .update .authenticator (a.referring a.ownSecretName) := by
  have hsplit : calls = (before ++ x :: between) ++ y :: after := by simp [hcalls]
  have hmem : x ∈ before ++ x :: between := by simp
  have hfollows := (h _ y after hsplit).follows
  generalize y.call = q at hfollows hy
  cases hfollows with
  | any _ hnothing => exact absurd hx (hnothing x hmem)
  | read hread => exact nomatch hread.symm.trans hy
  | @refer a s stored first fetched created once =>
    -- What was created is the last call, and `x` is a creation, so `x` is this last call.
    have hlast : x = ⟨.create .secret s, .ok stored⟩ ∧ between = [] := by
      rcases List.eq_nil_or_concat between with rfl | ⟨more, z, rfl⟩
      · exact ⟨List.singleton_inj.1 (List.append_inj' created rfl).2, rfl⟩
      · have heq : (before ++ x :: more) ++ [z] = first ++ [⟨.create .secret s, .ok stored⟩] := by
          rw [← created]
          simp
        have hfirst : before ++ x :: more = first := (List.append_inj' heq rfl).1
        exact absurd hx (once x (by simp [← hfirst]))
    refine ⟨hlast.2, ⟨s, stored, hlast.1⟩, a, ?_, rfl⟩
    rw [hsplit]
    exact fetched.append _

theorem InOrder.countP_create_le (h : calls.InOrder key) :
    calls.countP (fun x => x.call.operation = .create) ≤ 1 := by
  have hzero : ∀ {p : Path}, p.CreatesNothing →
      p.countP (fun x => x.call.operation = .create) = 0 := fun hp =>
    List.countP_eq_zero.2 fun x hx => by simpa using hp x hx
  rcases Classical.em calls.CreatesNothing with hnothing | hsome
  · rw [hzero hnothing]
    exact Nat.zero_le 1
  · simp only [CreatesNothing, ne_eq, Classical.not_forall, Classical.not_not] at hsome
    obtain ⟨x, hx, hcreate⟩ := hsome
    obtain ⟨before, after, rfl⟩ := List.append_of_mem hx
    have hbefore := (h before x after rfl).follows.createsNothing hcreate
    have hafter : CreatesNothing after := by
      intro y hy hyc
      obtain ⟨between, rest, rfl⟩ := List.append_of_mem hy
      have hnothing := (h (before ++ x :: between) y rest (by simp)).follows.createsNothing hyc
      exact hnothing x (by simp) hcreate
    rw [List.countP_append, List.countP_cons, hzero hbefore, hzero hafter]
    split <;> decide

theorem InOrder.not_reported (h : calls.InOrder key) {x y : CallRecord} (hx : x ∈ calls)
    (hcreate : x.call.operation = .create) (hy : y ∈ calls) :
    y.call.operation ≠ .updateStatus := by
  intro hreport
  obtain ⟨before, after, hcalls⟩ := List.append_of_mem hx
  rw [hcalls] at hy
  rcases List.mem_append.1 hy with hy | hy
  · -- The report would come before the creation, which belongs to an earlier stage.
    obtain ⟨first, between, rfl⟩ := List.append_of_mem hy
    rw [List.append_assoc, List.cons_append] at hcalls
    obtain ⟨s, hs, -⟩ := (h _ y _ hcalls).staged
    obtain ⟨t, ht, -⟩ := (h (first ++ y :: between) x after (by simp [hcalls])).staged
    have hle := h.stage_le hcalls hs ht
    rw [Call.stage_of_updateStatus hreport hs] at hle
    exact absurd hle (Nat.not_le.2 (Call.stage_of_create hcreate ht))
  · rcases List.mem_cons.1 hy with rfl | hy
    · exact nomatch hcreate.symm.trans hreport
    · obtain ⟨between, rest, rfl⟩ := List.append_of_mem hy
      obtain ⟨-, -, a, -, hrefers⟩ := h.refers hcalls hcreate (by rw [hreport]; rfl)
      rw [hrefers] at hreport
      cases hreport

theorem pairwise_of_split {R : CallRecord → CallRecord → Prop}
    (h : ∀ before x between y after, calls = before ++ x :: (between ++ y :: after) → R x y) :
    calls.Pairwise R := by
  induction calls with
  | nil => exact .nil
  | cons x rest ih =>
    refine List.pairwise_cons.2 ⟨fun y hy => ?_, ih fun before _ between _ after heq => ?_⟩
    · obtain ⟨between, after, rfl⟩ := List.append_of_mem hy
      exact h [] x between y after rfl
    · exact h (x :: before) _ between _ after (by rw [heq, List.cons_append])

end Path

namespace Authenticator

open Program

variable {σ : Type}

theorem pass_stagesInOrder (settings : Settings) (key : ObjectName) (fresh : Credentials)
    (store : Store σ) (s : σ) :
    StagesInOrder key ((pass settings key.ns key.name fresh).calls store s) := by
  have h : Path.InOrder key ((pass settings key.ns key.name fresh).calls store s) :=
    ((pass_orderly settings key fresh).respected store s).1
  refine ⟨⟨_, _, rfl, fun x hx hfetch => ?_⟩, fun x hx => ?_,
    Path.pairwise_of_split fun _ _ _ _ _ hcalls _ _ => h.stage_le hcalls⟩
  · obtain ⟨before, after, heq⟩ := List.append_of_mem hx
    exact nomatch (h (_ :: before) x after (congrArg _ heq)).first hfetch
  · obtain ⟨before, after, heq⟩ := List.append_of_mem hx
    exact (h before x after heq).staged.imp fun _ => And.left

theorem pass_createsOnce (settings : Settings) (key : ObjectName) (fresh : Credentials)
    (store : Store σ) (s : σ) :
    CreatesOnce key ((pass settings key.ns key.name fresh).calls store s)
      ((pass settings key.ns key.name fresh).run store s).result := by
  obtain ⟨hcalls, hend⟩ := (pass_orderly settings key fresh).respected store s
  have h : Path.InOrder key ((pass settings key.ns key.name fresh).calls store s) := hcalls
  refine ⟨h.countP_create_le, fun _ _ _ _ _ => h.refers, ?_, ?_⟩
  · rintro ⟨x, hx, hcreate⟩ n hdone
    exact hend n hdone x hx hcreate
  · rintro ⟨x, hx, hcreate⟩ y hy
    exact h.not_reported hx hcreate hy

/-- Only a pass whose credentials step goes on looks at ConfigMaps and Deployments. -/
theorem pass_credentials_first (settings : Settings) (key : ObjectName) (fresh : Credentials)
    (store : Store σ) (s : σ) {x : CallRecord}
    (hx : x ∈ (pass settings key.ns key.name fresh).calls store s)
    (hkind : x.call.kind = .configMap ∨ x.call.kind = .deployment) :
    ∃ a t secret, store (.get .authenticator key.ns key.name) s = (.ok (some a), t) ∧
      ((a.credentialsStep fresh).run store t).result = .ok (.proceed secret) := by
  unfold pass at hx
  rw [calls_ask] at hx
  rcases List.mem_cons.1 hx with rfl | hx
  · rcases hkind with hkind | hkind <;> cases hkind
  generalize store (.get .authenticator key.ns key.name) s = answer at hx ⊢
  obtain ⟨e | _ | a, t⟩ := answer
  · cases hx
  · cases hx
  refine ⟨a, t, ?_⟩
  replace hx : x ∈ (a.converge settings fresh).calls store t := hx
  unfold converge Program.thenStep at hx
  rw [calls_bind] at hx
  rcases List.mem_append.1 hx with hx | hx
  · obtain ⟨before, after, hcalls⟩ := List.append_of_mem hx
    have hstep : (a.credentialsStep fresh).InStage key .credentials _ :=
      credentialsStep_inStage (Path.fetched_singleton key a)
        (Path.createsNothing_singleton key (some a))
    obtain ⟨hstage, -⟩ := (hstep.respected store t).1 before x after hcalls
    exact absurd hkind (Call.kind_of_credentials hstage)
  · generalize ((a.credentialsStep fresh).run store t).result = result at hx ⊢
    rcases result with e | secret | reason
    · cases hx
    · exact ⟨secret, rfl, rfl⟩
    · cases hx

/-- **A pass goes through its stages in order and creates at most one object.** Whatever its calls
are answered, it fetches, ensures the credentials, the configuration and the proxy, and reports, in
this order. An attempted creation ends it, except that a Secret that was created is still
referenced: such a pass is not done and reports nothing. If its credentials step does not go on, it
makes no call about ConfigMaps and Deployments. -/
theorem one_create_per_pass (settings : Settings) (key : ObjectName) (fresh : Credentials)
    (store : Store σ) (s : σ) :
    StagesInOrder key ((pass settings key.ns key.name fresh).calls store s) ∧
      CreatesOnce key ((pass settings key.ns key.name fresh).calls store s)
        ((pass settings key.ns key.name fresh).run store s).result ∧
      ∀ x ∈ (pass settings key.ns key.name fresh).calls store s,
        x.call.kind = .configMap ∨ x.call.kind = .deployment →
          ∃ a t secret, store (.get .authenticator key.ns key.name) s = (.ok (some a), t) ∧
            ((a.credentialsStep fresh).run store t).result = .ok (.proceed secret) :=
  ⟨pass_stagesInOrder settings key fresh store s, pass_createsOnce settings key fresh store s,
    fun _ => pass_credentials_first settings key fresh store s⟩

end Authenticator

end AuthProxy
