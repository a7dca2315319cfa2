import AuthProxy.Pass.Converge
import AuthProxy.Proofs.Dependents
import AuthProxy.Proofs.Program.Paths

/-! # The calls of a pass

The law of a pass (`PassCall`): which call it may make after which calls, whatever the answers were.
It says where every object that a pass writes comes from, and what was checked before the write.
`Authenticator.pass_lawful` says that every pass keeps the law on every path.
-/

namespace AuthProxy

namespace Path

/-- `o` was read under `key`. -/
def HasRead (past : Path) (k : Kind) (key : ObjectName) (o : k.Object) : Prop :=
  (⟨.get k key.ns key.name, .ok (some o)⟩ : CallRecord) ∈ past

/-- The objects `os` were listed. -/
def HasListed (past : Path) (k : Kind) (ns : String) (selector : LabelSelector)
    (os : List k.Object) : Prop :=
  (⟨.list k ns selector, .ok os⟩ : CallRecord) ∈ past

/-- `o` was created; `stored` is what came of it. -/
def HasCreated (past : Path) (k : Kind) (o stored : k.Object) : Prop :=
  (⟨.create k o, .ok stored⟩ : CallRecord) ∈ past

/-- The Secret that is generated for the authenticator was found with the authenticator as its
owner, or was created a moment ago. -/
def HasCredentials (past : Path) (a : Authenticator) (fresh : Credentials) : Prop :=
  (∃ ns s, a.metadata.ns = some ns ∧ past.HasRead .secret ⟨ns, a.ownSecretName⟩ s ∧
    a.owns s.metadata = true) ∨
  ∃ s stored, a.makeSecret a.ownSecretName fresh = .ok s ∧ past.HasCreated .secret s stored

end Path

namespace Authenticator

theorem hasReference_eq_false_iff {a : Authenticator} :
    a.hasReference = false ↔ a.spec.credentialsSecretRef = "" := by
  simp [hasReference]

theorem hasReference_eq_true_iff {a : Authenticator} :
    a.hasReference = true ↔ a.spec.credentialsSecretRef ≠ "" := by
  simp [hasReference]

/-- The authenticator with a reference to the Secret `name`. -/
def referring (a : Authenticator) (name : String) : Authenticator :=
  { a with spec := { a.spec with credentialsSecretRef := name } }

/-- The authenticator with a status that reports `n` ready replicas. -/
def reporting (a : Authenticator) (n : Int32) : Authenticator :=
  { a with status := some { readyReplicas := n } }

end Authenticator

/-- The calls that a pass over `key` may make after `past`. -/
inductive PassCall (settings : Settings) (key : ObjectName) (fresh : Credentials) (past : Path) :
    Call → Prop where
  | get (k : Kind) (ns name : String) : PassCall settings key fresh past (.get k ns name)
  | list (k : Kind) (ns : String) (selector : LabelSelector) :
    PassCall settings key fresh past (.list k ns selector)
  /-- Only an authenticator without a reference gets a Secret. -/
  | createSecret {a : Authenticator} {s : Secret} (read : past.HasRead .authenticator key a)
    (unset : a.hasReference = false) (made : a.makeSecret a.ownSecretName fresh = .ok s) :
    PassCall settings key fresh past (.create .secret s)
  | createConfigMap {a : Authenticator} {m : ConfigMap}
    (read : past.HasRead .authenticator key a) (made : a.makeConfigMap settings = .ok m) :
    PassCall settings key fresh past (.create .configMap m)
  | createDeployment {a : Authenticator} {s m : String} {n : Int32} {d : Deployment}
    (read : past.HasRead .authenticator key a) (alone : a.spec.mode = .standalone)
    (made : a.makeDeployment s m n settings = .ok d) :
    PassCall settings key fresh past (.create .deployment d)
  /-- The reference is set only while it is empty, and to a Secret that is there. -/
  | setReference {a : Authenticator} (read : past.HasRead .authenticator key a)
    (unset : a.hasReference = false) (there : past.HasCredentials a fresh) :
    PassCall settings key fresh past (.update .authenticator (a.referring a.ownSecretName))
  | updateConfigMap {a : Authenticator} {ns : String} {found desired : ConfigMap}
    (read : past.HasRead .authenticator key a) (ns_eq : a.metadata.ns = some ns)
    (readMap : past.HasRead .configMap ⟨ns, a.ownConfigMapName⟩ found)
    (owned : a.owns found.metadata = true) (made : a.makeConfigMap settings = .ok desired) :
    PassCall settings key fresh past (.update .configMap { found with data := desired.data })
  | updateDeployment {a : Authenticator} {ns s m : String} {n : Int32} {found desired : Deployment}
    (read : past.HasRead .authenticator key a) (alone : a.spec.mode = .standalone)
    (ns_eq : a.metadata.ns = some ns)
    (readDeployment : past.HasRead .deployment ⟨ns, a.ownDeploymentName⟩ found)
    (owned : a.owns found.metadata = true) (made : a.makeDeployment s m n settings = .ok desired) :
    PassCall settings key fresh past (.update .deployment { found with spec := desired.spec })
  /-- A workload is changed only if it was listed without a proxy. -/
  | inject {a : Authenticator} {ns s m : String} {workloads : List Deployment} {d : Deployment}
    (read : past.HasRead .authenticator key a) (along : a.spec.mode = .sidecar)
    (ns_eq : a.metadata.ns = some ns) (selective : a.spec.selector.isEmpty = false)
    (listed : past.HasListed .deployment ns a.spec.selector workloads)
    (changed : d ∈ a.addProxies s m settings workloads) :
    PassCall settings key fresh past (.update .deployment d)
  | report {a : Authenticator} {n : Int32} (read : past.HasRead .authenticator key a) :
    PassCall settings key fresh past (.updateStatus .authenticator (a.reporting n))

namespace Program

variable {α β : Type} {law : Path → Call → Prop} {past : Path}

/-- Every call keeps the law, however the program ends. -/
abbrev Lawful (law : Path → Call → Prop) (p : Program α) (past : Path) : Prop :=
  p.Obeys law (fun _ _ => True) past

theorem Lawful.bind {p : Program α} {f : α → Program β} (h : p.Lawful law past)
    (hf : ∀ later a, past <+: later → (f a).Lawful law later) : (p >>= f).Lawful law past := by
  rw [Lawful, obeys_bind]
  apply h.extends.mono
  intro later r hr
  cases r with
  | ok a => exact hf later a hr.1
  | error e => trivial

theorem Lawful.thenStep {step : Program (Progress α)} {rest : α → Program Outcome}
    (h : step.Lawful law past) (hr : ∀ later a, past <+: later → (rest a).Lawful law later) :
    (step.thenStep rest).Lawful law past := by
  apply h.bind
  intro later p hp
  cases p with
  | proceed a => exact hr later a hp
  | requeue reason => trivial

theorem lawful_lift {x : Except Error α} {f : α → Program β}
    (h : ∀ a, x = .ok a → (f a).Lawful law past) :
    ((liftM x : Program α) >>= f).Lawful law past := by
  rw [Lawful, obeys_lift]
  exact ⟨h, fun _ _ => trivial⟩

theorem lawful_ask {c : Call} {f : c.Answer → Program β} (hc : law past c)
    (h : ∀ a, (f a).Lawful law (past ++ [⟨c, .ok a⟩])) : (ask c >>= f).Lawful law past := by
  rw [Lawful, obeys_ask]
  exact ⟨hc, h, fun _ => trivial⟩

theorem lawful_attempt {c : Call} {f : Bool → Program β} (hc : law past c)
    (hok : ∀ a, (f true).Lawful law (past ++ [⟨c, .ok a⟩]))
    (hlost : ∀ e, (f false).Lawful law (past ++ [⟨c, .error e⟩])) :
    (attempt c >>= f).Lawful law past := by
  rw [Lawful, obeys_attempt]
  refine ⟨hc, hok, ?_⟩
  intro e
  split
  · exact hlost e
  · trivial

end Program

namespace Path

variable {past later : Path}

theorem HasRead.mono {k : Kind} {key : ObjectName} {o : k.Object} (h : past.HasRead k key o)
    (hp : past <+: later) : later.HasRead k key o := hp.subset h

theorem HasListed.mono {k : Kind} {ns : String} {selector : LabelSelector} {os : List k.Object}
    (h : past.HasListed k ns selector os) (hp : past <+: later) :
    later.HasListed k ns selector os := hp.subset h

theorem hasRead_append (past : Path) (k : Kind) (ns name : String) (o : k.Object) :
    HasRead (past ++ [⟨.get k ns name, .ok (some o)⟩]) k ⟨ns, name⟩ o := by
  simp [HasRead]

end Path

namespace Authenticator

open Program

variable {settings : Settings} {key : ObjectName} {fresh : Credentials} {past : Path}
  {a : Authenticator}

theorem setReference_lawful {reason : Requeue} (read : past.HasRead .authenticator key a)
    (unset : a.hasReference = false) (there : past.HasCredentials a fresh) :
    (a.setReference a.ownSecretName reason).Lawful (PassCall settings key fresh) past := by
  refine lawful_lift fun ns _ => lawful_attempt (.setReference read unset there) (fun _ => ?_)
    fun _ => trivial
  refine (obeys_tell ..).mpr (lawful_ask (.get ..) fun found => ?_)
  cases found <;> trivial

theorem useReferenced_lawful (ns name : String) :
    (useReferenced ns name).Lawful (PassCall settings key fresh) past := by
  apply lawful_ask (.get ..)
  intro found
  cases found with
  | none => trivial
  | some s => dsimp only; split <;> trivial

theorem createCredentials_lawful {ns : String} (read : past.HasRead .authenticator key a)
    (unset : a.hasReference = false) :
    (a.createCredentials ns a.ownSecretName fresh).Lawful (PassCall settings key fresh) past := by
  refine lawful_lift fun s made => lawful_attempt (.createSecret read unset made) (fun stored => ?_)
    fun _ => trivial
  have there : Path.HasCredentials (past ++ [⟨.create .secret s, .ok stored⟩]) a fresh :=
    .inr ⟨s, stored, made, by simp [Path.HasCreated]⟩
  exact (obeys_tell ..).mpr (setReference_lawful (read.mono (List.prefix_append ..)) unset there)

theorem credentialsStep_lawful (read : past.HasRead .authenticator key a) :
    (a.credentialsStep fresh).Lawful (PassCall settings key fresh) past := by
  apply lawful_lift
  intro ns hns
  cases set : a.hasReference with
  | true => exact useReferenced_lawful ..
  | false =>
    apply lawful_ask (.get ..)
    intro found
    have readHere : Path.HasRead (past ++ [⟨.get .secret ns a.ownSecretName, .ok found⟩])
        .authenticator key a := read.mono (List.prefix_append ..)
    cases found with
    | none => exact createCredentials_lawful readHere set
    | some s =>
      cases owned : a.owns s.metadata with
      | false => simp only [owned]; trivial
      | true =>
        simp only [owned, if_true]
        have there : Path.HasCredentials _ a fresh :=
          .inl ⟨ns, s, ownNamespace_eq_ok_iff.1 hns, Path.hasRead_append past .secret ns _ s, owned⟩
        exact (obeys_tell ..).mpr (setReference_lawful readHere set there)

theorem configurationStep_lawful (read : past.HasRead .authenticator key a) :
    (a.configurationStep settings).Lawful (PassCall settings key fresh) past := by
  apply lawful_lift
  intro ns hns
  apply lawful_lift
  intro desired made
  apply lawful_ask (.get ..)
  intro found
  have readHere : Path.HasRead (past ++ [⟨.get .configMap ns a.ownConfigMapName, .ok found⟩])
      .authenticator key a := read.mono (List.prefix_append ..)
  cases found with
  | none =>
    exact lawful_attempt (.createConfigMap readHere made) (fun _ => trivial) fun _ => trivial
  | some found =>
    cases owned : a.owns found.metadata with
    | false => simp only [owned]; trivial
    | true =>
      simp only [owned, Bool.not_true, Bool.false_eq_true, if_false]
      split
      · trivial
      · have readMap := Path.hasRead_append past .configMap ns a.ownConfigMapName found
        refine (obeys_tell ..).mpr (lawful_attempt
          (.updateConfigMap readHere (ownNamespace_eq_ok_iff.1 hns) readMap owned made) ?_ ?_) <;>
          exact fun _ => trivial

theorem chooseReplicas_lawful : a.chooseReplicas.Lawful (PassCall settings key fresh) past := by
  unfold chooseReplicas
  split
  · trivial
  · apply lawful_lift
    intro ns _
    apply lawful_ask (.list ..)
    intro workloads
    dsimp only
    split
    · trivial
    · split <;> trivial

theorem standaloneStep_lawful {s m : String} (read : past.HasRead .authenticator key a)
    (alone : a.spec.mode = .standalone) :
    (a.standaloneStep s m settings).Lawful (PassCall settings key fresh) past := by
  apply lawful_lift
  intro ns hns
  apply chooseReplicas_lawful.bind
  intro later n hl
  apply lawful_lift
  intro desired made
  apply lawful_ask (.get ..)
  intro found
  have readHere := read.mono (hl.trans (List.prefix_append later
    [⟨.get .deployment ns a.ownDeploymentName, .ok found⟩]))
  cases found with
  | none =>
    exact lawful_attempt (.createDeployment readHere alone made) (fun _ => trivial) fun _ => trivial
  | some found =>
    cases owned : a.owns found.metadata with
    | false => simp only [owned]; trivial
    | true =>
      simp only [owned, Bool.not_true, Bool.false_eq_true, if_false]
      split
      · trivial
      · have readDeployment := Path.hasRead_append later .deployment ns a.ownDeploymentName found
        refine (obeys_tell ..).mpr (lawful_attempt (.updateDeployment readHere alone
          (ownNamespace_eq_ok_iff.1 hns) readDeployment owned made) ?_ ?_) <;>
          exact fun _ => trivial

/-- By induction on the workloads that are left: nothing that the loop did so far takes away what
allows the next write. -/
theorem writeWorkloads_lawful {ns s m : String} {workloads changed : List Deployment} {lost : Bool}
    (read : past.HasRead .authenticator key a) (along : a.spec.mode = .sidecar)
    (ns_eq : a.metadata.ns = some ns) (selective : a.spec.selector.isEmpty = false)
    (listed : past.HasListed .deployment ns a.spec.selector workloads)
    (sub : ∀ d ∈ changed, d ∈ a.addProxies s m settings workloads) :
    (writeWorkloads ns lost changed).Lawful (PassCall settings key fresh) past := by
  induction changed generalizing lost past with
  | nil => trivial
  | cons d rest ih =>
    have hrest : ∀ lost r, (writeWorkloads ns lost rest).Lawful (PassCall settings key fresh)
        (past ++ [⟨.update .deployment d, r⟩]) := by
      intro lost r
      have hp := List.prefix_append past [⟨.update .deployment d, r⟩]
      exact ih (read.mono hp) (listed.mono hp) fun x hx => sub x (List.mem_cons_of_mem d hx)
    refine lawful_attempt (.inject read along ns_eq selective listed (sub d List.mem_cons_self))
      (fun r => ?_) fun e => hrest true (.error e)
    exact (obeys_tell ..).mpr (hrest lost (.ok r))

theorem workloadsStep_lawful {s m : String} (read : past.HasRead .authenticator key a)
    (along : a.spec.mode = .sidecar) :
    (a.workloadsStep s m settings).Lawful (PassCall settings key fresh) past := by
  unfold workloadsStep
  cases selective : a.spec.selector.isEmpty with
  | true => trivial
  | false =>
    simp only [Bool.false_eq_true, if_false]
    apply lawful_lift
    intro ns hns
    apply lawful_ask (.list ..)
    intro workloads
    refine (obeys_tellAll ..).mpr (Lawful.bind ?_ fun later lost _ => ?_)
    · have hp := List.prefix_append past [⟨.list .deployment ns a.spec.selector, .ok workloads⟩]
      exact writeWorkloads_lawful (read.mono hp) along (ownNamespace_eq_ok_iff.1 hns) selective
        (by simp [Path.HasListed]) fun d hd => hd
    · cases lost <;> trivial

theorem reportStep_lawful {n : Int32} (read : past.HasRead .authenticator key a) :
    (a.reportStep n).Lawful (PassCall settings key fresh) past := by
  unfold reportStep
  split
  · trivial
  · exact lawful_attempt (.report read) (fun _ => trivial) fun _ => trivial

theorem converge_lawful (read : past.HasRead .authenticator key a) :
    (a.converge settings fresh).Lawful (PassCall settings key fresh) past := by
  apply (credentialsStep_lawful read).thenStep
  intro p₁ s h₁
  apply (configurationStep_lawful (read.mono h₁)).thenStep
  intro p₂ m h₂
  have read₂ := read.mono (h₁.trans h₂)
  have hproxy : (a.proxyStep s m settings).Lawful (PassCall settings key fresh) p₂ := by
    unfold proxyStep
    split
    · next alone => exact standaloneStep_lawful read₂ alone
    · next along => exact workloadsStep_lawful read₂ along
  apply hproxy.thenStep
  intro p₃ ready h₃
  exact (reportStep_lawful (read₂.mono h₃)).thenStep fun _ _ _ => trivial

/-- **Every pass keeps the law**, whatever its calls are answered. -/
theorem pass_lawful (settings : Settings) (key : ObjectName) (fresh : Credentials) :
    (pass settings key.ns key.name fresh).Lawful (PassCall settings key fresh) [] := by
  apply lawful_ask (.get ..)
  intro found
  cases found with
  | none => trivial
  | some a => exact converge_lawful (Path.hasRead_append [] .authenticator key.ns key.name a)

end Authenticator

end AuthProxy
