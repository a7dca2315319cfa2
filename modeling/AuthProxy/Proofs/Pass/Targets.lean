import AuthProxy.Proofs.Injection
import AuthProxy.Proofs.Pass.Adaptive
import AuthProxy.Proofs.Pass.Reselected
import AuthProxy.Proofs.Pass.Undisturbed
import AuthProxy.Proofs.Program.Recorded
import AuthProxy.Proofs.Selector

/-! # Targets of a selector

The Deployments that a selector targets: those in the namespace of the authenticator whose labels
match, and none if the selector is empty. Injection only writes targets, and adaptive replicas only
follow targets.
-/

namespace AuthProxy

namespace Cluster

variable {c : Cluster} {k : Kind} {ns : String} {s : LabelSelector}

/-- The Deployment is in the namespace and its labels match the selector, which is not empty. -/
structure Targets (c : Cluster) (ns : String) (s : LabelSelector) (d : Deployment) : Prop where
  selective : s.isEmpty = false
  stored : ∃ name, c.get? .deployment ⟨ns, name⟩ = some d
  labels : s.Matches d.metadata.labelMap

/-- What is listed are just the objects in the namespace whose labels match. -/
theorem mem_list_iff {os : List k.Object} (h : c.list k ns s = .ok os) {o : k.Object} :
    o ∈ os ↔ (∃ name, c.get? k ⟨ns, name⟩ = some o) ∧ s.Matches (k.metadata o).labelMap := by
  obtain ⟨t, ht, hos⟩ := list_eq_ok_iff.1 h
  constructor
  · intro ho
    obtain ⟨key, hstored, rfl⟩ := mem_of_list h ho
    rw [hos] at ho
    exact ⟨⟨key.name, hstored⟩, (LabelSelector.selects_iff ht).1 (List.mem_filter.1 ho).2⟩
  · rintro ⟨⟨name, hstored⟩, hmatches⟩
    exact mem_list ht h hstored ((LabelSelector.selects_iff ht).2 hmatches)

theorem mem_list_iff_targets {workloads : List Deployment}
    (h : c.list .deployment ns s = .ok workloads) (hselective : s.isEmpty = false)
    {d : Deployment} : d ∈ workloads ↔ c.Targets ns s d := by
  rw [mem_list_iff h]
  exact ⟨fun ⟨hstored, hlabels⟩ => ⟨hselective, hstored, hlabels⟩, fun h => ⟨h.stored, h.labels⟩⟩

end Cluster

namespace Authenticator

open Program

variable {a : Authenticator} {settings : Settings} {c c' : Cluster} {ns secret map : String}
  {workloads changed : List Deployment} {lost : Bool}

/-! ## Injection -/

/-- Only the workloads that are to be written are written, whatever calls fail. -/
theorem writeWorkloads_touches :
    (writeWorkloads ns lost changed).Ensures
      (fun q _ => ∃ o ∈ changed, q = .update .deployment o)
      (fun _ c' => ∀ k key, (k = .deployment → ∀ o ∈ changed, Kind.deployment.key o ≠ key) →
        c'.get? k key = c.get? k key) c := by
  induction changed generalizing c lost with
  | nil => exact fun _ _ _ => rfl
  | cons o rest ih =>
    have later : ∀ {s : Cluster} {lost : Bool},
        (∀ k key, (k = .deployment → Kind.deployment.key o ≠ key) → s.get? k key = c.get? k key) →
        (writeWorkloads ns lost rest).Ensures
          (fun q _ => ∃ x ∈ o :: rest, q = .update .deployment x)
          (fun _ c' => ∀ k key, (k = .deployment → ∀ x ∈ o :: rest, Kind.deployment.key x ≠ key) →
            c'.get? k key = c.get? k key) s := by
      intro s lost hs
      refine ih.mono ?_ ?_
      · rintro q - ⟨x, hx, hq⟩
        exact ⟨x, List.mem_cons_of_mem o hx, hq⟩
      · intro r c' hc' k key hne
        rw [hc' k key fun hk x hx => hne hk x (List.mem_cons_of_mem o hx),
          hs k key fun hk => hne hk o List.mem_cons_self]
    refine ensures_attempt ⟨o, List.mem_cons_self, rfl⟩ (fun failure stored s hd => ?_)
      (fun s hs => later fun k key _ => hs.get? k key) fun e s hs k key _ => hs.get? k key
    obtain ⟨found, v, -, -, -, written, rfl⟩ := Cluster.update_eq_ok (deliver_update hd)
    refine later fun k key hne => ?_
    by_cases hk : k = .deployment
    · subst hk
      exact written.get?_of_ne_key (hne rfl).symm
    · exact written.get?_of_ne_kind hk key

/-- What is to be written are the targets that can take the proxy, with the proxy added. -/
theorem mem_addProxies_iff (hlist : c.list .deployment ns a.spec.selector = .ok workloads)
    (hselective : a.spec.selector.isEmpty = false) {o : Deployment} :
    o ∈ a.addProxies secret map settings workloads ↔
      ∃ d, c.Targets ns a.spec.selector d ∧ d.takesProxy = true ∧
        a.addProxyTo? secret map settings d = some o := by
  rw [mem_addProxies]
  apply exists_congr
  intro d
  rw [Cluster.mem_list_iff_targets hlist hselective]
  refine and_congr_right fun _ => and_congr_left fun hadded => ?_
  have hspec : d.spec.isSome = true := by
    rw [addProxyTo?] at hadded
    cases hs : d.spec with
    | none => rw [hs] at hadded; cases hadded
    | some s => rfl
  simp [d.takesProxy_eq, hspec]

/-- Nothing differs but targets that could take the proxy. -/
def OnlyTargets (a : Authenticator) (ns : String) (c c' : Cluster) : Prop :=
  ∀ k key, (k = .deployment → ∀ d, c.Targets ns a.spec.selector d → d.takesProxy = true →
    Kind.deployment.key d ≠ key) → c'.get? k key = c.get? k key

/-- Every target that could take the proxy has got it. -/
def AllTargets (a : Authenticator) (settings : Settings) (ns secret map : String)
    (c c' : Cluster) : Prop :=
  ∀ d, c.Targets ns a.spec.selector d → d.takesProxy = true → ∃ o v,
    AddsProxy a secret map settings d o ∧ c'.get? .deployment (Kind.deployment.key d) =
      some (Kind.deployment.withVersion o.withDefaults v)

/-- Every write adds the proxy to a target that can take it. -/
def WritesTargets (a : Authenticator) (settings : Settings) (ns secret map : String) (c : Cluster)
    (q : Call) : Prop :=
  q.operation.isWrite = true → ∃ d o, c.Targets ns a.spec.selector d ∧ d.takesProxy = true ∧
    AddsProxy a secret map settings d o ∧ q = .update .deployment o

theorem allTargets_of_rewritten (hc : c.WellKept)
    (hlist : c.list .deployment ns a.spec.selector = .ok workloads)
    (hselective : a.spec.selector.isEmpty = false)
    (h : Rewritten (a.addProxies secret map settings workloads) c c') :
    AllTargets a settings ns secret map c c' := by
  intro d htarget htakes
  have hspec : d.spec.isSome = true := by
    rw [d.takesProxy_eq, Bool.and_eq_true] at htakes
    exact htakes.1
  obtain ⟨o, hadded⟩ := addProxyTo?_of_spec a secret map settings hspec
  have ho := (mem_addProxies_iff hlist hselective).2 ⟨d, htarget, htakes, hadded⟩
  obtain ⟨found, v, hfound, hnow⟩ := h.written o ho
  have hd := (Cluster.mem_list_iff_targets hlist hselective).2 htarget
  rw [key_addProxyTo? hadded] at hfound hnow
  obtain rfl : found = d := Option.some.inj (hfound.symm.trans (hc.get?_of_list hlist hd).1)
  refine ⟨o, v, addsProxy_of_eq_some hadded, hnow.trans ?_⟩
  rw [← (addProxyTo?_eq_some hadded).2]

/-- Whatever calls fail, a workload step only writes targets; if it goes on, it has written all of
them that could take the proxy. -/
theorem workloadsStep_targets (hc : c.WellKept) (hns : a.metadata.ns = some ns) :
    (a.workloadsStep secret map settings).Ensures
      (fun q _ => WritesTargets a settings ns secret map c q)
      (fun r c' => OnlyTargets a ns c c' ∧
        ∀ ready, r = .ok (.proceed ready) → AllTargets a settings ns secret map c c') c := by
  have hkept : OnlyTargets a ns c c := fun _ _ _ => rfl
  unfold workloadsStep
  cases hselective : a.spec.selector.isEmpty with
  | true =>
    refine ⟨hkept, fun _ _ d htarget => ?_⟩
    have hselective' := htarget.selective
    rw [hselective] at hselective'
    cases hselective'
  | false =>
    simp only [Bool.false_eq_true, if_false]
    refine ensures_lift (fun ns' hns' => ?_) fun _ _ => ⟨hkept, nofun⟩
    obtain rfl : ns = ns' := Option.some.inj (hns.symm.trans (ownNamespace_eq_ok_iff.1 hns'))
    refine ensures_list nofun (fun workloads hlist => ?_) fun _ => ⟨hkept, nofun⟩
    have hdistinct : (a.addProxies secret map settings workloads).Pairwise
        fun d x => Kind.deployment.key d ≠ Kind.deployment.key x :=
      addProxies_distinct (hc.list_distinct hlist)
    refine (ensures_tellAll _ _).2 ((ensures_bind _ _).2
      ((writeWorkloads_touches.and (writeWorkloads_ensures hdistinct)).mono ?_ ?_))
    · rintro q - ⟨⟨o, ho, rfl⟩, -⟩ -
      obtain ⟨d, htarget, htakes, hadded⟩ := (mem_addProxies_iff hlist hselective).1 ho
      exact ⟨d, o, htarget, htakes, addsProxy_of_eq_some hadded, rfl⟩
    · intro r c' ⟨htouched, hwritten⟩
      have honly : OnlyTargets a ns c c' := by
        intro k key hne
        refine htouched k key fun hk o ho => ?_
        obtain ⟨d, htarget, htakes, hadded⟩ := (mem_addProxies_iff hlist hselective).1 ho
        rw [key_addProxyTo? hadded]
        exact hne hk d htarget htakes
      cases r with
      | error e => exact ⟨honly, nofun⟩
      | ok lost =>
        cases lost with
        | true => exact ⟨honly, nofun⟩
        | false =>
          obtain ⟨-, hrewritten⟩ := hwritten rfl
          exact ⟨honly, fun _ _ => allTargets_of_rewritten hc hlist hselective hrewritten⟩

/-- An empty selector has nothing injected, and nothing is even listed. -/
theorem workloadsStep_of_isEmpty {σ : Type} (store : Store σ) (s : σ)
    (h : a.spec.selector.isEmpty = true) :
    (a.workloadsStep secret map settings).run store s =
      ⟨.ok (.proceed 0), [.selectorEmpty], s⟩ := by
  rw [workloadsStep, h]
  rfl

/-- A selector that is not valid is an error before anything is written. -/
theorem workloadsStep_of_invalid (hns : a.metadata.ns = some ns)
    (h : ∀ t, a.spec.selector.checked ≠ .ok t) : ∃ text,
      (a.workloadsStep secret map settings).run Cluster.answer c =
        ⟨.error (.invalidSelector text), [], c⟩ := by
  have hselective : a.spec.selector.isEmpty = false := by
    by_contra hempty
    exact h _ (LabelSelector.isEmpty_iff_checked.1 (by simpa using hempty))
  cases hchecked : a.spec.selector.checked with
  | ok t => exact absurd hchecked (h t)
  | error e =>
    obtain ⟨text, rfl⟩ := LabelSelector.checked_eq_error hchecked
    have hlist : Cluster.answer (.list .deployment ns a.spec.selector) c =
        (.error (.invalidSelector text), c) := by
      rw [Cluster.answer_list, Cluster.list, hchecked]
      rfl
    refine ⟨text, ?_⟩
    rw [workloadsStep, hselective, ownNamespace_eq_ok_iff.2 hns]
    exact run_ask_of_error hlist

/-! ## Adaptive replicas -/

/-- Adaptive replicas follow just the targets, the proxy's own Deployment apart. -/
theorem chooseReplicas_targets (hc : c.WellKept) (hadaptive : a.spec.adaptiveScale = true)
    (hns : a.metadata.ns = some ns) (hvalid : ∃ t, a.spec.selector.checked = .ok t) :
    ∃ followed : List Deployment,
      followed.Pairwise (fun d x => Kind.deployment.key d ≠ Kind.deployment.key x) ∧
      (∀ d, d ∈ followed ↔
        c.Targets ns a.spec.selector d ∧ d.nameAny ≠ a.ownDeploymentName) ∧
      a.chooseReplicas.Yields Cluster.answer c
        (a.replicasFor (followed.map fun d => d.replicas?.getD 1)) c := by
  cases hselective : a.spec.selector.isEmpty with
  | true =>
    refine ⟨[], .nil, fun d => ⟨nofun, fun ⟨htarget, _⟩ => ?_⟩, chooseReplicas_yields.2 ⟨rfl, ?_⟩⟩
    · have hselective' := htarget.selective
      rw [hselective] at hselective'
      cases hselective'
    · rw [followsWorkloads, hselective, Bool.not_true, Bool.and_false]
      rfl
  | false =>
    obtain ⟨t, ht⟩ := hvalid
    obtain ⟨workloads, hlist⟩ := c.list_of_checked .deployment ns ht
    have hlisted : Cluster.answer (.list .deployment ns a.spec.selector) c = (.ok workloads, c) :=
      congrArg (·, c) hlist
    have hfollows : a.followsWorkloads = true := by simp [followsWorkloads, hadaptive, hselective]
    refine ⟨a.others workloads, (hc.list_distinct hlist).filter _, fun d => ?_, ?_⟩
    · rw [others, List.mem_filter, Cluster.mem_list_iff_targets hlist hselective, decide_eq_true_eq]
    · rw [← followedReplicas_eq]
      exact chooseReplicas_of_listing hfollows hns hlisted

/-! ## Both -/

/-- **A selector targets what matches it, and nothing if it is empty.** It is valid if and only if
its requirements are well formed, and empty if and only if it contributes no term; it would match
everything then. Whatever calls fail, injection only writes targets, and a step that goes on has
written all those that could take the proxy; undisturbed it goes on. An invalid selector is an error
before anything is written. Adaptive replicas follow the targets, the proxy's own Deployment apart,
and a standalone authenticator with a fixed number of replicas is not affected by its selector. -/
theorem selector_targets_exactly :
    (∀ s : LabelSelector,
      ((∃ t, s.checked = .ok t) ↔ ∀ r ∈ s.requirements, r.WellFormed) ∧
      (s.isEmpty = true ↔ s.checked = .ok ⟨[]⟩) ∧
      (s.isEmpty = true → ∀ labels, s.Matches labels) ∧
      ∀ t labels, s.checked = .ok t → (t.selects labels = true ↔ s.Matches labels)) ∧
    (∀ (c : Cluster) (a : Authenticator) (ns secret map : String) (settings : Settings),
      c.Reachable → a.metadata.ns = some ns →
      let step := a.workloadsStep secret map settings
      (step.Ensures (fun q _ => WritesTargets a settings ns secret map c q)
        (fun r c' => OnlyTargets a ns c c' ∧
          ∀ ready, r = .ok (.proceed ready) → AllTargets a settings ns secret map c c') c) ∧
      ((∃ t, a.spec.selector.checked = .ok t) → c.pendingConflict = none →
        ∃ ready c', step.Yields Cluster.answer c (.proceed ready) c') ∧
      (a.spec.selector.isEmpty = true →
        step.run Cluster.answer c = ⟨.ok (.proceed 0), [.selectorEmpty], c⟩) ∧
      ((∀ t, a.spec.selector.checked ≠ .ok t) → ∃ text,
        step.run Cluster.answer c = ⟨.error (.invalidSelector text), [], c⟩) ∧
      (a.spec.adaptiveScale = true → (∃ t, a.spec.selector.checked = .ok t) →
        ∃ followed : List Deployment,
          followed.Pairwise (fun d x => Kind.deployment.key d ≠ Kind.deployment.key x) ∧
          (∀ d, d ∈ followed ↔
            c.Targets ns a.spec.selector d ∧ d.nameAny ≠ a.ownDeploymentName) ∧
          a.chooseReplicas.Yields Cluster.answer c
            (a.replicasFor (followed.map fun d => d.replicas?.getD 1)) c)) ∧
    ∀ (c : Cluster) (key : ObjectName) (a : Authenticator) (settings : Settings)
      (fresh : Credentials) (s : LabelSelector), c.Reachable →
      c.get? .authenticator key = some a → a.spec.mode = .standalone →
      a.spec.adaptiveScale = false →
      let before := (pass settings key.ns key.name fresh).run Cluster.answer c
      (pass settings key.ns key.name fresh).run Cluster.answer (c.reselect key s) =
        { before with store := before.store.reselect key s } := by
  refine ⟨fun s => ?_, ?_, ?_⟩
  · exact ⟨LabelSelector.exists_checked_iff, LabelSelector.isEmpty_iff_checked,
      LabelSelector.matches_of_isEmpty, fun t labels => LabelSelector.selects_iff⟩
  · intro c a ns secret map settings hreachable hns step
    have hc := hreachable.wellKept
    exact ⟨workloadsStep_targets hc hns,
      fun hvalid calm => workloadsStep_of_checked hc calm hns hvalid secret map settings,
      workloadsStep_of_isEmpty Cluster.answer c, workloadsStep_of_invalid hns,
      fun hadaptive => chooseReplicas_targets hc hadaptive hns⟩
  · intro c key a settings fresh s hreachable hget alone hfixed before
    exact pass_reselect hreachable.wellKept hget alone hfixed

/-- The workloads of one label, one of them the proxy's own Deployment. -/
def twoOfALabel : Cluster :=
  let labelled (name : String) (replicas : Int32) : Deployment := {
    metadata := {
      name := some name, ns := some "apps", labels := some (.ofList [("app", "web")]) }
    spec := some { replicas := some replicas } }
  .ofChanges [.place .deployment (labelled "gate-nginx" 5), .place .deployment (labelled "web" 2)]

/-- Injection reaches both, and scaling follows the one that is not the proxy's own. An operator
that is not known is an error where workloads are injected, and makes no difference to a standalone
authenticator. A selector that says nothing selects nothing. -/
theorem selector_targets_exactly_of_two :
    let unknown : LabelSelector := {
      matchExpressions := some [{ key := "app", operator := "Like" }] }
    let inject (s : LabelSelector) := (follower.withSelector s).workloadsStep "users" "conf" {}
    let gatePass (c : Cluster) := (pass {} "apps" "gate" ⟨"user", "word"⟩).run Cluster.answer c
    (∃ ready c', (inject follower.spec.selector).Yields Cluster.answer twoOfALabel
        (.proceed ready) c' ∧ AllTargets follower {} "apps" "users" "conf" twoOfALabel c') ∧
      (∃ followed : List Deployment,
        (∀ d, d ∈ followed ↔
          twoOfALabel.Targets "apps" follower.spec.selector d ∧ d.nameAny ≠ "gate-nginx") ∧
        follower.chooseReplicas.Yields Cluster.answer twoOfALabel
          (follower.replicasFor (followed.map fun d => d.replicas?.getD 1)) twoOfALabel) ∧
      (∃ text, (inject unknown).run Cluster.answer twoOfALabel =
        ⟨.error (.invalidSelector text), [], twoOfALabel⟩) ∧
      (inject {}).run Cluster.answer twoOfALabel =
        ⟨.ok (.proceed 0), [.selectorEmpty], twoOfALabel⟩ ∧
      (gatePass (gateAndDoor.reselect ⟨"apps", "gate"⟩ unknown)).result =
        (gatePass gateAndDoor).result := by
  intro unknown inject gatePass
  obtain ⟨-, injected, unaffected⟩ := selector_targets_exactly
  have hstep := fun s => injected twoOfALabel (follower.withSelector s) "apps" "users" "conf" {}
    (Cluster.reachable_ofChanges _) rfl
  obtain ⟨-, hgoes, -, -, hfollows⟩ := hstep follower.spec.selector
  obtain ⟨ready, c', hyields⟩ := hgoes ⟨_, rfl⟩ (by decide)
  obtain ⟨followed, -, hmem, hchosen⟩ := hfollows rfl ⟨_, rfl⟩
  have hends := Ensures.yields (hstep follower.spec.selector).1 hyields
  refine ⟨⟨ready, c', hyields, hends.2 ready rfl⟩, ⟨followed, hmem, hchosen⟩,
    (hstep unknown).2.2.2.1 nofun, (hstep {}).2.2.1 rfl, ?_⟩
  have hgate : gateAndDoor.get? .authenticator ⟨"apps", "gate"⟩ = some { gate with metadata := {
      name := some "gate", ns := some "apps", uid := some "uid-1",
      resourceVersion := some "1" } } := by decide +kernel
  have hsame := unaffected gateAndDoor ⟨"apps", "gate"⟩ _ {} ⟨"user", "word"⟩ unknown
    (Cluster.reachable_ofChanges _) hgate rfl rfl
  exact congrArg (·.result) hsame

/-- Not all targets are followed: the proxy's own Deployment is none that it follows, although its
labels match. -/
theorem own_deployment_not_followed :
    ¬ ∀ (c : Cluster) (a : Authenticator) (ns : String), c.Reachable → a.metadata.ns = some ns →
      a.spec.adaptiveScale = true → (∃ t, a.spec.selector.checked = .ok t) →
      ∃ followed : List Deployment,
        followed.Pairwise (fun d x => Kind.deployment.key d ≠ Kind.deployment.key x) ∧
        (∀ d, d ∈ followed ↔ c.Targets ns a.spec.selector d) ∧
        a.chooseReplicas.Yields Cluster.answer c
          (a.replicasFor (followed.map fun d => d.replicas?.getD 1)) c := by
  intro h
  have hreachable : twoOfALabel.Reachable := Cluster.reachable_ofChanges _
  obtain ⟨followed, hdistinct, hmem, hyields, -⟩ := h twoOfALabel follower "apps" hreachable rfl rfl
    ⟨_, rfl⟩
  -- Both are listed, so all that is followed adds up to seven. But two are chosen.
  have hchecked : follower.spec.selector.checked = .ok ⟨[.equals "app" "web"]⟩ := rfl
  obtain ⟨workloads, hlist⟩ := twoOfALabel.list_of_checked .deployment "apps" hchecked
  have hcounts : (twoOfALabel.list .deployment "apps" follower.spec.selector).toOption.map
      (List.map fun d : Deployment => d.replicas?.getD 1) = some [5, 2] := by decide +kernel
  rw [hlist] at hcounts
  replace hcounts : workloads.map (fun d => d.replicas?.getD 1) = [5, 2] := Option.some.inj hcounts
  have nodup : ∀ {ds : List Deployment},
      ds.Pairwise (fun d x => Kind.deployment.key d ≠ Kind.deployment.key x) → ds.Nodup :=
    fun hds => hds.imp fun hne hsame => hne (by rw [hsame])
  have hperm : followed.Perm workloads := by
    rw [List.perm_ext_iff_of_nodup (nodup hdistinct)
      (nodup (hreachable.wellKept.list_distinct hlist))]
    intro d
    rw [hmem, Cluster.mem_list_iff_targets hlist (by decide)]
  have hfollowed : (followed.map fun d => d.replicas?.getD 1).Perm [5, 2] := hcounts ▸ hperm.map _
  have hserved : ∀ n ∈ [(5 : Int32), 2], 0 ≤ n.toInt :=
    List.forall_mem_cons.2 ⟨by decide, List.forall_mem_singleton.2 (by decide)⟩
  have hsome : (followed.map fun d => d.replicas?.getD 1) ≠ [] :=
    fun hnone => List.cons_ne_nil 5 [2] (List.nil_perm.1 (hnone ▸ hfollowed))
  have hseven := toInt_replicasFor (a := follower) fun n hn => hserved n (hfollowed.subset hn)
  rw [Replicas.exactSum_perm hfollowed, if_pos ⟨hsome, by decide⟩] at hseven
  have hchosen : (follower.chooseReplicas.run Cluster.answer twoOfALabel).result.toOption =
      some 2 := by decide +kernel
  rw [hyields] at hchosen
  rw [Option.some.inj hchosen] at hseven
  exact absurd hseven (by decide)

end Authenticator

end AuthProxy
