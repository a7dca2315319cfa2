import AuthProxy.Cluster.Bench
import AuthProxy.Proofs.Pass.Proxies
import AuthProxy.Proofs.Program.Recorded
import Mathlib.Data.List.Nodup

/-! # Workloads that are tried one after the other

The workload step writes many workloads, and any of the writes may fail. One that was lost to
another writer keeps none of the others from being tried; any other failure ends the step (`Tried`).
Nothing is assumed of the store for this. If it stands in front of a cluster (`Store.Relays`), then
the workloads whose update took place carry the proxy, and nothing else has changed
(`PartlyInjected`). So the next listing has the others left.
-/

namespace AuthProxy

/-- A workload that was tried, and how its update ended. -/
structure Try where
  workload : Deployment
  result : Except Error Deployment

namespace Try

/-- The call that was made for it. -/
def record (t : Try) : CallRecord := ⟨.update .deployment t.workload, t.result⟩

/-- Whether the workload was lost to another writer. -/
def isLost (t : Try) : Bool :=
  match t.result with
  | .ok _ => false
  | .error e => e.isLostRace

/-- What went wrong, unless the workload was written or lost to another writer. -/
def failure? (t : Try) : Option Error :=
  match t.result with
  | .ok _ => none
  | .error e => if e.isLostRace then none else some e

/-- The workloads whose update took place. -/
def written (tries : List Try) : List Deployment :=
  (tries.filter (·.result.isOk)).map (·.workload)

theorem written_cons_of_ok {t : Try} {rest : List Try} (h : t.result.isOk = true) :
    written (t :: rest) = t.workload :: written rest := by
  simp [written, h]

theorem written_cons_of_not_ok {t : Try} {rest : List Try} (h : t.result.isOk = false) :
    written (t :: rest) = written rest := by
  simp [written, h]

theorem not_ok_of_failure {t : Try} {e : Error} (h : t.failure? = some e) :
    t.result.isOk = false := by
  unfold failure? at h
  cases hr : t.result with
  | ok stored => rw [hr] at h; cases h
  | error e' => rfl

end Try

/-- How the workloads `changed` were tried. The tries end with `ends`, applied to whether one of
them was lost, or with a failure. -/
structure Tried {α : Type} (changed : List Deployment) (tries : List Try) (ends : Bool → α)
    (result : Except Error α) : Prop where
  /-- Workloads are tried once each and in order. -/
  in_order : tries.map (·.workload) <+: changed
  /-- Lost ones do not keep the others from being tried. -/
  all : (∀ t ∈ tries, t.failure? = none) →
    tries.map (·.workload) = changed ∧ result = .ok (ends (tries.any (·.isLost)))
  /-- The first one that failed is the last one. -/
  last : ∀ earlier t later e, tries = earlier ++ t :: later → t.failure? = some e →
    later = [] ∧ result = .error e

namespace Tried

variable {α β : Type} {changed rest : List Deployment} {tries : List Try} {t : Try}
  {ends : Bool → α} {result : Except Error α}

theorem nil : Tried [] [] ends (.ok (ends false)) where
  in_order := List.prefix_rfl
  all _ := ⟨rfl, rfl⟩
  last earlier t later e heq := by simp at heq

theorem cons (ht : t.failure? = none)
    (h : Tried rest tries (fun lost => ends (t.isLost || lost)) result) :
    Tried (t.workload :: rest) (t :: tries) ends result where
  in_order := List.cons_prefix_cons.2 ⟨rfl, h.in_order⟩
  all hnone := by
    obtain ⟨hall, hresult⟩ := h.all fun x hx => hnone x (List.mem_cons_of_mem t hx)
    exact ⟨congrArg (t.workload :: ·) hall, hresult⟩
  last earlier x later e heq he := by
    cases earlier with
    | nil =>
      obtain ⟨rfl, -⟩ := List.cons.inj heq
      rw [ht] at he
      cases he
    | cons y earlier => exact h.last earlier x later e (List.cons.inj heq).2 he

theorem failed {e : Error} (ht : t.failure? = some e) :
    Tried (t.workload :: rest) [t] ends (.error e) where
  in_order := List.cons_prefix_cons.2 ⟨rfl, List.nil_prefix⟩
  all hnone := by
    have := hnone t (List.mem_singleton_self t)
    rw [ht] at this
    cases this
  last earlier x later e' heq he := by
    obtain ⟨rfl, hrest⟩ | ⟨y, rfl, hrest⟩ := List.cons_eq_append_iff.1 heq
    · obtain ⟨rfl, rfl⟩ := List.cons.inj hrest
      exact ⟨rfl, by rw [Option.some.inj (ht.symm.trans he)]⟩
    · simp at hrest

/-- What follows the tries only turns their end into another. -/
theorem map (h : Tried changed tries ends result) (f : α → β) :
    Tried changed tries (fun lost => f (ends lost)) (result.map f) where
  in_order := h.in_order
  all hnone := ⟨(h.all hnone).1, congrArg (Except.map f) (h.all hnone).2⟩
  last earlier t later e heq he := by
    obtain ⟨hlater, hresult⟩ := h.last earlier t later e heq he
    exact ⟨hlater, congrArg (Except.map f) hresult⟩

end Tried

/-- The store passes calls on to a cluster; each of them may fail before it gets there. -/
def Store.Relays {σ : Type} (store : Store σ) (cluster : σ → Cluster) : Prop :=
  ∀ q s, ∃ failure, deliver failure q (cluster s) = ((store q s).1, cluster (store q s).2)

theorem Bench.relays_answer : Store.Relays Bench.answer Bench.cluster := by
  intro q b
  refine ⟨(Fault.take q.operation q.kind b.faults).1, ?_⟩
  rcases h : Fault.take q.operation q.kind b.faults with ⟨failure | failure, faults⟩ <;>
    simp [answer, Bench.attempt, h, deliver]

namespace Authenticator

open Program

variable {σ : Type} {store : Store σ} {cluster : σ → Cluster} {s t : σ} {a : Authenticator}
  {secret map ns : String} {settings : Settings} {c c' : Cluster} {lost : Bool}
  {workloads changed : List Deployment}

/-! ## On any store -/

/-- The workload as it is tried on the store. -/
def tryOn (store : Store σ) (d : Deployment) (s : σ) : Try :=
  ⟨d, (store (.update .deployment d) s).1⟩

/-- The workloads that are tried, one after the other. -/
def tries (store : Store σ) : List Deployment → σ → List Try
  | [], _ => []
  | d :: rest, s =>
    tryOn store d s ::
      if (tryOn store d s).failure?.isSome then []
      else tries store rest (store (.update .deployment d) s).2

theorem writeWorkloads_cons (ns : String) (lost : Bool) (d : Deployment)
    (rest : List Deployment) :
    writeWorkloads ns lost (d :: rest) = .call (.update .deployment d) fun
      | .ok _ => .note (.proxyInjected ⟨ns, d.nameAny⟩) (writeWorkloads ns lost rest)
      | .error e =>
        if e.isLostRace then .note (.writeLost e) (writeWorkloads ns true rest) else .fail e := by
  show Program.call _ _ = _
  congr 1
  funext r
  cases r with
  | ok stored => rfl
  | error e => cases he : e.isLostRace <;> simp [Program.bind, he]

/-- After a workload that was written or lost come the others. -/
theorem writeWorkloads_next {d : Deployment} {rest : List Deployment}
    (h : (tryOn store d s).failure? = none) :
    let next := writeWorkloads ns (lost || (tryOn store d s).isLost) rest
    let after := (store (.update .deployment d) s).2
    (writeWorkloads ns lost (d :: rest)).calls store s =
        (tryOn store d s).record :: next.calls store after ∧
      ((writeWorkloads ns lost (d :: rest)).run store s).result = (next.run store after).result ∧
      ((writeWorkloads ns lost (d :: rest)).run store s).store = (next.run store after).store := by
  rw [writeWorkloads_cons]
  simp only [tryOn, Try.failure?, Try.isLost, Try.record, Program.calls, Program.run] at h ⊢
  generalize store (.update .deployment d) s = answered at h ⊢
  obtain ⟨e | stored, t⟩ := answered
  · cases he : e.isLostRace with
    | true => simp [he, Program.calls, Program.run]
    | false => simp [he] at h
  · simp [Program.calls, Program.run]

/-- After any other failure comes nothing. -/
theorem writeWorkloads_failed {d : Deployment} {rest : List Deployment} {e : Error}
    (h : (tryOn store d s).failure? = some e) :
    (writeWorkloads ns lost (d :: rest)).calls store s = [(tryOn store d s).record] ∧
      ((writeWorkloads ns lost (d :: rest)).run store s).result = .error e ∧
      ((writeWorkloads ns lost (d :: rest)).run store s).store =
        (store (.update .deployment d) s).2 := by
  rw [writeWorkloads_cons]
  simp only [tryOn, Try.failure?, Try.record, Program.calls, Program.run] at h ⊢
  generalize store (.update .deployment d) s = answered at h ⊢
  obtain ⟨e' | stored, t⟩ := answered
  · cases he : e'.isLostRace with
    | true => simp [he] at h
    | false =>
      simp only [he, Bool.false_eq_true, if_false, Option.some.injEq] at h
      subst h
      simp [he, Program.calls, Program.run]
  · cases h

theorem calls_writeWorkloads : (writeWorkloads ns lost changed).calls store s =
    (tries store changed s).map (·.record) := by
  induction changed generalizing lost s with
  | nil => rfl
  | cons d rest ih =>
    cases h : (tryOn store d s).failure? with
    | none => simp [tries, h, (writeWorkloads_next h).1, ih]
    | some e => simp [tries, h, (writeWorkloads_failed h).1]

/-- The workloads are tried as they should be, whatever the store answers. By induction on them:
what is left is tried unless the first one failed. -/
theorem writeWorkloads_tried (store : Store σ) (ns : String) (lost : Bool)
    (changed : List Deployment) (s : σ) : Tried changed (tries store changed s) (lost || ·)
      ((writeWorkloads ns lost changed).run store s).result := by
  induction changed generalizing lost s with
  | nil =>
    have hnil : ((writeWorkloads ns lost []).run store s).result = .ok (lost || false) := by
      rw [Bool.or_false]
      rfl
    rw [hnil]
    exact .nil
  | cons d rest ih =>
    rw [tries]
    cases h : (tryOn store d s).failure? with
    | none =>
      rw [(writeWorkloads_next h).2.1]
      have hrest := ih (lost || (tryOn store d s).isLost) (store (.update .deployment d) s).2
      simp only [Bool.or_assoc] at hrest
      exact .cons h hrest
    | some e =>
      rw [(writeWorkloads_failed h).2.1]
      exact .failed h

/-- The workload step on a store with a listing tries the workloads that lack a proxy. -/
theorem workloadsStep_of_listing (secret map : String) (settings : Settings)
    (hns : a.metadata.ns = some ns) (hselector : a.spec.selector.isEmpty = false)
    (hlist : store (.list .deployment ns a.spec.selector) s = (.ok workloads, t)) :
    let changed := a.addProxies secret map settings workloads
    let write := writeWorkloads ns false changed
    (a.workloadsStep secret map settings).calls store s =
        ⟨.list .deployment ns a.spec.selector, .ok workloads⟩ :: write.calls store t ∧
      ((a.workloadsStep secret map settings).run store s).result =
        (write.run store t).result.map (fun lost =>
          if lost then .requeue .conflict else .proceed (a.proxiedReady workloads changed)) ∧
      ((a.workloadsStep secret map settings).run store s).store = (write.run store t).store := by
  intro changed write
  have hstep : a.workloadsStep secret map settings =
      ask (.list .deployment ns a.spec.selector) >>= fun workloads => do
        tellAll (a.foreignNotices workloads)
        let changed := a.addProxies secret map settings workloads
        if ← writeWorkloads ns false changed then return .requeue .conflict
        else return .proceed (a.proxiedReady workloads changed) := by
    simp only [workloadsStep, hselector, Bool.false_eq_true, if_false,
      ownNamespace_eq_ok_iff.2 hns]
    rfl
  rw [hstep, calls_ask_of_ok hlist, run_ask_of_ok hlist]
  simp only [calls_bind, run_bind, calls_tellAll, run_tellAll, List.nil_append]
  rw [show writeWorkloads ns false (a.addProxies secret map settings workloads) = write from rfl]
  cases (write.run store t).result with
  | error e => exact ⟨by rw [List.append_nil], rfl, rfl⟩
  | ok lost => cases lost <;> exact ⟨congrArg _ (List.append_nil _), rfl, rfl⟩

/-! ## In front of a cluster -/

theorem Rewritten.congr {d : Cluster} (h : Rewritten changed c c')
    (htables : d.tables = c.tables) (hconflict : d.pendingConflict = c.pendingConflict) :
    Rewritten changed d c' where
  others j hj := htables ▸ h.others j hj
  conflict := hconflict ▸ h.conflict
  kept key hne := by rw [h.kept key hne, Cluster.get?, Cluster.get?, htables]
  written x hx := by
    obtain ⟨found, v, hfound, hnow⟩ := h.written x hx
    exact ⟨found, v, by rw [← hfound, Cluster.get?, Cluster.get?, htables], hnow⟩

theorem written_tries_subset : Try.written (tries store changed s) ⊆ changed :=
  List.Subset.trans (List.map_subset _ (List.filter_subset_self _))
    (writeWorkloads_tried store "" false changed s).in_order.subset

/-- A workload that was written is stored. -/
theorem Rewritten.written_cons {d : Deployment} {rest : List Deployment}
    (hstore : store.Relays cluster) (hdone : (tryOn store d s).result.isOk = true)
    (hne : ∀ x ∈ rest, Kind.deployment.key d ≠ Kind.deployment.key x)
    (h : Rewritten rest
      ((cluster (store (.update .deployment d) s).2).expectConflict c.pendingConflict) c) :
    Rewritten (d :: rest) ((cluster s).expectConflict c.pendingConflict) c := by
  obtain ⟨failure, hdelivered⟩ := hstore (.update .deployment d) s
  rw [tryOn] at hdone
  rcases hr : store (.update .deployment d) s with ⟨e | stored, after⟩
  · rw [hr] at hdone
    cases hdone
  · rw [hr] at hdelivered h
    obtain ⟨found, v, hfound, -, -, written, hstored⟩ :=
      Cluster.update_eq_ok (deliver_update hdelivered)
    have written' : Cluster.Written ((cluster s).expectConflict c.pendingConflict)
        ((cluster after).expectConflict c.pendingConflict) .deployment stored :=
      ⟨written.versions, written.version, written.table, written.otherTables, rfl⟩
    exact .cons written' hfound hstored hne h

/-- A workload that was not written is as it was. -/
theorem Rewritten.not_written {d : Deployment} (hstore : store.Relays cluster)
    (hfailed : (tryOn store d s).result.isOk = false)
    (h : Rewritten changed
      ((cluster (store (.update .deployment d) s).2).expectConflict c.pendingConflict) c) :
    Rewritten changed ((cluster s).expectConflict c.pendingConflict) c := by
  obtain ⟨failure, hdelivered⟩ := hstore (.update .deployment d) s
  rw [tryOn] at hfailed
  rcases hr : store (.update .deployment d) s with ⟨e | stored, after⟩
  · rw [hr] at hdelivered h
    exact h.congr (deliver_eq_error hdelivered).tables.symm rfl
  · rw [hr] at hfailed
    cases hfailed

/-- What became of the cluster: the workloads whose update took place were written. A conflict that
was asked for may be over. By induction on the workloads. -/
theorem writeWorkloads_rewritten (hstore : store.Relays cluster)
    (hdistinct : changed.Pairwise fun d x => Kind.deployment.key d ≠ Kind.deployment.key x)
    (hend : ((writeWorkloads ns lost changed).run store s).store = t) :
    Rewritten (Try.written (tries store changed s))
      ((cluster s).expectConflict (cluster t).pendingConflict) (cluster t) := by
  induction changed generalizing lost s with
  | nil =>
    obtain rfl : s = t := hend
    exact ⟨Cluster.onlyChanges_refl _ _, rfl, fun _ _ => rfl, fun d hd => by cases hd⟩
  | cons d rest ih =>
    obtain ⟨hne, hrest⟩ := List.pairwise_cons.1 hdistinct
    rw [tries]
    cases hfailed : (tryOn store d s).failure? with
    | some e =>
      have hnot := Try.not_ok_of_failure hfailed
      obtain rfl := (writeWorkloads_failed hfailed).2.2.symm.trans hend
      rw [Try.written_cons_of_not_ok hnot]
      refine .not_written hstore hnot ?_
      exact ⟨Cluster.onlyChanges_refl _ _, rfl, fun _ _ => rfl, fun d hd => by cases hd⟩
    | none =>
      replace ih := ih hrest ((writeWorkloads_next hfailed).2.2.symm.trans hend)
      simp only [Option.isSome_none, Bool.false_eq_true, if_false]
      cases hdone : (tryOn store d s).result.isOk with
      | true =>
        rw [Try.written_cons_of_ok hdone]
        exact .written_cons hstore hdone (fun x hx => hne x (written_tries_subset hx)) ih
      | false =>
        rw [Try.written_cons_of_not_ok hdone]
        exact .not_written hstore hdone ih

/-- The update of a workload that is stored takes place or is lost. -/
theorem failure?_tryOn_answer {d : Deployment} {stored : Deployment}
    (h : c.get? .deployment (Kind.deployment.key d) = some stored) :
    (tryOn Cluster.answer d c).failure? = none := by
  rw [tryOn, Cluster.answer_update]
  by_cases hs : c.pendingConflict = some .deployment ∨ Cluster.isStale .deployment d stored = true
  · rw [Cluster.update_of_stale h hs]
    rfl
  · simp only [not_or, Bool.not_eq_true] at hs
    obtain ⟨_, _, _, hupdate, -⟩ := Cluster.update_of_current h hs.1 hs.2
    rw [hupdate]
    rfl

/-- Where all workloads are stored, none of them fails. -/
theorem failure?_of_mem_tries_answer
    (h : ∀ d ∈ changed, (c.get? .deployment (Kind.deployment.key d)).isSome = true) :
    ∀ t ∈ tries Cluster.answer changed c, t.failure? = none := by
  induction changed generalizing c with
  | nil => exact fun t ht => by cases ht
  | cons d rest ih =>
    obtain ⟨stored, hd⟩ := Option.isSome_iff_exists.1 (h d List.mem_cons_self)
    have hnone := failure?_tryOn_answer hd
    rw [tries, hnone]
    exact List.forall_mem_cons.2 ⟨hnone, ih fun x hx =>
      c.isSome_get?_update (k := .deployment) d (h x (List.mem_cons_of_mem d hx))⟩

/-- What became of a cluster in which, of the workloads `changed`, those in `written` were
written. -/
structure PartlyInjected (changed written : List Deployment) (c c' : Cluster) : Prop where
  /-- Just those carry the proxy now, -/
  carries_iff : ∀ d ∈ changed,
    (c'.get? .deployment (Kind.deployment.key d)).any (·.carriesProxy) = true ↔ d ∈ written
  /-- and each of them is all that it was to be. -/
  stored : ∀ d ∈ written, ∃ v, c'.get? .deployment (Kind.deployment.key d) =
    some (Kind.deployment.withVersion d.withDefaults v)
  /-- Nothing else has changed. -/
  kept : ∀ k key, (k = .deployment → ∀ d ∈ written, Kind.deployment.key d ≠ key) →
    c'.get? k key = c.get? k key

section Injected

variable {written : List Deployment} {d : Deployment}

theorem stored_of_rewritten (hc : c.WellKept)
    (hlist : c.list .deployment ns a.spec.selector = .ok workloads)
    (hwritten : written ⊆ a.addProxies secret map settings workloads)
    (h : Rewritten written (c.expectConflict c'.pendingConflict) c') (hd : d ∈ written) :
    ∃ v, c'.get? .deployment (Kind.deployment.key d) =
      some (Kind.deployment.withVersion d.withDefaults v) := by
  obtain ⟨o, ho, -, hadded⟩ := get?_of_mem_addProxies hc hlist (hwritten hd)
  obtain ⟨found, v, hfound, hnow⟩ := h.written d hd
  obtain rfl : found = o := Option.some.inj (hfound.symm.trans ho)
  refine ⟨v, hnow.trans ?_⟩
  rw [← (addProxyTo?_eq_some hadded).2]

/-- A workload whose update did not take place is as it was listed, because no two of them have the
same name. -/
theorem get?_of_not_written (hc : c.WellKept)
    (hlist : c.list .deployment ns a.spec.selector = .ok workloads)
    (hwritten : written ⊆ a.addProxies secret map settings workloads)
    (h : Rewritten written (c.expectConflict c'.pendingConflict) c')
    (hd : d ∈ a.addProxies secret map settings workloads) (hnot : d ∉ written) :
    c'.get? .deployment (Kind.deployment.key d) = c.get? .deployment (Kind.deployment.key d) := by
  have hdistinct : ((a.addProxies secret map settings workloads).map Kind.deployment.key).Nodup :=
    List.pairwise_map.2 (addProxies_distinct (hc.list_distinct hlist))
  refine h.kept _ fun x hx hkey => hnot ?_
  rwa [← List.inj_on_of_nodup_map hdistinct (hwritten hx) hd hkey]

theorem partlyInjected_of_rewritten (hc : c.WellKept)
    (hlist : c.list .deployment ns a.spec.selector = .ok workloads)
    (hwritten : written ⊆ a.addProxies secret map settings workloads)
    (h : Rewritten written (c.expectConflict c'.pendingConflict) c') :
    PartlyInjected (a.addProxies secret map settings workloads) written c c' where
  carries_iff d hd := by
    obtain ⟨o, ho, hlacks, hadded⟩ := get?_of_mem_addProxies hc hlist hd
    by_cases hdone : d ∈ written
    · obtain ⟨v, hnow⟩ := stored_of_rewritten hc hlist hwritten h hdone
      refine iff_of_true ?_ hdone
      rw [hnow]
      exact d.carriesProxy_withDefaults.trans (carriesProxy_addProxyTo? hadded)
    · refine iff_of_false ?_ hdone
      rw [get?_of_not_written hc hlist hwritten h hd hdone, ho]
      simp [hlacks]
  stored d hd := stored_of_rewritten hc hlist hwritten h hd
  kept k key hne := by
    by_cases hk : k = .deployment
    · subst hk
      exact h.kept key (hne rfl)
    · exact Cluster.get?_congr (h.others k hk) key

/-- The next step tries just the workloads that were not written. -/
theorem workloadsStep_again (hc : c.WellKept)
    (hns : a.metadata.ns = some ns) (hselector : a.spec.selector.isEmpty = false)
    (hlist : c.list .deployment ns a.spec.selector = .ok workloads)
    (hwritten : written ⊆ a.addProxies secret map settings workloads)
    (h : Rewritten written c c') :
    ∃ (listed : List Deployment) (later : List Try),
      (a.workloadsStep secret map settings).calls Cluster.answer c' =
        ⟨.list .deployment ns a.spec.selector, .ok listed⟩ :: later.map (·.record) ∧
      later.map (·.workload) =
        (a.addProxies secret map settings workloads).filter (· ∉ written) := by
  have hlisted := list_of_rewritten hc hlist hwritten h
  have hleft := addProxies_of_rewritten hc hlist hwritten h
  have hanswered : Cluster.answer (.list .deployment ns a.spec.selector) c' = (.ok _, c') :=
    congrArg (·, c') hlisted
  obtain ⟨hcalls, -, -⟩ := workloadsStep_of_listing secret map settings hns hselector hanswered
  rw [hleft, calls_writeWorkloads] at hcalls
  refine ⟨_, _, hcalls, ((writeWorkloads_tried _ ns false _ _).all ?_).1⟩
  apply failure?_of_mem_tries_answer
  intro d hd
  obtain ⟨o, ho, -, -⟩ := get?_of_mem_addProxies hc hlist (List.mem_filter.1 hd).1
  rw [h.isSome_get?, ho]
  rfl

end Injected

/-- **Injection goes on where it failed.** Once the workloads are listed, those that lack a proxy
are tried in order; lost ones keep no other from being tried, and any other failure is the end. In
front of a cluster just those that were written carry the proxy then, all else is as it was, and the
next step tries just those that are left. -/
theorem injection_resumes (secret map : String) (settings : Settings)
    (hns : a.metadata.ns = some ns) (hselector : a.spec.selector.isEmpty = false)
    (hlist : store (.list .deployment ns a.spec.selector) s = (.ok workloads, t)) :
    let step := a.workloadsStep secret map settings
    let changed := a.addProxies secret map settings workloads
    ∃ tries : List Try,
      step.calls store s =
        ⟨.list .deployment ns a.spec.selector, .ok workloads⟩ :: tries.map (·.record) ∧
      Tried changed tries
        (fun lost => if lost then .requeue .conflict
          else .proceed (a.proxiedReady workloads changed)) (step.run store s).result ∧
      ∀ cluster, store.Relays cluster → (cluster s).Reachable →
        let c := cluster (step.run store s).store
        PartlyInjected changed (Try.written tries) (cluster s) c ∧
          ∃ (listed : List Deployment) (later : List Try),
            step.calls Cluster.answer c =
              ⟨.list .deployment ns a.spec.selector, .ok listed⟩ :: later.map (·.record) ∧
            later.map (·.workload) = changed.filter (· ∉ Try.written tries) := by
  intro step changed
  obtain ⟨hcalls, hresult, hend⟩ :=
    workloadsStep_of_listing secret map settings hns hselector hlist
  refine ⟨tries store changed t, ?_, ?_, ?_⟩
  · rw [hcalls, calls_writeWorkloads]
  · rw [hresult]
    have htried := writeWorkloads_tried store ns false changed t
    simp only [Bool.false_or] at htried
    exact htried.map _
  · intro cluster hrelays hreachable c
    have hc := hreachable.wellKept
    obtain ⟨failure, hdelivered⟩ := hrelays (.list .deployment ns a.spec.selector) s
    rw [hlist] at hdelivered
    obtain ⟨hlisted, hsame⟩ := deliver_list_eq_ok hdelivered
    have hdistinct : changed.Pairwise fun d x => Kind.deployment.key d ≠ Kind.deployment.key x :=
      addProxies_distinct (hc.list_distinct hlisted)
    have hrewritten := writeWorkloads_rewritten hrelays hdistinct hend.symm
    rw [hsame] at hrewritten
    have hinjected := partlyInjected_of_rewritten hc hlisted written_tries_subset hrewritten
    refine ⟨hinjected, ?_⟩
    have hlater : ((cluster s).expectConflict c.pendingConflict).WellKept :=
      hc.move (.still ⟨rfl, rfl⟩)
    exact workloadsStep_again hlater hns hselector hlisted written_tries_subset hrewritten

/-- A sidecar authenticator. -/
def attendant : Authenticator where
  metadata := { name := some "gate", ns := some "apps", uid := some "gate" }
  spec := {
    mode := .sidecar, credentialsSecretRef := "users", appPort := 80
    selector := { matchLabels := some (.ofList [("app", "web")]) } }

/-- Two workloads that lack its proxy. The update of the first one is lost to another writer. -/
def contested : Bench :=
  let selected : Labels := .ofList [("app", "web")]
  let workload (name : String) : Deployment :=
    { metadata := { name := some name, ns := some "apps", labels := some selected }
      spec := some {} }
  { cluster := .ofChanges [
      .place .deployment (workload "shop"), .place .deployment (workload "web")]
    faults := [{
      operation := .update, kind := .deployment
      failure := .error (.conflict "Deployment" "shop") }] }

theorem injection_resumes_at_contested :
    let step := attendant.workloadsStep "users" "gate-nginx-conf" {}
    ∃ (listed : List Deployment) (later : List Try),
      step.calls Cluster.answer (step.run Bench.answer contested).store.cluster =
        ⟨.list .deployment "apps" attendant.spec.selector, .ok listed⟩ :: later.map (·.record) ∧
      later.map (·.workload.nameAny) = ["shop"] := by
  intro step
  let left : Cluster := (step.run Bench.answer contested).store.cluster
  have hleft : ((contested.cluster.list .deployment "apps" attendant.spec.selector).toOption.map
      fun workloads => ((attendant.addProxies "users" "gate-nginx-conf" {} workloads).filter
        fun d => !(left.get? .deployment (Kind.deployment.key d)).any (·.carriesProxy)).map
          (·.nameAny)) = some ["shop"] := by decide +kernel
  rcases hlisted : contested.cluster.list .deployment "apps" attendant.spec.selector with
    e | workloads
  · rw [hlisted] at hleft
    cases hleft
  · have hlist : (Bench.answer (.list .deployment "apps" attendant.spec.selector) contested).1 =
        .ok workloads := hlisted
    obtain ⟨tries, -, -, hcluster⟩ := injection_resumes "users" "gate-nginx-conf" {} rfl rfl
      (Prod.ext hlist rfl)
    obtain ⟨hinjected, listed, later, hcalls, hlater⟩ :=
      hcluster Bench.cluster Bench.relays_answer (Cluster.reachable_ofChanges _)
    refine ⟨listed, later, hcalls, ?_⟩
    rw [hlisted] at hleft
    rw [← Option.some.inj hleft, ← Function.comp_def, ← List.map_map, hlater]
    -- What was not written can be told from what carries no proxy.
    refine congrArg _ (List.filter_congr fun d hd => ?_)
    have hcarries : (left.get? .deployment (Kind.deployment.key d)).any (·.carriesProxy) = true ↔
        d ∈ Try.written tries := hinjected.carries_iff d hd
    by_cases hwritten : d ∈ Try.written tries
    · simp [hwritten, hcarries.2 hwritten]
    · simp [hwritten, mt hcarries.1 hwritten]

end Authenticator

end AuthProxy
