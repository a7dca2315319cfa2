import AuthProxy.Proofs.Pass.Settled
import AuthProxy.Proofs.Replicas
import AuthProxy.Proofs.Selector
import AuthProxy.Proofs.Shapes

/-! # Replicas that follow other workloads

How many replicas an adaptive proxy should have: as many as the listed workloads together, the
proxy's own Deployment apart, or what the authenticator says if there is none of them or they are
too many. Nothing is assumed of the store but the listing, and in a cluster nothing else counts
(`chooseReplicas_yields`). Since the proxy's own Deployment is left out before anything is counted,
the proxy never follows itself; and since the counts are not negative, a sum leaves the range in
every order or in none.
-/

namespace AuthProxy

namespace Authenticator

open Program

variable {a : Authenticator} {workloads workloads' : List Deployment}

/-- The workloads other than the proxy's own Deployment. -/
def others (a : Authenticator) (workloads : List Deployment) : List Deployment :=
  workloads.filter (·.nameAny ≠ a.ownDeploymentName)

/-- The replicas that the workloads other than the proxy's own Deployment ask for together. One that
does not say how many asks for one. -/
def totalFollowed (a : Authenticator) (workloads : List Deployment) : Int :=
  Replicas.exactSum ((a.others workloads).map fun d => d.replicas?.getD 1)

/-- The replicas that an adaptive proxy should have beside the workloads. -/
def adaptedReplicas (a : Authenticator) (workloads : List Deployment) : Int :=
  if a.others workloads ≠ [] ∧ a.totalFollowed workloads ≤ Replicas.greatest then
    a.totalFollowed workloads
  else a.spec.replicas.toInt

/-- Whether the number of replicas follows the selected workloads. -/
def followsWorkloads (a : Authenticator) : Bool :=
  a.spec.adaptiveScale && !a.spec.selector.isEmpty

/-- The replicas that the proxy should have when `followed` are followed. -/
def replicasFor (a : Authenticator) (followed : List Int32) : Int32 :=
  if followed.isEmpty then a.spec.replicas else (Replicas.sum? followed).getD a.spec.replicas

theorem followsWorkloads_eq_true_iff :
    a.followsWorkloads = true ↔ a.spec.adaptiveScale = true ∧ a.spec.selector.Selective := by
  rw [followsWorkloads, Bool.and_eq_true, Bool.not_eq_true', LabelSelector.isEmpty_eq_false_iff]

theorem not_followsWorkloads (a : Authenticator) :
    (!a.spec.adaptiveScale || a.spec.selector.isEmpty) = !a.followsWorkloads := by
  simp [followsWorkloads]

theorem followedReplicas_eq (a : Authenticator) (workloads : List Deployment) :
    a.followedReplicas workloads = (a.others workloads).map fun d => d.replicas?.getD 1 := by
  have hfilter : (workloads.filter fun d => d.nameAny != a.ownDeploymentName) =
      a.others workloads := by
    apply List.filter_congr
    intro d _
    by_cases h : d.nameAny = a.ownDeploymentName <;> simp [h]
  rw [followedReplicas, hfilter]
  rfl

/-- The workloads that are counted decide, in whatever order they come. -/
theorem adaptedReplicas_perm (h : (a.others workloads').Perm (a.others workloads)) :
    a.adaptedReplicas workloads' = a.adaptedReplicas workloads := by
  have hnil : a.others workloads' = [] ↔ a.others workloads = [] := by
    constructor
    · intro hnil
      rw [hnil] at h
      exact List.nil_perm.1 h
    · intro hnil
      rw [hnil] at h
      exact List.perm_nil.1 h
  have htotal : a.totalFollowed workloads' = a.totalFollowed workloads :=
    Replicas.exactSum_perm (h.map _)
  simp only [adaptedReplicas, htotal, ne_eq, hnil]

/-- What is chosen for counts that are not negative. -/
theorem toInt_replicasFor {counts : List Int32} (hcounts : ∀ n ∈ counts, 0 ≤ n.toInt) :
    (a.replicasFor counts).toInt =
      if counts ≠ [] ∧ Replicas.exactSum counts ≤ Replicas.greatest then Replicas.exactSum counts
      else a.spec.replicas.toInt := by
  have hsum := Replicas.map_toInt_sum? hcounts
  unfold replicasFor
  by_cases hnone : counts = []
  · simp [hnone]
  · rw [if_neg (by simpa using hnone)]
    by_cases hle : Replicas.exactSum counts ≤ Replicas.greatest
    · rw [if_pos hle] at hsum
      obtain ⟨n, hn, hnat⟩ := Option.map_eq_some_iff.1 hsum
      rw [hn, if_pos ⟨hnone, hle⟩]
      exact hnat
    · rw [if_neg hle] at hsum
      rw [Option.map_eq_none_iff.1 hsum, if_neg fun h => hle h.2]
      rfl

/-- The choice for a listing of workloads whose counts are not negative. -/
theorem toInt_replicasFor_followed
    (hserved : ∀ d ∈ a.others workloads, ∀ n, d.replicas? = some n → 0 ≤ n.toInt) :
    (a.replicasFor (a.followedReplicas workloads)).toInt = a.adaptedReplicas workloads := by
  rw [followedReplicas_eq, toInt_replicasFor]
  · exact if_congr (and_congr_left' (by simp)) rfl rfl
  · intro n hn
    obtain ⟨d, hd, rfl⟩ := List.mem_map.1 hn
    cases hreplicas : d.replicas? with
    | none => decide
    | some m => exact hserved d hd m hreplicas

section Stored

variable {c c' : Cluster} {n : Int32}

/-- In the cluster the proxy of the authenticator should have `n` replicas: as many as the
authenticator says or, if it is adaptive and selects anything, as many as the listed workloads
require, unless one of them asks for less than none. -/
structure WantsReplicas (a : Authenticator) (c : Cluster) (n : Int32) : Prop where
  fixed : a.spec.adaptiveScale = false ∨ ¬ a.spec.selector.Selective → n = a.spec.replicas
  adapted : a.spec.adaptiveScale = true → a.spec.selector.Selective → ∃ ns workloads,
    a.metadata.ns = some ns ∧ c.list .deployment ns a.spec.selector = .ok workloads ∧
      ((∀ d ∈ workloads, ∀ m, d.replicas? = some m → 0 ≤ m.toInt) →
        n.toInt = a.adaptedReplicas workloads)

/-- The choice of replicas only looks at a listing. -/
theorem chooseReplicas_yields :
    a.chooseReplicas.Yields Cluster.answer c n c' ↔ c' = c ∧
      if a.followsWorkloads then ∃ ns workloads, a.metadata.ns = some ns ∧
        c.list .deployment ns a.spec.selector = .ok workloads ∧
          n = a.replicasFor (a.followedReplicas workloads)
      else n = a.spec.replicas := by
  rw [chooseReplicas, not_followsWorkloads]
  cases a.followsWorkloads with
  | false => simp [and_comm]
  | true =>
    simp only [Bool.not_true, Bool.false_eq_true, if_false, if_true, yields_lift,
      ownNamespace_eq_ok_iff, ← exists_and_left]
    refine exists_congr fun ns => (and_congr_right fun _ => yields_list).trans ?_
    simp only [← exists_and_left]
    apply exists_congr
    intro workloads
    refine (and_congr_right fun _ => and_congr_right fun _ =>
      (?_ : _ ↔ n = a.replicasFor (a.followedReplicas workloads) ∧ c' = c)).trans ?_
    · rw [replicasFor]
      split
      · exact yields_pure
      · cases Replicas.sum? (a.followedReplicas workloads) <;> simp
    · constructor
      · rintro ⟨hns, hlist, hn, hsame⟩
        exact ⟨hsame, hns, hlist, hn⟩
      · rintro ⟨hsame, hns, hlist, hn⟩
        exact ⟨hns, hlist, hn, hsame⟩

/-- What is chosen is what the proxy should have. -/
theorem wantsReplicas_of_yields (h : a.chooseReplicas.Yields Cluster.answer c n c) :
    a.WantsReplicas c n := by
  obtain ⟨-, hn⟩ := chooseReplicas_yields.1 h
  refine ⟨fun hfixed => ?_, fun hadaptive hselective => ?_⟩
  · have hfollows : ¬ a.followsWorkloads = true := by
      rw [followsWorkloads_eq_true_iff]
      intro ⟨hadaptive, hselective⟩
      rcases hfixed with hnot | hnone
      · rw [hadaptive] at hnot
        cases hnot
      · exact hnone hselective
    rwa [if_neg hfollows] at hn
  · rw [if_pos (followsWorkloads_eq_true_iff.2 ⟨hadaptive, hselective⟩)] at hn
    obtain ⟨ns, workloads, hns, hlist, rfl⟩ := hn
    refine ⟨ns, workloads, hns, hlist, fun hserved => toInt_replicasFor_followed ?_⟩
    intro d hd
    exact hserved d (List.mem_filter.1 hd).1

end Stored

section Listed

variable {σ : Type} {store : Store σ} {s t : σ} {ns : String}

/-- On any store an adaptive proxy is given what follows from the listing. -/
theorem chooseReplicas_of_listing (hfollows : a.followsWorkloads = true)
    (hns : a.metadata.ns = some ns)
    (hlist : store (.list .deployment ns a.spec.selector) s = (.ok workloads, t)) :
    a.chooseReplicas.Yields store s (a.replicasFor (a.followedReplicas workloads)) t := by
  rw [chooseReplicas, not_followsWorkloads, hfollows]
  refine (yields_lift _ _).2 ⟨ns, ownNamespace_eq_ok_iff.2 hns, ?_⟩
  refine (yields_ask _ _).2 ⟨workloads, t, hlist, ?_⟩
  rw [replicasFor]
  dsimp only
  split
  · exact yields_pure.2 ⟨rfl, rfl⟩
  · cases Replicas.sum? (a.followedReplicas workloads) <;> simp

/-- **An adaptive proxy has as many replicas as the workloads that it follows.** Whatever store
lists them, the choice is the exact sum of what they ask for, the proxy's own Deployment apart, if
there are any and the sum is in range, and what the authenticator says otherwise. Another listing
with the same others makes the same choice, in whatever order they come, and whether or not the
proxy's own Deployment is among them and with how many replicas. -/
theorem adaptive_replicas_exact (hadaptive : a.spec.adaptiveScale = true)
    (hselector : a.spec.selector.isEmpty = false) (hns : a.metadata.ns = some ns)
    (hlist : store (.list .deployment ns a.spec.selector) s = (.ok workloads, t))
    (hserved : ∀ d ∈ workloads, ∀ n, d.replicas? = some n → 0 ≤ n.toInt) :
    ∃ n, a.chooseReplicas.Yields store s n t ∧ n.toInt = a.adaptedReplicas workloads ∧
      ∀ {τ : Type} (store' : Store τ) (s' t' : τ) (workloads' : List Deployment),
        store' (.list .deployment ns a.spec.selector) s' = (.ok workloads', t') →
        (a.others workloads').Perm (a.others workloads) →
        a.chooseReplicas.Yields store' s' n t' := by
  have hfollows : a.followsWorkloads = true :=
    followsWorkloads_eq_true_iff.2 ⟨hadaptive, LabelSelector.isEmpty_eq_false_iff.1 hselector⟩
  have hcounted : ∀ d ∈ a.others workloads, ∀ n, d.replicas? = some n → 0 ≤ n.toInt :=
    fun d hd => hserved d (List.mem_filter.1 hd).1
  have hchosen := toInt_replicasFor_followed hcounted
  refine ⟨_, chooseReplicas_of_listing hfollows hns hlist, hchosen, ?_⟩
  intro τ store' s' t' workloads' hlist' hperm
  have hchosen' := toInt_replicasFor_followed fun d hd => hcounted d (hperm.subset hd)
  have hsame : a.replicasFor (a.followedReplicas workloads') =
      a.replicasFor (a.followedReplicas workloads) := by
    rw [← Int32.toInt_inj, hchosen', hchosen, adaptedReplicas_perm hperm]
  rw [← hsame]
  exact chooseReplicas_of_listing hfollows hns hlist'

end Listed

/-- A store that lists what it holds, whatever is asked for, and can do nothing else. -/
def shelf : Store (List Deployment)
  | .list .deployment _ _, workloads => (.ok workloads, workloads)
  | _, workloads => (.error (.api .unnamed), workloads)

/-- An authenticator whose replicas follow the workloads of one label. -/
def follower : Authenticator where
  metadata := { name := some "gate", ns := some "apps" }
  spec := {
    appPort := 80, appService := "app", replicas := 9, adaptiveScale := true
    selector := { matchLabels := some (.ofList [("app", "web")]) } }

/-- One workload asks for two replicas and one does not say how many. The five of the proxy's own
Deployment are not counted, and that it is gone makes no difference. -/
theorem adaptive_replicas_exact_on_shelf :
    let named (name : String) (replicas : Option Int32) : Deployment :=
      { metadata := { name := some name }, spec := some { replicas } }
    let before := [named "gate-nginx" (some 5), named "web" (some 2), named "shop" none]
    let after := [named "shop" none, named "web" (some 2)]
    follower.chooseReplicas.Yields shelf before 3 before ∧
      follower.chooseReplicas.Yields shelf after 3 after := by
  intro named before after
  have hserved : ∀ d ∈ before, ∀ n, d.replicas? = some n → 0 ≤ n.toInt := by
    have hall : before.all (·.replicas?.all (0 ≤ ·.toInt)) = true := by decide
    intro d hd
    simpa [Option.all_eq_true] using List.all_eq_true.1 hall d hd
  have hlist : shelf (.list .deployment "apps" follower.spec.selector) before =
      (.ok before, before) := rfl
  obtain ⟨n, hn, htotal, hagain⟩ := adaptive_replicas_exact rfl (by decide) rfl hlist hserved
  have hothers : (follower.others after).Perm (follower.others before) := by
    rw [show follower.others after = after by decide +kernel,
      show follower.others before = after.reverse by decide +kernel]
    exact (List.reverse_perm after).symm
  obtain rfl : n = 3 := by
    rw [← Int32.toInt_inj, htotal]
    decide +kernel
  exact ⟨hn, hagain shelf after after after rfl hothers⟩

end Authenticator

end AuthProxy
