import AuthProxy.Proofs.Pass.Followers
import Mathlib.Data.Fintype.EquivFin
import Mathlib.Data.Fintype.Sets
import Mathlib.Logic.Relation
import Mathlib.Order.WellFounded

/-! # Rounds of passes

Several standalone authenticators, passed over in turn, again and again. One that is at rest, and
follows only such as have settled, has settled itself: no pass disturbs it any more. Every round
that is done settles one more of them, unless they follow each other in a circle. So there are at
most as many rounds with a write as there are authenticators (`rounds_settle`).
-/

namespace AuthProxy

open Program

/-- A round of passes: how each of them ended, and the cluster that they left. -/
structure Round where
  outcomes : List (Except Error Outcome)
  left : Cluster

namespace Round

/-- Every pass of the round is done. -/
def Done (r : Round) : Prop := ∀ o ∈ r.outcomes, ∃ ready, o = .ok (.done ready)

instance (o : Except Error Outcome) : Decidable (∃ ready, o = .ok (.done ready)) :=
  match o with
  | .ok (.done ready) => .isTrue ⟨ready, rfl⟩
  | .ok .deleted | .ok (.requeue _) | .error _ => .isFalse (by simp)

instance (r : Round) : Decidable r.Done := inferInstanceAs (Decidable (∀ o ∈ r.outcomes, _))

/-- One pass over each of the authenticators at `keys`, in this order. -/
def run (settings : Settings) (fresh : ObjectName → Credentials) :
    List ObjectName → Cluster → Round
  | [], c => ⟨[], c⟩
  | key :: rest, c =>
    let first := (Authenticator.pass settings key.ns key.name (fresh key)).run Cluster.answer c
    let others := run settings fresh rest first.store
    ⟨first.result :: others.outcomes, others.left⟩

end Round

/-- The cluster after a number of rounds. -/
def Cluster.afterRounds (settings : Settings) (fresh : Nat → ObjectName → Credentials)
    (keys : List ObjectName) (c : Cluster) : Nat → Cluster
  | 0 => c
  | i + 1 => (Round.run settings (fresh i) keys (c.afterRounds settings fresh keys i)).left

/-- The authenticator at `key` follows the proxy of one of those at `keys`. -/
def Cluster.FollowsOneOf (c : Cluster) (keys : List ObjectName) (key key' : ObjectName) : Prop :=
  key' ∈ keys ∧ c.Follows key key'

/-- There are standalone authenticators at `keys`. -/
structure Fleet (keys : List ObjectName) (c : Cluster) : Prop where
  wellKept : c.WellKept
  standalone : ∀ key ∈ keys, ∃ a, c.get? .authenticator key = some a ∧ a.spec.mode = .standalone

/-- The authenticator at `key` is at rest, and those that it follows have settled. -/
inductive HasSettled (settings : Settings) (keys : List ObjectName) (c : Cluster) :
    ObjectName → Prop
  | intro {key : ObjectName} (atRest : c.AtRest settings key)
      (followed : ∀ key', c.FollowsOneOf keys key key' → HasSettled settings keys c key') :
      HasSettled settings keys c key

/-- What passes that are done keep. -/
structure Advances (settings : Settings) (keys : List ObjectName) (c c' : Cluster) : Prop where
  fleet : Fleet keys c'
  follows : ∀ key key', c'.FollowsOneOf keys key key' → c.FollowsOneOf keys key key'
  settled : ∀ key, HasSettled settings keys c key → HasSettled settings keys c' key

variable {settings : Settings} {keys todo : List ObjectName} {c c' d : Cluster}
  {key key' : ObjectName}

theorem HasSettled.atRest (h : HasSettled settings keys c key) : c.AtRest settings key := by
  cases h with
  | intro atRest followed => exact atRest

theorem Fleet.advances_self (h : Fleet keys c) : Advances settings keys c c :=
  ⟨h, fun _ _ hf => hf, fun _ hs => hs⟩

theorem Advances.trans (h : Advances settings keys c c') (h' : Advances settings keys c' d) :
    Advances settings keys c d :=
  ⟨h'.fleet, fun _ _ hf => h.follows _ _ (h'.follows _ _ hf),
    fun _ hs => h'.settled _ (h.settled _ hs)⟩

/-- What has settled stays so in a pass that is done, and the one that it is over comes to rest. -/
theorem Fleet.pass_advances (h : Fleet keys c) (hmem : key ∈ keys) {fresh : Credentials}
    {ready : Int32}
    (hdone : (Authenticator.pass settings key.ns key.name fresh).Yields Cluster.answer c
      (.done ready) c') : Advances settings keys c c' ∧ c'.AtRest settings key := by
  obtain ⟨a, hget, alone⟩ := h.standalone key hmem
  obtain ⟨a', b, hdid⟩ :=
    (Authenticator.pass_ensures h.wellKept settings key fresh).yields hdone
  obtain rfl := Option.some.inj (hdid.before.symm.trans hget)
  have follows : ∀ x y, c'.FollowsOneOf keys x y → c.FollowsOneOf keys x y :=
    fun x y hxy => ⟨hxy.1, hdid.follows alone hxy.2⟩
  have hc' := h.wellKept.yields hdone
  refine ⟨⟨⟨hc', fun x hx => ?_⟩, follows, fun x hx => ?_⟩, hdid.atRest alone⟩
  · obtain ⟨o, ho, halone⟩ := h.standalone x hx
    obtain ⟨o', ho', v, s, rfl⟩ := (hdid.sameDemand alone).1 ho
    exact ⟨_, ho', halone⟩
  · induction hx with
    | @intro x atRest followed ih =>
      refine .intro ?_ fun y hxy => ih y (follows x y hxy)
      by_cases hkey : key = x
      · exact hkey ▸ hdid.atRest alone
      · by_cases hfollows : c.Follows x key
        · -- Then the pass is over one that has settled, and changes nothing.
          obtain ⟨r, hidle⟩ :=
            (followed key ⟨hmem, hfollows⟩).atRest.pass_yields h.wellKept fresh
          rwa [show c' = c from hdone.2.symm.trans hidle.2]
        · exact (hdid.changes alone).atRest h.wellKept hc' hkey hfollows atRest

/-- A round that is done also settles those that follow only such as had settled before it. -/
theorem Fleet.round_advances {fresh : ObjectName → Credentials} (h : Fleet keys c)
    (htodo : ∀ key ∈ todo, key ∈ keys) (hdone : (Round.run settings fresh todo c).Done) :
    Advances settings keys c (Round.run settings fresh todo c).left ∧
      ∀ key ∈ todo, (∀ key', c.FollowsOneOf keys key key' → HasSettled settings keys c key') →
        HasSettled settings keys (Round.run settings fresh todo c).left key := by
  induction todo generalizing c with
  | nil => exact ⟨h.advances_self, nofun⟩
  | cons first rest ih =>
    obtain ⟨ready, hfirst⟩ := hdone _ List.mem_cons_self
    obtain ⟨advances, hrest⟩ := h.pass_advances (htodo _ List.mem_cons_self)
      (yields_of_result hfirst)
    obtain ⟨later, hlater⟩ := ih advances.fleet (fun x hx => htodo x (List.mem_cons_of_mem _ hx))
      fun o ho => hdone o (List.mem_cons_of_mem _ ho)
    refine ⟨advances.trans later, fun x hx hfollowed => ?_⟩
    have hnow : ∀ y, ((Authenticator.pass settings first.ns first.name (fresh first)).run
        Cluster.answer c).store.FollowsOneOf keys x y → HasSettled settings keys _ y :=
      fun y hxy => advances.settled y (hfollowed y (advances.follows x y hxy))
    rcases List.mem_cons.1 hx with rfl | hx
    · exact later.settled x (.intro hrest hnow)
    · exact hlater x hx hnow

/-- A round over authenticators at rest is done and leaves the cluster as it is. -/
theorem Round.run_of_atRest {fresh : ObjectName → Credentials} (hc : c.WellKept)
    (h : ∀ key ∈ todo, c.AtRest settings key) :
    (run settings fresh todo c).Done ∧ (run settings fresh todo c).left = c := by
  induction todo with
  | nil => exact ⟨nofun, rfl⟩
  | cons first rest ih =>
    obtain ⟨ready, hresult, hstore⟩ := (h first List.mem_cons_self).pass_yields hc (fresh first)
    obtain ⟨hdone, hleft⟩ := ih fun key hkey => h key (List.mem_cons_of_mem _ hkey)
    simp only [run, hstore]
    refine ⟨fun o ho => ?_, hleft⟩
    rcases List.mem_cons.1 ho with rfl | ho
    · exact ⟨ready, hresult⟩
    · exact hdone o ho

/-! ## Without circles -/

open Classical in
/-- Those that have not settled. -/
noncomputable def unsettled (settings : Settings) (keys : List ObjectName) (c : Cluster) :
    Finset ObjectName :=
  keys.toFinset.filter fun key => ¬ HasSettled settings keys c key

theorem mem_unsettled :
    key ∈ unsettled settings keys c ↔ key ∈ keys ∧ ¬ HasSettled settings keys c key := by
  simp [unsettled]

theorem card_unsettled_le : (unsettled settings keys c).card ≤ keys.length :=
  (Finset.card_le_card fun _ hkey => List.mem_toFinset.2 (mem_unsettled.1 hkey).1).trans
    keys.toFinset_card_le

/-- Of those that have not settled, one follows only such as have. -/
theorem exists_next_to_settle
    (acyclic : ∀ key, ¬ Relation.TransGen (c.FollowsOneOf keys) key key)
    (h : (unsettled settings keys c).Nonempty) :
    ∃ key ∈ unsettled settings keys c,
      ∀ key', c.FollowsOneOf keys key key' → HasSettled settings keys c key' := by
  let leads (x y : { key // key ∈ keys }) : Prop :=
    Relation.TransGen (c.FollowsOneOf keys) y x
  have : IsTrans _ leads := ⟨fun _ _ _ hxy hyz => hyz.trans hxy⟩
  have : Std.Irrefl leads := ⟨fun x => acyclic x⟩
  obtain ⟨key, hkey⟩ := h
  obtain ⟨hmem, hnot⟩ := mem_unsettled.1 hkey
  obtain ⟨next, hnext, hmin⟩ := (Finite.wellFounded_of_trans_of_irrefl leads).has_min
    { x | ¬ HasSettled settings keys c x } ⟨⟨key, hmem⟩, hnot⟩
  refine ⟨next, mem_unsettled.2 ⟨next.2, hnext⟩, fun x hx => ?_⟩
  by_contra hx'
  exact hmin ⟨x, hx.1⟩ hx' (.single hx)

theorem Advances.unsettled_subset (h : Advances settings keys c c') :
    unsettled settings keys c' ⊆ unsettled settings keys c := by
  intro key hkey
  obtain ⟨hmem, hnot⟩ := mem_unsettled.1 hkey
  exact mem_unsettled.2 ⟨hmem, fun hs => hnot (h.settled key hs)⟩

/-- Each round brings the number of those that have not settled down. -/
theorem Fleet.card_unsettled_lt {fresh : ObjectName → Credentials} (h : Fleet keys c)
    (acyclic : ∀ key, ¬ Relation.TransGen (c.FollowsOneOf keys) key key)
    (hdone : (Round.run settings fresh keys c).Done)
    (hsome : (unsettled settings keys c).Nonempty) :
    (unsettled settings keys (Round.run settings fresh keys c).left).card <
      (unsettled settings keys c).card := by
  obtain ⟨advances, hsettles⟩ := h.round_advances (fun _ hkey => hkey) hdone
  obtain ⟨next, hnext, hfollowed⟩ := exists_next_to_settle acyclic hsome
  refine Finset.card_lt_card (Finset.ssubset_iff_subset_ne.2 ⟨advances.unsettled_subset, ?_⟩)
  intro heq
  have hmem : next ∈ unsettled settings keys (Round.run settings fresh keys c).left := heq ▸ hnext
  exact (mem_unsettled.1 hmem).2 (hsettles next (mem_unsettled.1 hnext).1 hfollowed)

section Rounds

variable {fresh : Nat → ObjectName → Credentials}

/-- After `i` rounds that were done, at most `keys.length - i` authenticators have not settled. -/
theorem Fleet.rounds_advance (h : Fleet keys c)
    (acyclic : ∀ key, ¬ Relation.TransGen (c.FollowsOneOf keys) key key) {i : Nat}
    (hi : i ≤ keys.length) (hdone : ∀ j < keys.length,
      (Round.run settings (fresh j) keys (c.afterRounds settings fresh keys j)).Done) :
    Advances settings keys c (c.afterRounds settings fresh keys i) ∧
      (unsettled settings keys (c.afterRounds settings fresh keys i)).card + i ≤ keys.length := by
  induction i with
  | zero => exact ⟨h.advances_self, card_unsettled_le⟩
  | succ i ih =>
    obtain ⟨advances, hcard⟩ := ih (by omega)
    have hround := hdone i hi
    obtain ⟨further, -⟩ := advances.fleet.round_advances (fun _ hkey => hkey) hround
    refine ⟨advances.trans further, ?_⟩
    rcases (unsettled settings keys (c.afterRounds settings fresh keys i)).eq_empty_or_nonempty with
      hnone | hsome
    · -- All have settled, and stay so.
      have hstill := hnone ▸ further.unsettled_subset
      rw [Cluster.afterRounds, Finset.subset_empty.1 hstill, Finset.card_empty]
      omega
    · have := advances.fleet.card_unsettled_lt (fun key hcircle =>
        acyclic key (Relation.TransGen.mono advances.follows _ _ hcircle)) hround hsome
      rw [Cluster.afterRounds]
      omega

/-- **Authenticators that do not follow each other in a circle settle together.** If as many rounds
as there are authenticators are done, then so is every further one, and it leaves the whole cluster
as it is: no write is recorded. -/
theorem rounds_settle (h : c.Reachable) (settings : Settings)
    (fresh : Nat → ObjectName → Credentials) (keys : List ObjectName)
    (standalone : ∀ key ∈ keys,
      ∃ a, c.get? .authenticator key = some a ∧ a.spec.mode = .standalone)
    (acyclic : ∀ key, ¬ Relation.TransGen (c.FollowsOneOf keys) key key) :
    let after := c.afterRounds settings fresh keys
    let round i := Round.run settings (fresh i) keys (after i)
    (∀ i < keys.length, (round i).Done) → ∀ i, keys.length ≤ i →
      (round i).Done ∧ (round i).left = after keys.length := by
  intro after round hdone
  have hfleet : Fleet keys c := ⟨h.wellKept, standalone⟩
  obtain ⟨advances, hcard⟩ : Advances settings keys c (after keys.length) ∧
      (unsettled settings keys (after keys.length)).card + keys.length ≤ keys.length :=
    hfleet.rounds_advance acyclic (Nat.le_refl _) hdone
  have hnone : unsettled settings keys (after keys.length) = ∅ := Finset.card_eq_zero.1 (by omega)
  have hrest : ∀ key ∈ keys, (after keys.length).AtRest settings key := by
    intro key hkey
    have hnot : key ∉ unsettled settings keys (after keys.length) := by simp [hnone]
    simp only [mem_unsettled, hkey, true_and, not_not] at hnot
    exact hnot.atRest
  have hidle : ∀ fresh, (Round.run settings fresh keys (after keys.length)).Done ∧
      (Round.run settings fresh keys (after keys.length)).left = after keys.length :=
    fun fresh => Round.run_of_atRest advances.fleet.wellKept hrest
  have hsame : ∀ i, keys.length ≤ i → after i = after keys.length := by
    intro i hi
    induction i, hi using Nat.le_induction with
    | base => rfl
    | succ i hi ih =>
      show (Round.run settings (fresh i) keys (after i)).left = _
      rw [ih, (hidle (fresh i)).2]
  intro i hi
  simp only [round, hsame i hi]
  exact hidle (fresh i)

end Rounds

namespace Round

/-- An authenticator whose replicas follow what the selector selects. -/
def follower (name : String) (selector : LabelSelector) : Authenticator where
  metadata := { name := some name, ns := some "apps", uid := some ("uid-of-" ++ name) }
  spec := {
    credentialsSecretRef := "users", appPort := 80, appService := "app"
    adaptiveScale := true, selector }

/-- A cluster with one workload and with followers, the dependents of which are there but empty. -/
def staffed (followers : List Authenticator) : Cluster :=
  .ofChanges (.place .secret { metadata := { name := some "users", ns := some "apps" } } ::
    .place .deployment {
      metadata := {
        name := some "web", ns := some "apps", labels := some (.ofList [("app", "web")]) }
      spec := some { replicas := some 3 } } ::
    followers.flatMap fun a =>
      let owned (name : String) : ObjectMeta := {
        name := some name, ns := some "apps", labels := some a.dependentLabels
        ownerReferences := some [{ uid := a.metadata.uid.getD "" }] }
      [.place .authenticator a, .place .configMap { metadata := owned a.ownConfigMapName },
        .place .deployment { metadata := owned a.ownDeploymentName, spec := some {} }])

/-- `front` follows the proxy of `back`, which follows the workload. -/
def relay : Cluster :=
  staffed [
    follower "front" { matchLabels := some (.ofList [("app.kubernetes.io/instance", "back")]) },
    follower "back" { matchLabels := some (.ofList [("app", "web")]) }]

def relayed : List ObjectName := [⟨"apps", "front"⟩, ⟨"apps", "back"⟩]

theorem relay_follows (h : relay.FollowsOneOf relayed key key') :
    key = ⟨"apps", "front"⟩ ∧ key' = ⟨"apps", "back"⟩ := by
  obtain ⟨hmem, hne, -, a, s, d, ha, -, hs, hd, hselects⟩ := h
  have hkeys : relay.tables.authenticators.keys = [⟨"apps", "back"⟩, ⟨"apps", "front"⟩] := by
    decide +kernel
  have hkey : key ∈ relay.tables.authenticators.keys :=
    List.mem_map_of_mem (SortedMap.get?_eq_some_iff.1 ha)
  rw [hkeys] at hkey
  rcases List.mem_pair.1 hkey with rfl | rfl <;> rcases List.mem_pair.1 hmem with rfl | rfl
  · -- `back` does not select the proxy of `front`.
    have hselected : ((relay.get? .authenticator ⟨"apps", "back"⟩).bind fun a =>
        a.spec.selector.checked.toOption.bind fun s =>
          (relay.get? .deployment (ObjectName.dependent ⟨"apps", "front"⟩ .deployment)).map
            fun d => s.selects d.metadata.labelMap) = some false := by
      decide +kernel
    rw [ha, Option.bind_some, hs, hd] at hselected
    cases hselects.symm.trans (Option.some.inj hselected)
  · exact absurd rfl hne
  · exact absurd rfl hne
  · exact ⟨rfl, rfl⟩

theorem rounds_settle_along_relay :
    let after := relay.afterRounds {} (fun _ _ => ⟨"user", "word"⟩) relayed
    (after 1).writes.length = 6 ∧ (after 2).writes.length = 7 ∧ ∀ i, relayed.length ≤ i →
      (Round.run {} (fun _ => ⟨"user", "word"⟩) relayed (after i)).left = after relayed.length := by
  refine ⟨by decide +kernel, by decide +kernel, fun i hi => ?_⟩
  have hreachable : relay.Reachable := Cluster.reachable_ofChanges _
  refine (rounds_settle hreachable {} (fun _ _ => ⟨"user", "word"⟩) relayed ?_ ?_ ?_ i hi).2
  · intro key hkey
    rcases List.mem_pair.1 hkey with rfl | rfl
    · exact ⟨_, rfl, rfl⟩
    · exact ⟨_, rfl, rfl⟩
  · intro key hcircle
    obtain ⟨_, hfirst, -⟩ := Relation.TransGen.head'_iff.1 hcircle
    obtain ⟨_, -, hlast⟩ := Relation.TransGen.tail'_iff.1 hcircle
    obtain ⟨rfl, -⟩ := relay_follows hfirst
    exact absurd (relay_follows hlast).2 (by decide)
  · decide +kernel

/-- Selects everything that is not marked as a canary, the proxies among it. -/
def unmarked : LabelSelector :=
  { matchExpressions := some [{ key := "canary", operator := "DoesNotExist" }] }

/-- Two that follow each other and a workload feed their replicas back into each other. -/
theorem rounds_grow_in_circle :
    let keys : List ObjectName := [⟨"apps", "east"⟩, ⟨"apps", "west"⟩]
    let circle := staffed [follower "east" unmarked, follower "west" unmarked]
    let after := circle.afterRounds {} (fun _ _ => ⟨"user", "word"⟩) keys
    (∀ key ∈ keys, ((circle.get? .authenticator key).map (·.spec.mode)) = some .standalone) ∧
      (∀ i < 3, (Round.run {} (fun _ => ⟨"user", "word"⟩) keys (after i)).Done) ∧
        (after 3).writes = (after 2).writes ++
          [⟨.update, .deployment, "east-nginx"⟩, ⟨.update, .deployment, "west-nginx"⟩] := by
  decide +kernel

end Round

end AuthProxy
