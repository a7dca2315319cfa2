import AuthProxy.Proofs.Pass.Idempotence
import AuthProxy.Proofs.Pass.InPlace

/-! # What it means that a pass is done

Traffic of a single pass, of which any call may fail. Whatever the program of the pass ensures holds
at every time of this traffic; so a pass that ends as done leaves a cluster in which all that its
authenticator needs is in place, and it reports nothing before.
-/

namespace AuthProxy.Traffic

/-- The traffic of one pass alone after its first calls, of which some failed. -/
def alone (c : Cluster) (settings : Settings) (key : ObjectName) (fresh : Credentials)
    (failures : List (Option Failure)) : Traffic :=
  after c (.start settings key fresh :: failures.map (.call 0))

/-- The traffic consists of one pass, and what is left of it ensures the law and the end. -/
def Ensures (law : Call → Cluster → Prop) (ends : Except Error Outcome → Cluster → Prop)
    (t : Traffic) : Prop :=
  ∃ u, t.passes = [u] ∧ u.rest.Ensures law ends t.cluster

variable {law : Call → Cluster → Prop} {ends : Except Error Outcome → Cluster → Prop} {t : Traffic}

theorem Ensures.call (h : t.Ensures law ends) (failure : Option Failure) :
    (t.step (.call 0 failure)).Ensures law ends := by
  obtain ⟨u, hu, hrest⟩ := h
  rcases t.step_call 0 failure with hs | ⟨v, q, r, hs⟩
  · rw [hs]
    exact ⟨u, hu, hrest⟩
  · obtain rfl : u = v := Option.some.inj ((congrArg (·[0]?) hu).symm.trans hs.pass)
    obtain ⟨next, hn, hp⟩ := hs.next
    refine ⟨u.resume q r (next r), by rw [hp, hu]; rfl, ?_⟩
    have hlater := (hrest.nextCall hn).2 failure
    rw [hs.delivered] at hlater
    exact hlater

/-- What the program of a pass ensures is ensured at every time of its traffic. -/
theorem ensures_alone {c : Cluster} {settings : Settings} {key : ObjectName} {fresh : Credentials}
    (h : (Authenticator.pass settings key.ns key.name fresh).Ensures law ends c)
    (failures : List (Option Failure)) :
    (alone c settings key fresh failures).Ensures law ends := by
  suffices hcalls : ∀ t : Traffic, t.Ensures law ends →
      ((failures.map (.call 0)).foldl step t).Ensures law ends from
    hcalls _ ⟨.start settings key fresh, rfl, h⟩
  induction failures with
  | nil => exact fun t ht => ht
  | cons failure rest ih => exact fun t ht => ih _ (ht.call failure)

/-- **Done is sound**, whichever calls of the pass fail. When the pass has ended as done, its
authenticator reports the ready replicas, and all that it needs is in place. At any time before, if
the next call of the pass is a report, all of this is in place already. -/
theorem done_means_in_place {c : Cluster} (h : c.Reachable) (settings : Settings)
    (key : ObjectName) (fresh : Credentials) (failures : List (Option Failure)) :
    let t := alone c settings key fresh failures
    ∃ u, t.passes = [u] ∧
      (∀ ready, u.rest.result? = some (.ok (.done ready)) →
        ∃ a, t.cluster.get? .authenticator key = some a ∧ a.status = some ⟨ready⟩ ∧
          InPlace settings key a ready t.cluster) ∧
      ∀ call next, u.rest.nextCall? = some ⟨call, next⟩ → call.operation = .updateStatus →
        ∃ a ready,
          call = .updateStatus .authenticator { a with status := some { readyReplicas := ready } } ∧
          t.cluster.get? .authenticator key = some a ∧ InPlace settings key a ready t.cluster := by
  intro t
  obtain ⟨u, hu, hrest⟩ : t.Ensures _ _ :=
    ensures_alone (Authenticator.pass_ensures h.wellKept settings key fresh) failures
  refine ⟨u, hu, fun ready hdone => ?_, fun call next hn => (hrest.nextCall hn).1⟩
  obtain ⟨a, b, hb⟩ := hrest.result hdone
  exact ⟨b, hb.after, hb.status, hb.inPlace⟩

/-- A standalone authenticator whose ConfigMap is empty and whose Deployment runs something else. -/
def lapsed : Cluster :=
  let owners : List OwnerReference := [{ uid := "uid-of-gate" }]
  .ofChanges [
    .place .secret { metadata := { name := some "users", ns := some "apps" } },
    .place .authenticator {
      metadata := { name := some "gate", ns := some "apps", uid := some "uid-of-gate" }
      spec := { credentialsSecretRef := "users", appPort := 80, appService := "app" } },
    .place .configMap {
      metadata := {
        name := some "gate-nginx-conf", ns := some "apps", ownerReferences := some owners } },
    .place .deployment {
      metadata := { name := some "gate-nginx", ns := some "apps", ownerReferences := some owners }
      spec := some { template := { spec := some { containers := [{ name := "other" }] } } }
      status := some { readyReplicas := some 1 } }]

/-- In either mode the pass that repairs everything makes seven calls. -/
theorem done_means_in_place_after_repairs :
    let gate : ObjectName := ⟨"apps", "gate"⟩
    let after (c : Cluster) : Traffic := alone c {} gate ⟨"user", "word"⟩ (List.replicate 7 none)
    let reports (c : Cluster) (ready : Int32) : Prop :=
      ∃ a, c.get? .authenticator gate = some a ∧ a.status = some ⟨ready⟩ ∧ InPlace {} gate a ready c
    let file : String := String.join [
      "server \x7b\n",
      "    listen 8080;\n",
      "\n",
      "    location / \x7b\n",
      "        auth_basic \"Restricted\";\n",
      "        auth_basic_user_file /etc/nginx/secret/htpasswd;\n",
      "\n",
      "        proxy_pass http://app:80;\n",
      "        proxy_set_header Host $host;\n",
      "        proxy_set_header X-Real-IP $remote_addr;\n",
      "        proxy_set_header X-Forwarded-For $proxy_add_x_forwarded_for;\n",
      "    \x7d\n",
      "\x7d\n"]
    reports (after Authenticator.drifted).cluster 2 ∧ reports (after lapsed).cluster 1 ∧
      ∃ m, (after lapsed).cluster.get? .configMap ⟨"apps", "gate-nginx-conf"⟩ = some m ∧
        m.Holds file := by
  intro gate after reports file
  have hdone (c : Cluster) (ready : Int32) (hreachable : c.Reachable)
      (hended : (after c).passes.map (·.rest.result?) = [some (.ok (.done ready))]) :
      reports (after c).cluster ready := by
    obtain ⟨u, hu, hdone, -⟩ := done_means_in_place hreachable {} gate ⟨"user", "word"⟩
      (List.replicate 7 none)
    rw [show (after c).passes = [u] from hu] at hended
    exact hdone ready (List.singleton_inj.1 hended)
  refine ⟨hdone _ 2 (Cluster.reachable_ofChanges _) (by decide +kernel),
    hdone _ 1 (Cluster.reachable_ofChanges _) (by decide +kernel), ?_⟩
  have hfile : ((after lapsed).cluster.get? .configMap ⟨"apps", "gate-nginx-conf"⟩).map
      (fun m : ConfigMap => m.data.map (·.entries)) = some (some [("nginx.conf", file)]) := by
    decide +kernel
  exact Option.map_eq_some_iff.1 hfile

end AuthProxy.Traffic
