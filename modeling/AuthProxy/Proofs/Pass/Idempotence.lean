import AuthProxy.Proofs.Pass.Proxies

/-! # A pass that is done

A pass that ends as done leaves nothing to do: the next one, from the cluster that it left, is done
with the same ready replicas and changes nothing at all. The first one may have repaired any of the
objects on its way; each step is settled by what it wrote itself, and no later step unsettles it.
-/

namespace AuthProxy

theorem Cluster.WellKept.yields {α : Type} {p : Program α} {c c' : Cluster} {a : α}
    (hc : c.WellKept) (h : p.Yields Cluster.answer c a c') : c'.WellKept :=
  h.2 ▸ hc.run p

namespace Authenticator

open Program

variable {a b : Authenticator} {settings : Settings} {fresh : Credentials} {c c' : Cluster}

/-- The steps end as done if every one of them goes on. -/
theorem converge_yields_done {r : Int32} :
    (a.converge settings fresh).Yields Cluster.answer c (.done r) c' ↔
      ∃ secret map c₁ c₂ c₃,
        (a.credentialsStep fresh).Yields Cluster.answer c (.proceed secret) c₁ ∧
        (a.configurationStep settings).Yields Cluster.answer c₁ (.proceed map) c₂ ∧
        (a.proxyStep secret map settings).Yields Cluster.answer c₂ (.proceed r) c₃ ∧
        (a.reportStep r).Yields Cluster.answer c₃ (.proceed ()) c' := by
  simp only [converge, yields_thenStep, yields_pure, reduceCtorEq, and_false, exists_false,
    or_false, Outcome.done.injEq]
  constructor
  · rintro ⟨secret, c₁, h₁, map, c₂, h₂, ready, c₃, h₃, ⟨⟩, s, h₄, rfl, rfl⟩
    exact ⟨secret, map, c₁, c₂, c₃, h₁, h₂, h₃, h₄⟩
  · rintro ⟨secret, map, c₁, c₂, c₃, h₁, h₂, h₃, h₄⟩
    exact ⟨secret, c₁, h₁, map, c₂, h₂, r, c₃, h₃, (), c', h₄, rfl, rfl⟩

/-- What the steps before the report make of an authenticator depends only on what it asks for. -/
theorem SameDemand.steps_eq (h : SameDemand a b) (settings : Settings) :
    b.configurationStep settings = a.configurationStep settings ∧
      ∀ secret map, b.proxyStep secret map settings = a.proxyStep secret map settings := by
  obtain ⟨v, s, rfl⟩ := h
  exact ⟨rfl, fun _ _ => rfl⟩

/-- Steps that ended as done end as done again, for the authenticator that they left. -/
theorem converge_done_again {r : Int32} {key : ObjectName} (hc : c.WellKept)
    (hget : c.get? .authenticator key = some a)
    (h : (a.converge settings fresh).Yields Cluster.answer c (.done r) c') :
    ∃ b, c'.get? .authenticator key = some b ∧
      ∀ fresh', (b.converge settings fresh').Yields Cluster.answer c' (.done r) c' := by
  obtain ⟨secret, map, c₁, c₂, c₃, h₁, h₂, h₃, h₄⟩ := converge_yields_done.1 h
  have hc₁ := hc.yields h₁
  have hc₂ := hc₁.yields h₂
  have hc₃ := hc₂.yields h₃
  obtain ⟨rfl, settled₁⟩ := credentialsStep_settles h₁
  obtain ⟨only₂, settled₂⟩ := configurationStep_settles hc₁ h₂
  obtain ⟨only₃, settled₃⟩ := proxyStep_settles hc₂ h₃
  have hget₃ : c₃.get? .authenticator key = some a := by
    rw [Cluster.get?_congr (only₃ .authenticator (by decide)),
      Cluster.get?_congr (only₂ .authenticator (by decide)), hget]
  obtain ⟨only₄, b, hb, hdemand, settled₄⟩ := reportStep_settles hc₃ hget₃ h₄
  -- Each kind was last changed by its own step.
  have secrets : c'.tables.table .secret = c₁.tables.table .secret :=
    ((only₄ _ (by decide)).trans (only₃ _ (by decide))).trans (only₂ _ (by decide))
  have configMaps : c'.tables.table .configMap = c₂.tables.table .configMap :=
    (only₄ _ (by decide)).trans (only₃ _ (by decide))
  have deployments : c'.tables.table .deployment = c₃.tables.table .deployment :=
    only₄ _ (by decide)
  obtain ⟨hconfiguration, hproxy⟩ := hdemand.steps_eq settings
  refine ⟨b, hb, fun fresh' => converge_yields_done.2 ⟨secret, map, c', c', c', ?_, ?_, ?_, ?_⟩⟩
  · exact settled₁ b fresh' hdemand c' secrets
  · rw [hconfiguration]
    exact settled₂ c' configMaps
  · rw [hproxy]
    exact settled₃ c' deployments
  · exact settled₄ c' rfl

theorem pass_yields_done {ns name : String} {r : Int32} :
    (pass settings ns name fresh).Yields Cluster.answer c (.done r) c' ↔
      ∃ a, c.get? .authenticator ⟨ns, name⟩ = some a ∧
        (a.converge settings fresh).Yields Cluster.answer c (.done r) c' := by
  rw [pass]
  refine yields_get.trans ?_
  cases c.get? .authenticator ⟨ns, name⟩ with
  | none => simp
  | some a => simp

/-- **A pass after a pass that was done is done as well**, with the same ready replicas, and it
leaves the whole cluster as it is: no write is recorded, and no object gets another version. -/
theorem pass_done_again (h : c.Reachable) (settings : Settings) (ns name : String)
    (fresh fresh' : Credentials) (r : Int32)
    (hdone : ((pass settings ns name fresh).run Cluster.answer c).result = .ok (.done r)) :
    let left := ((pass settings ns name fresh).run Cluster.answer c).store
    let again := (pass settings ns name fresh').run Cluster.answer left
    again.result = .ok (.done r) ∧ again.store = left := by
  obtain ⟨a, hget, hconverge⟩ := pass_yields_done.1 (yields_of_result hdone)
  obtain ⟨b, hb, hagain⟩ := converge_done_again h.wellKept hget hconverge
  exact pass_yields_done.2 ⟨b, hb, hagain fresh'⟩

/-- A cluster in which a pass has everything to do but to make credentials: the ConfigMap is empty,
the only workload lacks a proxy, and nothing was reported yet. -/
def drifted : Cluster :=
  let selected : Labels := .ofList [("app", "web")]
  .ofChanges [
    .place .secret { metadata := { name := some "users", ns := some "apps" } },
    .place .authenticator {
      metadata := { name := some "gate", ns := some "apps", uid := some "uid-of-gate" }
      spec := {
        mode := .sidecar, credentialsSecretRef := "users", appPort := 80
        selector := { matchLabels := some selected } } },
    .place .configMap {
      metadata := {
        name := some "gate-nginx-conf", ns := some "apps"
        ownerReferences := some [{ uid := "uid-of-gate" }] } },
    .place .deployment {
      metadata := { name := some "web", ns := some "apps", labels := some selected }
      spec := some {}, status := some { readyReplicas := some 2 } }]

set_option maxRecDepth 10000 in
theorem pass_done_again_after_repairs :
    let left := ((pass {} "apps" "gate" ⟨"user", "word"⟩).run Cluster.answer drifted).store
    let again := (pass {} "apps" "gate" ⟨"other", "word"⟩).run Cluster.answer left
    left.writes.length = 3 ∧ again.result = .ok (.done 2) ∧ again.store = left :=
  ⟨rfl, pass_done_again (Cluster.reachable_ofChanges _) {} "apps" "gate" ⟨"user", "word"⟩
    ⟨"other", "word"⟩ 2 rfl⟩

end Authenticator

end AuthProxy
