import AuthProxy.Cluster.Basic
import AuthProxy.Proofs.Dependents

/-! # Authenticators that can be served

What a cluster has to hold so that passes over an authenticator can get done: nobody else's object
is in the way of a dependent, and the specification is usable. Which of these objects exist already,
and what they hold, is left open.
-/

namespace AuthProxy

/-- The object under `key`, if there is one, belongs to the authenticator. -/
def Cluster.FreeFor (c : Cluster) (a : Authenticator) (k : Kind) (key : ObjectName) : Prop :=
  ∀ o, c.get? k key = some o → a.owns (k.metadata o) = true

/-- Whether a pass over the authenticator needs its selector. -/
def Authenticator.consultsSelector (a : Authenticator) : Bool :=
  match a.spec.mode with
  | .standalone => a.spec.adaptiveScale && !a.spec.selector.isEmpty
  | .sidecar => !a.spec.selector.isEmpty

/-- The cluster holds the authenticator `a` under `key`, and passes over it can get done. -/
structure Serviceable (c : Cluster) (key : ObjectName) (a : Authenticator) : Prop where
  found : c.get? .authenticator key = some a
  identified : a.Identified
  /-- The reference is empty or names a Secret that is there. -/
  reference : a.spec.credentialsSecretRef ≠ "" →
    ∃ s, c.get? .secret ⟨key.ns, a.spec.credentialsSecretRef⟩ = some s
  credentials : a.spec.credentialsSecretRef = "" → c.FreeFor a .secret (key.dependent .secret)
  configMap : c.FreeFor a .configMap (key.dependent .configMap)
  deployment : a.spec.mode = .standalone → c.FreeFor a .deployment (key.dependent .deployment)
  appService : a.spec.mode = .standalone → a.spec.appService ≠ ""
  selector : a.consultsSelector = true → ∃ s, a.spec.selector.checked = .ok s

namespace Authenticator

/-- `b` is `a` but for the version, the reference and the status, which passes write; a reference
that is set is the same. -/
def SameService (a b : Authenticator) : Prop :=
  ∃ v ref s, b = { a with
    metadata := { a.metadata with resourceVersion := v }
    spec := { a.spec with credentialsSecretRef := ref }
    status := s } ∧ (a.spec.credentialsSecretRef ≠ "" → ref = a.spec.credentialsSecretRef)

variable {a b d : Authenticator}

theorem sameService_refl (a : Authenticator) : a.SameService a := ⟨_, _, _, rfl, fun _ => rfl⟩

theorem SameService.trans (h : a.SameService b) (h' : b.SameService d) : a.SameService d := by
  obtain ⟨v, ref, s, rfl, hkept⟩ := h
  obtain ⟨v', ref', s', rfl, hkept'⟩ := h'
  refine ⟨v', ref', s', rfl, ?_⟩
  intro hset
  have href : ref = a.spec.credentialsSecretRef := hkept hset
  exact (hkept' (href ▸ hset)).trans href

theorem SameService.uid_eq (h : a.SameService b) : b.metadata.uid = a.metadata.uid := by
  obtain ⟨v, ref, s, rfl, -⟩ := h
  rfl

theorem SameService.mode_eq (h : a.SameService b) : b.spec.mode = a.spec.mode := by
  obtain ⟨v, ref, s, rfl, -⟩ := h
  rfl

theorem SameService.reference_eq (h : a.SameService b) (hset : a.spec.credentialsSecretRef ≠ "") :
    b.spec.credentialsSecretRef = a.spec.credentialsSecretRef := by
  obtain ⟨v, ref, s, rfl, hkept⟩ := h
  exact hkept hset

end Authenticator

/-- Only stored objects count. -/
theorem Serviceable.of_tables {c c' : Cluster} {key : ObjectName} {a : Authenticator}
    (h : Serviceable c key a) (ht : c'.tables = c.tables) : Serviceable c' key a := by
  have hget : ∀ k key', c'.get? k key' = c.get? k key' := fun k _ => by
    rw [Cluster.get?, Cluster.get?, ht]
  have hfree : ∀ k key', c.FreeFor a k key' → c'.FreeFor a k key' := fun k key' hf o ho =>
    hf o (hget k key' ▸ ho)
  exact ⟨(hget _ _).trans h.found, h.identified,
    fun hset => (h.reference hset).imp fun s hs => (hget _ _).trans hs,
    fun hunset => hfree _ _ (h.credentials hunset), hfree _ _ h.configMap,
    fun halone => hfree _ _ (h.deployment halone), h.appService, h.selector⟩

end AuthProxy
