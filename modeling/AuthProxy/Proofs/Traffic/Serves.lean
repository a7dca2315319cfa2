import AuthProxy.Proofs.Serviceable
import AuthProxy.Proofs.Traffic.Credentials

/-! # Passes keep an authenticator serviceable

No call of a pass takes away what passes over an authenticator need, whichever pass makes it and
wherever it is cut off or fails. An object that a pass replaces keeps its owners, and one that it
adds belongs to the authenticator of that name.
-/

namespace AuthProxy

/-! ## Where objects come from -/

namespace ObjectChange

variable {u : Underway} {c c' : Cluster} {k : Kind} {key : ObjectName}

/-- **Where the objects of a cluster come from** after a call of a pass: each has the owners that
the object in its place had, or is a dependent of the authenticator that the pass is about. -/
theorem owners (h : ObjectChange u c c') {o : k.Object} (ho : c'.get? k key = some o) :
    (∃ x, c.get? k key = some x ∧
        (k.metadata o).ownerReferences = (k.metadata x).ownerReferences) ∨
      key = u.key.dependent k ∧ ∃ a, u.calls.HasRead .authenticator u.key a ∧
        a.owns (k.metadata o) = true := by
  cases h with
  | same same => exact .inl ⟨o, same.get? k key ▸ ho, rfl⟩
  | added read hkey owned _ written =>
    rcases written.get?_cases ho with ⟨rfl, rfl, rfl⟩ | ho
    · exact .inr ⟨hkey, _, read, owned⟩
    · exact .inl ⟨o, ho, rfl⟩
  | replaced _ before howners written =>
    rcases written.get?_cases ho with ⟨rfl, rfl, rfl⟩ | ho
    · exact .inl ⟨_, before, howners⟩
    · exact .inl ⟨o, ho, rfl⟩

end ObjectChange

/-! ## What keeps an authenticator serviceable -/

/-- An event of the operator, or the next update of a kind being made to fail: nobody else changes
an object. -/
def Event.isOperators : Event → Bool
  | .start .. | .call .. | .cut _ | .change (.conflict _) => true
  | .change _ => false

namespace Authenticator

variable {a b : Authenticator}

theorem sameService_of_write (h : b = a ∨ a.SetsReference b ∨ a.ReportsReady b) :
    a.SameService b := by
  rcases h with rfl | ⟨hunset, v, rfl⟩ | ⟨v, n, rfl⟩
  · exact sameService_refl b
  · exact ⟨v, _, _, rfl, fun hset => absurd hunset hset⟩
  · exact ⟨v, _, _, rfl, fun _ => rfl⟩

end Authenticator

namespace Traffic

/-- In the traffic the authenticator at `key` is serviceable, and provides the same service as `a₀`;
passes have only ever read it with the uid that it has. -/
structure Serves (t : Traffic) (key : ObjectName) (a₀ : Authenticator) : Prop where
  now : ∃ a, Serviceable t.cluster key a ∧ a₀.SameService a
  read : ∀ b, t.calls.HasRead .authenticator key b → b.metadata.uid = a₀.metadata.uid

variable {t t' : Traffic} {key : ObjectName} {a₀ : Authenticator}

theorem Serves.of_tables (h : t.Serves key a₀) (ht : t'.cluster.tables = t.cluster.tables)
    (hcalls : t'.calls = t.calls) : t'.Serves key a₀ := by
  obtain ⟨a, ha, hsame⟩ := h.now
  exact ⟨⟨a, ha.of_tables ht, hsame⟩, fun b hb => h.read b (hcalls ▸ hb)⟩

/-- A call leaves the way free for the dependents: what it replaces keeps its owners, and what it
adds under the name of a dependent was made for an authenticator of this name, hence of this uid. -/
theorem Serves.free (h : t.Serves key a₀) (hsound : t.Sound) {i : Nat} {u : Underway}
    {failure : Option Failure} {call : Call} {r : call.Result} (hs : t.Calls i u failure call r t')
    {a b : Authenticator} (ha : a.metadata.uid = a₀.metadata.uid)
    (hb : b.metadata.uid = a₀.metadata.uid) {k : Kind}
    (hfree : t.cluster.FreeFor a k (key.dependent k)) :
    t'.cluster.FreeFor b k (key.dependent k) := by
  intro o ho
  have hmem := List.mem_of_getElem? hs.pass
  rcases (hsound.objectChange hs).owners ho with
    ⟨x, hx, howners⟩ | ⟨hkey, d, hread, howned⟩
  · exact (Authenticator.owns_congr (hb.trans ha.symm) howners).trans (hfree x hx)
  · -- Who has this dependent is the authenticator at `key`, which was read with the uid it has.
    have hu : u.key = key := (ObjectName.dependent_inj hkey).symm
    rw [hu] at hread
    have huid := h.read d (hsound.recorded u hmem hread)
    exact (Authenticator.owns_congr (hb.trans huid.symm) rfl).trans howned

/-- **A call keeps the authenticator serviceable**, whichever pass makes it and however it ends. -/
theorem Serves.call (h : t.Serves key a₀) (hsound : t.Sound)
    (hshown : t.Shown (key.dependent .secret)) {i : Nat} {u : Underway} {failure : Option Failure}
    {call : Call} {r : call.Result} (hs : t.Calls i u failure call r (t.step (.call i failure))) :
    (t.step (.call i failure)).Serves key a₀ := by
  obtain ⟨a, ha, hsame⟩ := h.now
  obtain ⟨b, hb, hwrite⟩ := hsound.authenticator_kept i failure ha.found
  have hchange := hsound.objectChange hs
  have hstep := Authenticator.sameService_of_write hwrite
  have hsame' := hsame.trans hstep
  have hfree : ∀ {k}, t.cluster.FreeFor a k (key.dependent k) →
      (t.step (.call i failure)).cluster.FreeFor b k (key.dependent k) := fun hf =>
    h.free hsound hs hsame.uid_eq hsame'.uid_eq hf
  have hreference : b.spec.credentialsSecretRef ≠ "" →
      ∃ s, t.cluster.get? .secret ⟨key.ns, b.spec.credentialsSecretRef⟩ = some s := by
    intro hset
    by_cases hunset : a.spec.credentialsSecretRef = ""
    · -- This very call has set it.
      obtain ⟨s, hstored, -⟩ := hshown.reference_set hsound ha.found hb hunset hset
      exact ⟨s, hstored⟩
    · rw [hstep.reference_eq hunset]
      exact ha.reference hunset
  have hunset : b.spec.credentialsSecretRef = "" → a.spec.credentialsSecretRef = "" := by
    intro hb'
    by_contra hne
    exact hne ((hstep.reference_eq hne).symm.trans hb')
  refine ⟨⟨b, ⟨hb, ?_, ?_, fun hb' => hfree (ha.credentials (hunset hb')), hfree ha.configMap,
    fun halone => hfree (ha.deployment (hstep.mode_eq ▸ halone)), ?_, ?_⟩, hsame'⟩, fun d hd => ?_⟩
  · obtain ⟨v, ref, s, rfl, -⟩ := hstep
    exact ⟨ha.identified.name_isSome, ha.identified.ns_isSome, ha.identified.uid_isSome⟩
  · exact fun hset => (hreference hset).imp fun s hstored => hchange.secret_kept hstored
  · obtain ⟨v, ref, s, rfl, -⟩ := hstep
    exact ha.appService
  · obtain ⟨v, ref, s, rfl, -⟩ := hstep
    exact ha.selector
  · rw [Path.HasRead, hs.calls, List.mem_append, List.mem_singleton] at hd
    rcases hd with hd | hd
    · exact h.read d hd
    · obtain ⟨rfl, hr⟩ := CallRecord.mk.inj hd
      have hdelivered : (deliver failure (.get .authenticator key.ns key.name) t.cluster).1 =
          .ok (some d) := by rw [hs.delivered, eq_of_heq hr]
      obtain rfl := Option.some.inj ((deliver_get hdelivered).1.symm.trans ha.found)
      exact hsame.uid_eq

/-- What calls of passes keep holds at every time of traffic without changes from outside, if it
only depends on the stored objects and the calls. -/
theorem operators_induction {P : Traffic → Prop} {c : Cluster} {es : List Event}
    (hes : ∀ e ∈ es, e.isOperators = true) (start : P { cluster := c })
    (idle : ∀ {t t' : Traffic}, P t → t'.cluster.tables = t.cluster.tables →
      t'.calls = t.calls → P t')
    (call : ∀ (es : List Event), (∀ e ∈ es, e.isOperators = true) → P (after c es) →
      ∀ {i u failure call r}, (after c es).Calls i u failure call r
        ((after c es).step (.call i failure)) → P ((after c es).step (.call i failure))) :
    P (after c es) := by
  induction es using List.reverseRecOn with
  | nil => exact start
  | append_singleton es e ih =>
    have hearlier : ∀ e ∈ es, e.isOperators = true := fun e he => hes e (List.mem_append_left _ he)
    have h := ih hearlier
    have hlast := hes e (List.mem_append_right _ (List.mem_singleton.2 rfl))
    rw [after_snoc]
    cases e with
    | start settings key fresh => exact idle h rfl rfl
    | cut i => exact idle h rfl rfl
    | change x =>
      cases x with
      | conflict k => exact idle h rfl rfl
      | place k o => cases hlast
      | edit k key change => cases hlast
      | remove k key => cases hlast
    | call i failure =>
      rcases (after c es).step_call i failure with hs | ⟨u, request, r, hs⟩
      · rw [hs]; exact h
      · exact call es hearlier h hs

/-- Nobody but passes makes Secrets appear or disappear. -/
theorem sparesSecret_of_operators {c : Cluster} {es : List Event}
    (hes : ∀ e ∈ es, e.isOperators = true) (key : ObjectName) : SparesSecret c es key := by
  intro earlier x later heq s hs
  have hx := hes (.change x) (by rw [heq]; exact List.mem_append_right _ List.mem_cons_self)
  cases x with
  | conflict k => exact hs
  | place k o => cases hx
  | edit k key change => cases hx
  | remove k key => cases hx

/-- **Passes keep an authenticator serviceable**, however many there are, in whatever order their
calls come, and wherever they are cut off or fail. -/
theorem serves_after {c : Cluster} (hc : c.WellKept) {a : Authenticator}
    (ha : Serviceable c key a) (es : List Event) (hes : ∀ e ∈ es, e.isOperators = true) :
    (after c es).Serves key a := by
  refine operators_induction (P := fun t => t.Serves key a) hes ?_
    (fun h ht hcalls => h.of_tables ht hcalls) ?_
  · exact ⟨⟨a, ha, Authenticator.sameService_refl a⟩, fun b hb => absurd hb List.not_mem_nil⟩
  · intro es hes h i u failure call r hs
    have hshown := shown_after hc es (sparesSecret_of_operators hes (key.dependent .secret))
    exact h.call (sound_after hc es) hshown hs

end Traffic

end AuthProxy
