import AuthProxy.Proofs.Cluster.Calls

/-! # Status and specification are written apart

Which part of the given object each write keeps. A creation drops the status, an update takes the
stored one instead, and a status update takes nothing but the status. What a write returns is what
is stored then, and nothing else has changed.
-/

namespace AuthProxy

namespace Kind

variable (k : Kind) (s t o : k.Object)

@[simp] theorem withStatusOf_withStatusOf :
    k.withStatusOf s (k.withStatusOf t o) = k.withStatusOf s o := by
  cases k <;> rfl

@[simp] theorem withStatusOf_source_withStatusOf :
    k.withStatusOf (k.withStatusOf s t) o = k.withStatusOf s o := by
  cases k <;> rfl

@[simp] theorem withoutStatus_withStatusOf :
    k.withoutStatus (k.withStatusOf s o) = k.withoutStatus o := by
  cases k <;> rfl

theorem nameAny_withStatusOf : k.nameAny (k.withStatusOf s o) = k.nameAny o := by
  simp [nameAny]

end Kind

namespace Cluster

variable {c c' : Cluster} {k : Kind} {key : ObjectName} {o stored : k.Object}

/-- The uid of an object once it is created: its own, or the next one. -/
def uidFor (c : Cluster) (k : Kind) (o : k.Object) : String :=
  (k.metadata o).uid.getD ("uid-" ++ toString (c.uids + 1))

/-- A write of `o` under `key` has stored `stored`. -/
structure Stored (c c' : Cluster) (k : Kind) (key : ObjectName) (o stored : k.Object) : Prop where
  content : stored = k.withVersion o (some (toString (c.versions + 1)))
  /-- Nothing had the version before. -/
  fresh : ∀ {j : Kind} {key' : ObjectName} {x : j.Object}, c.get? j key' = some x →
    j.versionOf x ≠ k.versionOf stored
  read : answer (.get k key.ns key.name) c' = (.ok (some stored), c')
  others : ∀ {j : Kind} {key' : ObjectName}, (j, key') ≠ (k, key) →
    c'.get? j key' = c.get? j key'

theorem Written.stores (h : Written c c' k stored) (hc : c.WellKept) (hkey : k.key stored = key)
    {v : Option String} (hcontent : stored = k.withVersion o v) : Stored c c' k key o stored := by
  have hversion : v = some (toString (c.versions + 1)) := by
    rw [← h.version, hcontent, Kind.versionOf, Kind.metadata_withVersion]
  subst hkey
  refine ⟨hversion ▸ hcontent, fun hx hsame => ?_, ?_, fun hne => h.get?_of_ne hne⟩
  · exact (hc.remembers hx).version_ne h hsame.symm
  · rw [← h.get?_self]
    rfl

theorem identify_eq (c : Cluster) (k : Kind) (o : k.Object) :
    c.identify k o = (k.withUid o (some (c.uidFor k o)),
      { c with uids := c.uids + if (k.metadata o).uid = none then 1 else 0 }) := by
  cases hu : (k.metadata o).uid with
  | some u => simp [identify, uidFor, hu, Kind.withUid_self hu]
  | none => simp [identify, uidFor, hu, Kind.withUid]

/-- What a creation that took place says about the cluster before and after it. -/
theorem create_eq_ok (hc : c.WellKept) (h : c.create k o = (.ok stored, c')) :
    c.get? k (k.key o) = none ∧
      c'.uids = c.uids + (if (k.metadata o).uid = none then 1 else 0) ∧
      Stored c c' k (k.key o)
        (k.withUid (k.withDefaults (k.withoutStatus o)) (some (c.uidFor k o))) stored := by
  cases hfound : c.get? k (k.key o) with
  | some found =>
    rw [create_of_some hfound] at h
    cases h
  | none =>
    obtain ⟨s, d, hs, hwritten, hcreated⟩ := create_of_none hfound
    rw [h] at hs
    cases hs
    have huid : c.uidFor k (k.withDefaults (k.withoutStatus o)) = c.uidFor k o := by
      simp [uidFor]
    simp only [create, hfound, identify_eq, huid] at h
    obtain ⟨hstored, hcluster⟩ := Prod.mk.inj h
    refine ⟨rfl, ?_, hwritten.stores hc hcreated.key (Except.ok.inj hstored).symm⟩
    rw [← hcluster]
    simp [write, store, stamp, put]

/-- **The status is written apart from the rest.** An update stores what it is given with the status
that was stored, whatever status it is given; a status update stores what was stored with the status
that it is given, whatever else it is given under that name and version; a creation stores what it
is given without a status, and with a uid. What is stored has defaults and a version that nothing
had before. It is what is returned and what is read afterwards, and nothing else has changed. -/
theorem status_written_apart (hc : c.Reachable) (k : Kind) (o : k.Object) :
    (∀ stored c', answer (.update k o) c = (.ok stored, c') → ∃ found,
      c.get? k (k.key o) = some found ∧
        Stored c c' k (k.key o) (k.withDefaults (k.withStatusOf found o)) stored) ∧
    (∀ stored c', answer (.updateStatus k o) c = (.ok stored, c') → ∃ found,
      c.get? k (k.key o) = some found ∧
        Stored c c' k (k.key o) (k.withStatusOf o found) stored) ∧
    (∀ stored c', answer (.create k o) c = (.ok stored, c') →
      c.get? k (k.key o) = none ∧
        c'.uids = c.uids + (if (k.metadata o).uid = none then 1 else 0) ∧
        Stored c c' k (k.key o)
          (k.withUid (k.withDefaults (k.withoutStatus o)) (some (c.uidFor k o))) stored) ∧
    (∀ source, c.update k (k.withStatusOf source o) = c.update k o ∧
      c.create k (k.withStatusOf source o) = c.create k o) ∧
    ∀ x, k.key x = k.key o → k.versionOf x = k.versionOf o →
      c.updateStatus k (k.withStatusOf o x) = c.updateStatus k o := by
  have hkept := hc.wellKept
  refine ⟨fun stored c' h => ?_, fun stored c' h => ?_, fun stored c' h => create_eq_ok hkept h,
    fun source => ⟨?_, ?_⟩, fun x hkey hversion => ?_⟩
  · obtain ⟨found, v, hfound, -, -, hwritten, hcontent⟩ := update_eq_ok h
    exact ⟨found, hfound, hwritten.stores hkept (by simp [hcontent]) hcontent⟩
  · obtain ⟨found, v, hfound, -, -, hwritten, hcontent⟩ := updateStatus_eq_ok h
    refine ⟨found, hfound, hwritten.stores hkept ?_ hcontent⟩
    simp [hcontent, hkept.key_eq hfound]
  · simp [update, Kind.nameAny_withStatusOf, isStale]
  · simp [create, Kind.nameAny_withStatusOf]
  · have hname : k.nameAny x = k.nameAny o := congrArg ObjectName.name hkey
    simp only [Kind.versionOf] at hversion
    simp [updateStatus, Kind.nameAny_withStatusOf, hkey, hname, hversion]

/-- A cluster with an authenticator and a Deployment that report two replicas. -/
def reported : Cluster :=
  .ofChanges [
    .place .authenticator { Authenticator.gate with status := some ⟨2⟩ },
    .place .deployment {
      metadata := { name := some "web", ns := some "apps" }
      spec := some { replicas := some 1 }, status := some { readyReplicas := some 2 } }]

/-- What is given asks for three replicas and reports nine. An update takes the three and keeps what
was reported; a status update takes the nine and keeps what was asked for; a creation takes the
three and reports nothing. -/
theorem status_written_apart_where_reported :
    let gate : Authenticator :=
      { Authenticator.gate with
        spec := { Authenticator.gate.spec with replicas := 3 }, status := some ⟨9⟩ }
    let web : Deployment := {
      metadata := { name := some "web", ns := some "apps", resourceVersion := some "2" }
      spec := some { replicas := some 3 }, status := some { readyReplicas := some 9 } }
    (∃ stored c', answer (.update .authenticator gate) reported = (.ok stored, c') ∧
      stored.spec = gate.spec ∧ stored.status = some ⟨2⟩ ∧
      answer (.get .authenticator "apps" "gate") c' = (.ok (some stored), c')) ∧
    (∃ stored c', answer (.update .deployment web) reported = (.ok stored, c') ∧
      stored.spec.bind (·.replicas) = some 3 ∧ stored.status = some { readyReplicas := some 2 } ∧
      answer (.get .deployment "apps" "web") c' = (.ok (some stored), c')) ∧
    (∃ stored c', answer (.updateStatus .deployment web) reported = (.ok stored, c') ∧
      stored.spec.bind (·.replicas) = some 1 ∧ stored.status = some { readyReplicas := some 9 } ∧
      answer (.get .deployment "apps" "web") c' = (.ok (some stored), c')) ∧
    ∃ stored c', answer (.create .deployment web) {} = (.ok stored, c') ∧
      stored.spec.bind (·.replicas) = some 3 ∧ stored.status = none ∧
      answer (.get .deployment "apps" "web") c' = (.ok (some stored), c') := by
  intro gate web
  have hreachable : reported.Reachable := reachable_ofChanges _
  have hsees : (reported.get? .deployment ⟨"apps", "web"⟩).map (fun d : Deployment =>
      (d.metadata.resourceVersion, d.spec.bind (·.replicas), d.status)) =
        some (some "2", some 1, some { readyReplicas := some 2 }) := by decide +kernel
  obtain ⟨found, hfound, hsees⟩ := Option.map_eq_some_iff.1 hsees
  simp only [Prod.mk.injEq] at hsees
  obtain ⟨hversion, hreplicas, hstatus⟩ := hsees
  obtain ⟨hupdates, hreports, -⟩ := status_written_apart hreachable .deployment web
  refine ⟨?_, ?_, ?_, ?_⟩
  · have hsees : (reported.get? .authenticator ⟨"apps", "gate"⟩).map
        (fun x : Authenticator => x.status) = some (some ⟨2⟩) := by decide +kernel
    obtain ⟨x, hx, hstatus⟩ := Option.map_eq_some_iff.1 hsees
    obtain ⟨stored, c', -, hupdate, -⟩ := update_of_current (k := .authenticator) (o := gate) hx
      (by decide +kernel) (isStale_eq_false_iff.2 (.inl rfl))
    obtain ⟨y, hy, hstored⟩ :=
      (status_written_apart hreachable .authenticator gate).1 stored c' hupdate
    obtain rfl : x = y := Option.some.inj (hx.symm.trans hy)
    refine ⟨stored, c', hupdate, ?_, ?_, hstored.read⟩
    · rw [hstored.content]
      rfl
    · rw [hstored.content]
      exact hstatus
  · obtain ⟨stored, c', -, hupdate, -⟩ := update_of_current (k := .deployment) (o := web) hfound
      (by decide +kernel) (isStale_eq_false_iff.2 (.inr hversion.symm))
    obtain ⟨y, hy, hstored⟩ := hupdates stored c' hupdate
    obtain rfl : found = y := Option.some.inj (hfound.symm.trans hy)
    refine ⟨stored, c', hupdate, ?_, ?_, hstored.read⟩
    · rw [hstored.content]
      rfl
    · rw [hstored.content]
      exact hstatus
  · obtain ⟨stored, c', -, hupdate, -⟩ := updateStatus_of_current (k := .deployment) (o := web)
      hfound (by decide +kernel) hversion.symm
    obtain ⟨y, hy, hstored⟩ := hreports stored c' hupdate
    obtain rfl : found = y := Option.some.inj (hfound.symm.trans hy)
    refine ⟨stored, c', hupdate, ?_, ?_, hstored.read⟩
    · rw [hstored.content]
      exact hreplicas
    · rw [hstored.content]
      rfl
  · obtain ⟨stored, c', hcreate, -⟩ := create_of_none (c := {}) (k := .deployment) (o := web) rfl
    obtain ⟨-, -, hstored⟩ :=
      (status_written_apart (reachable_ofChanges []) .deployment web).2.2.1 stored c' hcreate
    refine ⟨stored, c', hcreate, ?_, ?_, hstored.read⟩
    · rw [hstored.content]
      rfl
    · rw [hstored.content]
      rfl

end Cluster

end AuthProxy
