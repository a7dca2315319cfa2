import AuthProxy.Proofs.Pass.Independent
import AuthProxy.Proofs.Program.Recorded

/-! # Selectors that are not consulted

The same cluster with another selector in one authenticator. If that is a standalone one with a
fixed number of replicas, its passes are the same in both clusters and leave them the same, but for
the selector.
-/

namespace AuthProxy

/-- The authenticator with another selector. -/
def Authenticator.withSelector (a : Authenticator) (s : LabelSelector) : Authenticator :=
  { a with spec := { a.spec with selector := s } }

namespace Kind

variable {key : ObjectName} {s : LabelSelector}

/-- The object, with another selector if it is the authenticator at `key`. -/
def reselect (key : ObjectName) (s : LabelSelector) : (k : Kind) → k.Object → k.Object
  | .authenticator, a => if authenticator.key a = key then a.withSelector s else a
  | .configMap, c => c
  | .deployment, d => d
  | .secret, o => o

theorem reselect_of_key {a : Authenticator} (h : authenticator.key a = key) :
    authenticator.reselect key s a = a.withSelector s := if_pos h

/-- What neither moves an authenticator nor looks at its selector may come first or last. -/
theorem reselect_comm (f : Authenticator → Authenticator)
    (hkey : ∀ a, authenticator.key (f a) = authenticator.key a)
    (hselector : ∀ a, f (a.withSelector s) = (f a).withSelector s) (a : Authenticator) :
    authenticator.reselect key s (f a) = f (authenticator.reselect key s a) := by
  simp only [reselect, hkey]
  split
  · exact (hselector a).symm
  · rfl

variable (k : Kind) (o x : k.Object)

@[simp] theorem metadata_reselect : k.metadata (k.reselect key s o) = k.metadata o := by
  cases k with
  | authenticator =>
    show Authenticator.metadata (if authenticator.key o = key then _ else o) = _
    split <;> rfl
  | configMap | deployment | secret => rfl

@[simp] theorem key_reselect : k.key (k.reselect key s o) = k.key o := by
  apply key_congr <;> simp

@[simp] theorem nameAny_reselect : k.nameAny (k.reselect key s o) = k.nameAny o :=
  congrArg ObjectName.name (key_reselect k o)

theorem reselect_withVersion (v : Option String) :
    k.reselect key s (k.withVersion o v) = k.withVersion (k.reselect key s o) v := by
  cases k with
  | authenticator =>
    exact reselect_comm (authenticator.withVersion · v) (fun _ => rfl) (fun _ => rfl) o
  | configMap | deployment | secret => rfl

theorem reselect_withUid (u : Option String) :
    k.reselect key s (k.withUid o u) = k.withUid (k.reselect key s o) u := by
  cases k with
  | authenticator =>
    exact reselect_comm (authenticator.withUid · u) (fun _ => rfl) (fun _ => rfl) o
  | configMap | deployment | secret => rfl

theorem reselect_withoutStatus :
    k.reselect key s (k.withoutStatus o) = k.withoutStatus (k.reselect key s o) := by
  cases k with
  | authenticator => exact reselect_comm authenticator.withoutStatus (fun _ => rfl) (fun _ => rfl) o
  | configMap | deployment | secret => rfl

theorem reselect_withStatusOf :
    k.reselect key s (k.withStatusOf x o) =
      k.withStatusOf (k.reselect key s x) (k.reselect key s o) := by
  cases k with
  | authenticator =>
    have hsource : ∀ y, authenticator.withStatusOf (authenticator.reselect key s x) y =
        authenticator.withStatusOf x y := by
      intro y
      show authenticator.withStatusOf (if authenticator.key x = key then _ else x) y = _
      split <;> rfl
    rw [hsource]
    exact reselect_comm (authenticator.withStatusOf x) (fun _ => rfl) (fun _ => rfl) o
  | configMap | deployment | secret => rfl

theorem reselect_withDefaults :
    k.reselect key s (k.withDefaults o) = k.withDefaults (k.reselect key s o) := by
  cases k <;> rfl

end Kind

namespace Cluster

/-- The cluster with another selector in the authenticator at `key`. -/
def reselect (key : ObjectName) (s : LabelSelector) (c : Cluster) : Cluster :=
  { c with
    tables := { c.tables with
      authenticators := c.tables.authenticators.mapValues (Kind.authenticator.reselect key s) } }

variable {key : ObjectName} {s : LabelSelector} (c : Cluster) (k : Kind) (o : k.Object)

theorem table_reselect :
    (c.reselect key s).tables.table k = (c.tables.table k).mapValues (k.reselect key s) := by
  cases k with
  | authenticator => rfl
  | configMap | deployment | secret =>
    apply SortedMap.ext_get?
    intro x
    rw [SortedMap.get?_mapValues]
    exact (Option.map_id' ..).symm

theorem get?_reselect (x : ObjectName) :
    (c.reselect key s).get? k x = (c.get? k x).map (k.reselect key s) := by
  rw [get?, table_reselect, SortedMap.get?_mapValues, get?]

theorem put_reselect :
    (c.reselect key s).put k (k.reselect key s o) = (c.put k o).reselect key s := by
  have hinsert : ∀ (m : Table .authenticator) (x : Authenticator),
      (m.mapValues (Kind.authenticator.reselect key s)).insert (Kind.authenticator.key x)
          (Kind.authenticator.reselect key s x) =
        (m.insert (Kind.authenticator.key x) x).mapValues
          (Kind.authenticator.reselect key s) := by
    intro m x
    apply SortedMap.ext_get?
    intro y
    simp only [SortedMap.get?_insert, SortedMap.get?_mapValues]
    split <;> rfl
  cases k with
  | authenticator =>
    simp only [put, Kind.key_reselect]
    simp only [reselect, Tables.setTable, Tables.table, hinsert]
  | configMap | deployment | secret => rfl

theorem identify_reselect :
    (c.reselect key s).identify k (k.reselect key s o) =
      (k.reselect key s (c.identify k o).1, (c.identify k o).2.reselect key s) := by
  simp only [identify, Kind.metadata_reselect]
  cases huid : (k.metadata o).uid with
  | some u => rfl
  | none =>
    have hnew : ∀ u, k.reselect key s (k.withUid o u) = k.withUid (k.reselect key s o) u :=
      k.reselect_withUid o
    simp only [Kind.withUid, Kind.metadata_reselect] at hnew
    simp only [hnew]
    rfl

theorem write_reselect (operation : Operation) :
    (c.reselect key s).write operation k (k.reselect key s o) =
      (k.reselect key s (c.write operation k o).1,
        (c.write operation k o).2.reselect key s) := by
  have hstamp : (c.reselect key s).stamp k (k.reselect key s o) =
      (k.reselect key s (c.stamp k o).1, (c.stamp k o).2.reselect key s) := by
    have hnew : ∀ v, k.reselect key s (k.withVersion o v) = k.withVersion (k.reselect key s o) v :=
      k.reselect_withVersion o
    simp only [Kind.withVersion, Kind.metadata_reselect] at hnew
    simp only [stamp, Kind.metadata_reselect, hnew]
    rfl
  simp only [write, store, hstamp, put_reselect, Kind.nameAny_reselect]
  rfl

theorem consumeConflict_reselect :
    (c.reselect key s).consumeConflict k =
      ((c.consumeConflict k).1, (c.consumeConflict k).2.reselect key s) := by
  unfold consumeConflict
  by_cases h : c.pendingConflict = some k
  · rw [if_pos h, if_pos (show (c.reselect key s).pendingConflict = some k from h)]
    rfl
  · rw [if_neg h, if_neg (show ¬ (c.reselect key s).pendingConflict = some k from h)]

/-- What a write ends with in the cluster with the other selector. -/
def reselected (key : ObjectName) (s : LabelSelector) (k : Kind)
    (r : Except Error k.Object × Cluster) : Except Error k.Object × Cluster :=
  (r.1.map (k.reselect key s), r.2.reselect key s)

theorem create_reselect :
    (c.reselect key s).create k (k.reselect key s o) = reselected key s k (c.create k o) := by
  simp only [create, Kind.key_reselect, Kind.nameAny_reselect, get?_reselect]
  cases c.get? k (k.key o) with
  | some found => rfl
  | none =>
    simp only [Option.map_none, ← Kind.reselect_withoutStatus, ← Kind.reselect_withDefaults,
      identify_reselect, write_reselect]
    rfl

theorem update_reselect :
    (c.reselect key s).update k (k.reselect key s o) = reselected key s k (c.update k o) := by
  simp only [update, Kind.key_reselect, Kind.nameAny_reselect, get?_reselect]
  cases c.get? k (k.key o) with
  | none => rfl
  | some found =>
    have hstale : isStale k (k.reselect key s o) (k.reselect key s found) = isStale k o found := by
      simp only [isStale, Kind.metadata_reselect]
    simp only [Option.map_some, consumeConflict_reselect, hstale, ← Kind.reselect_withStatusOf,
      ← Kind.reselect_withDefaults, write_reselect]
    split <;> rfl

theorem updateStatus_reselect :
    (c.reselect key s).updateStatus k (k.reselect key s o) =
      reselected key s k (c.updateStatus k o) := by
  simp only [updateStatus, Kind.key_reselect, Kind.nameAny_reselect, Kind.metadata_reselect,
    get?_reselect]
  cases c.get? k (k.key o) with
  | none => rfl
  | some found =>
    simp only [Option.map_some, consumeConflict_reselect, Kind.metadata_reselect,
      ← Kind.reselect_withStatusOf, write_reselect]
    split <;> rfl

end Cluster

namespace Program

variable {key : ObjectName} {s : LabelSelector} {α β : Type}

/-- In the cluster with the other selector `p'` does what `p` does in the cluster as it is. -/
def Mirrors (key : ObjectName) (s : LabelSelector) (p p' : Program α) : Prop :=
  ∀ c, p'.run Cluster.answer (c.reselect key s) =
    { p.run Cluster.answer c with store := (p.run Cluster.answer c).store.reselect key s }

theorem mirrors_pure (x : α) : Mirrors key s (pure x) (pure x) := fun _ => rfl

theorem mirrors_fail (e : Error) : Mirrors key s (fail e : Program α) (fail e) := fun _ => rfl

theorem mirrors_tell {n : Notice} {p p' : Unit → Program α} (h : Mirrors key s (p ()) (p' ())) :
    Mirrors key s (tell n >>= p) (tell n >>= p') := by
  intro c
  show Program.run Cluster.answer (note n (p' ())) (c.reselect key s) = _
  rw [run, h c]
  rfl

theorem Mirrors.bind {p p' : Program α} {f f' : α → Program β} (h : Mirrors key s p p')
    (hf : ∀ x, Mirrors key s (f x) (f' x)) : Mirrors key s (p >>= f) (p' >>= f') := by
  intro c
  rw [run_bind, run_bind, h c]
  cases (p.run Cluster.answer c).result with
  | error e => rfl
  | ok x => simp only [hf x _]

theorem mirrors_lift (x : Except Error α) {f f' : α → Program β}
    (hf : ∀ y, Mirrors key s (f y) (f' y)) :
    Mirrors key s ((liftM x : Program α) >>= f) ((liftM x : Program α) >>= f') := by
  cases x with
  | error e => exact mirrors_fail e
  | ok y => exact hf y

theorem mirrors_get {k : Kind} {ns name : String} {f f' : Option k.Object → Program β}
    (hf : ∀ x, Mirrors key s (f x) (f' (x.map (k.reselect key s)))) :
    Mirrors key s (ask (.get k ns name) >>= f) (ask (.get k ns name) >>= f') := by
  intro c
  have hget : Cluster.answer (.get k ns name) (c.reselect key s) =
      (.ok ((c.get? k ⟨ns, name⟩).map (k.reselect key s)), c.reselect key s) := by
    rw [← Cluster.get?_reselect]
    rfl
  rw [run_ask_of_ok hget, hf _ c]
  rfl

/-- How an attempt ends, given how the write ended. -/
def attemptEnd {σ γ : Type} (s : σ) : Except Error γ → Run σ Bool
  | .ok _ => ⟨.ok true, [], s⟩
  | .error e => if e.isLostRace then ⟨.ok false, [.writeLost e], s⟩ else ⟨.error e, [], s⟩

theorem run_attempt_eq {σ : Type} (store : Store σ) (q : Call) (s : σ) :
    (attempt q).run store s = attemptEnd (store q s).2 (store q s).1 := by
  simp only [attempt, run]
  cases (store q s).1 with
  | ok x => rfl
  | error e =>
    simp only [attemptEnd]
    split <;> rfl

/-- What a write returns makes no difference. -/
theorem attemptEnd_reselected {k : Kind} (r : Except Error k.Object × Cluster) :
    attemptEnd (Cluster.reselected key s k r).2 (Cluster.reselected key s k r).1 =
      { attemptEnd r.2 r.1 with store := (attemptEnd r.2 r.1).store.reselect key s } := by
  rcases r with ⟨e | x, c⟩
  · show attemptEnd (c.reselect key s) (Except.error e : Except Error k.Object) = _
    simp only [attemptEnd]
    split <;> rfl
  · rfl

variable {k : Kind} {o o' : k.Object} {f f' : Bool → Program β}

theorem mirrors_create (ho : k.reselect key s o = o') (hf : ∀ x, Mirrors key s (f x) (f' x)) :
    Mirrors key s (attempt (.create k o) >>= f) (attempt (.create k o') >>= f') := by
  subst ho
  refine Mirrors.bind (fun c => ?_) hf
  rw [run_attempt_eq, run_attempt_eq, Cluster.answer_create, Cluster.answer_create,
    Cluster.create_reselect]
  exact attemptEnd_reselected _

theorem mirrors_update (ho : k.reselect key s o = o') (hf : ∀ x, Mirrors key s (f x) (f' x)) :
    Mirrors key s (attempt (.update k o) >>= f) (attempt (.update k o') >>= f') := by
  subst ho
  refine Mirrors.bind (fun c => ?_) hf
  rw [run_attempt_eq, run_attempt_eq, Cluster.answer_update, Cluster.answer_update,
    Cluster.update_reselect]
  exact attemptEnd_reselected _

theorem mirrors_updateStatus (ho : k.reselect key s o = o')
    (hf : ∀ x, Mirrors key s (f x) (f' x)) :
    Mirrors key s (attempt (.updateStatus k o) >>= f) (attempt (.updateStatus k o') >>= f') := by
  subst ho
  refine Mirrors.bind (fun c => ?_) hf
  rw [run_attempt_eq, run_attempt_eq, Cluster.answer_updateStatus, Cluster.answer_updateStatus,
    Cluster.updateStatus_reselect]
  exact attemptEnd_reselected _

theorem Mirrors.thenStep {α : Type} {step step' : Program (Progress α)}
    {rest rest' : α → Program Outcome} (h : Mirrors key s step step')
    (hrest : ∀ x, Mirrors key s (rest x) (rest' x)) :
    Mirrors key s (step.thenStep rest) (step'.thenStep rest') := by
  refine h.bind fun x => ?_
  cases x with
  | proceed value => exact hrest value
  | requeue reason => exact mirrors_pure _

end Program

namespace Authenticator

open Program

variable {a : Authenticator} {settings : Settings} {fresh : Credentials} {key : ObjectName}
  {s : LabelSelector} {ns secret map : String}

theorem createConfigMap_mirrors {α : Type} (desired : ConfigMap) (object : ObjectName) :
    Mirrors key s (createConfigMap desired object : Program (Progress α))
      (createConfigMap desired object) := by
  refine mirrors_create (k := .configMap) rfl fun x => ?_
  cases x with
  | true => exact mirrors_tell (mirrors_pure _)
  | false => exact mirrors_pure _

theorem configurationStep_mirrors :
    Mirrors key s (a.configurationStep settings)
      ((a.withSelector s).configurationStep settings) := by
  refine mirrors_lift _ fun ns => mirrors_lift _ fun desired => ?_
  refine mirrors_get (k := .configMap) fun x => ?_
  cases x with
  | none => exact createConfigMap_mirrors desired _
  | some found =>
    have howns : (a.withSelector s).owns found.metadata = a.owns found.metadata := rfl
    simp only [Option.map_some, Kind.reselect, howns]
    split
    · exact mirrors_fail _
    split
    · exact mirrors_pure _
    refine mirrors_tell (mirrors_update (k := .configMap) rfl fun x => ?_)
    cases x <;> exact mirrors_pure _

theorem setReference_mirrors (hkey : Kind.authenticator.key a = key) (name : String)
    (reason : Requeue) :
    Mirrors key s (a.setReference name reason) ((a.withSelector s).setReference name reason) := by
  refine mirrors_lift _ fun ns => ?_
  have hupdated : Kind.authenticator.reselect key s (a.referring name) =
      (a.referring name).withSelector s := Kind.reselect_of_key hkey
  refine mirrors_update (k := .authenticator) hupdated fun x => ?_
  cases x with
  | false => exact mirrors_pure _
  | true =>
    refine mirrors_tell (mirrors_get (k := .secret) fun x => ?_)
    cases x with
    | none => exact mirrors_tell (mirrors_pure _)
    | some secret => exact mirrors_pure _

theorem useReferenced_mirrors (ns name : String) :
    Mirrors key s (useReferenced ns name) (useReferenced ns name) := by
  refine mirrors_get (k := .secret) fun x => ?_
  cases x with
  | none => exact mirrors_tell (mirrors_pure _)
  | some secret =>
    simp only [Option.map_some, Kind.reselect]
    split
    · exact mirrors_tell (mirrors_pure _)
    · exact mirrors_pure _

theorem credentialsStep_mirrors (hkey : Kind.authenticator.key a = key) :
    Mirrors key s (a.credentialsStep fresh) ((a.withSelector s).credentialsStep fresh) := by
  refine mirrors_lift _ fun ns => ?_
  have hreference : (a.withSelector s).hasReference = a.hasReference := rfl
  simp only [hreference]
  split
  · exact useReferenced_mirrors ns _
  refine mirrors_get (k := .secret) fun x => ?_
  cases x with
  | none =>
    refine mirrors_lift _ fun secret => mirrors_create (k := .secret) rfl fun x => ?_
    cases x with
    | true => exact mirrors_tell (setReference_mirrors hkey _ _)
    | false => exact mirrors_pure _
  | some secret =>
    have howns : (a.withSelector s).owns secret.metadata = a.owns secret.metadata := rfl
    simp only [Option.map_some, Kind.reselect, howns]
    split
    · exact mirrors_tell (setReference_mirrors hkey _ _)
    · exact mirrors_fail _

theorem createDeployment_mirrors {α : Type} (desired : Deployment) (object : ObjectName) :
    Mirrors key s (createDeployment desired object : Program (Progress α))
      (createDeployment desired object) := by
  refine mirrors_create (k := .deployment) rfl fun x => ?_
  cases x with
  | true => exact mirrors_tell (mirrors_pure _)
  | false => exact mirrors_pure _

/-- A standalone step with a fixed number of replicas does not read the selector at all. -/
theorem standaloneStep_withSelector (hfixed : a.spec.adaptiveScale = false) :
    (a.withSelector s).standaloneStep secret map settings =
      a.standaloneStep secret map settings := by
  have hchoice : (a.withSelector s).chooseReplicas = a.chooseReplicas := by
    rw [chooseReplicas_of_fixed hfixed, chooseReplicas_of_fixed (a := a.withSelector s) hfixed]
    rfl
  simp only [standaloneStep, hchoice]
  rfl

theorem standaloneStep_mirrors (hfixed : a.spec.adaptiveScale = false) :
    Mirrors key s (a.standaloneStep secret map settings)
      ((a.withSelector s).standaloneStep secret map settings) := by
  rw [standaloneStep_withSelector hfixed]
  refine mirrors_lift _ fun ns => ?_
  rw [chooseReplicas_of_fixed hfixed]
  refine (mirrors_pure _).bind fun n => mirrors_lift _ fun desired => ?_
  refine mirrors_get (k := .deployment) fun x => ?_
  cases x with
  | none => exact createDeployment_mirrors desired _
  | some found =>
    simp only [Option.map_some, Kind.reselect]
    split
    · exact mirrors_fail _
    split
    · exact mirrors_pure _
    refine mirrors_tell (mirrors_update (k := .deployment) rfl fun x => ?_)
    cases x <;> exact mirrors_pure _

theorem reportStep_mirrors (hkey : Kind.authenticator.key a = key) (n : Int32) :
    Mirrors key s (a.reportStep n) ((a.withSelector s).reportStep n) := by
  have hreported : (a.withSelector s).reportedReady = a.reportedReady := rfl
  have hstatus : (a.withSelector s).status = a.status := rfl
  have hupdated : Kind.authenticator.reselect key s (a.reporting n) =
      (a.reporting n).withSelector s := Kind.reselect_of_key hkey
  unfold reportStep
  rw [hreported, hstatus]
  split
  · exact mirrors_pure _
  refine mirrors_updateStatus (k := .authenticator) hupdated fun x => ?_
  cases x with
  | true => exact mirrors_tell (mirrors_pure _)
  | false => exact mirrors_pure _

/-! ## A whole pass -/

/-- **The selector of a standalone authenticator with a fixed number of replicas makes no
difference.** With another selector a pass ends in the same way, tells the same, and leaves the
cluster the same but for the selector. -/
theorem pass_reselect {c : Cluster} (hc : c.WellKept) (hget : c.get? .authenticator key = some a)
    (alone : a.spec.mode = .standalone) (hfixed : a.spec.adaptiveScale = false) :
    (pass settings key.ns key.name fresh).run Cluster.answer (c.reselect key s) =
      { (pass settings key.ns key.name fresh).run Cluster.answer c with
        store := ((pass settings key.ns key.name fresh).run Cluster.answer c).store.reselect
          key s } := by
  have hkey := hc.key_eq hget
  have hconverge : Mirrors key s (a.converge settings fresh)
      ((a.withSelector s).converge settings fresh) := by
    refine (credentialsStep_mirrors hkey).thenStep fun secret => ?_
    refine configurationStep_mirrors.thenStep fun map => ?_
    rw [proxyStep_of_standalone alone, proxyStep_of_standalone (a := a.withSelector s) alone]
    refine (standaloneStep_mirrors hfixed).thenStep fun ready => ?_
    exact (reportStep_mirrors hkey ready).thenStep fun _ => mirrors_pure _
  have hfound : Cluster.answer (.get .authenticator key.ns key.name) c = (.ok (some a), c) := by
    rw [← hget]
    rfl
  have hfound' : Cluster.answer (.get .authenticator key.ns key.name) (c.reselect key s) =
      (.ok (some (a.withSelector s)), c.reselect key s) := by
    rw [← Kind.reselect_of_key hkey, ← Option.map_some, ← hget, ← Cluster.get?_reselect]
    rfl
  rw [pass, run_ask_of_ok hfound, run_ask_of_ok hfound']
  exact hconverge c

end Authenticator

end AuthProxy
