import AuthProxy.Cluster.Defaults
import AuthProxy.Program
import AuthProxy.Selector

/-! # A cluster in memory

The objects of all kinds under their names. Every write gives an object a version that no object had
before; a write that is based on an older version is refused. The status is written apart from the
rest of an object. `Cluster.answer` is the cluster as the store that a program runs on.
-/

namespace AuthProxy

/-- The stored objects of a kind. -/
abbrev Table (k : Kind) : Type := SortedMap ObjectName k.Object

/-- The stored objects of all kinds. -/
structure Tables where
  authenticators : Table .authenticator := .empty
  configMaps : Table .configMap := .empty
  deployments : Table .deployment := .empty
  secrets : Table .secret := .empty
deriving DecidableEq, Inhabited

namespace Tables

def table (t : Tables) : (k : Kind) → Table k
  | .authenticator => t.authenticators
  | .configMap => t.configMaps
  | .deployment => t.deployments
  | .secret => t.secrets

def setTable (t : Tables) : (k : Kind) → Table k → Tables
  | .authenticator, m => { t with authenticators := m }
  | .configMap, m => { t with configMaps := m }
  | .deployment, m => { t with deployments := m }
  | .secret, m => { t with secrets := m }

@[simp] theorem table_setTable (t : Tables) (k : Kind) (m : Table k) :
    (t.setTable k m).table k = m := by
  cases k <;> rfl

theorem table_setTable_of_ne (t : Tables) {k j : Kind} (m : Table k) (h : j ≠ k) :
    (t.setTable k m).table j = t.table j := by
  cases k <;> cases j <;> first | rfl | exact absurd rfl h

end Tables

/-- A write that took place. -/
structure Write where
  operation : Operation
  kind : Kind
  name : String
deriving DecidableEq, Repr, Inhabited

def Write.text (w : Write) : String := w.operation.name ++ " " ++ w.kind.name ++ " " ++ w.name

/-- A cluster. -/
structure Cluster where
  tables : Tables := {}
  /-- How many versions were given out. -/
  versions : Nat := 0
  /-- How many uids were given out. -/
  uids : Nat := 0
  /-- The kind of which the next update fails as if it was based on a stale read. -/
  pendingConflict : Option Kind := none
  /-- The writes that took place, in order. -/
  writes : List Write := []
deriving DecidableEq, Inhabited

namespace Cluster

/-- The object stored under a name. -/
def get? (c : Cluster) (k : Kind) (key : ObjectName) : Option k.Object :=
  (c.tables.table k).get? key

/-- Puts an object under its own name. -/
def put (c : Cluster) (k : Kind) (o : k.Object) : Cluster :=
  { c with tables := c.tables.setTable k ((c.tables.table k).insert (k.key o) o) }

/-- What was put is read back under its own name, and nothing else of its kind changes. -/
theorem get?_put (c : Cluster) (k : Kind) (o : k.Object) (key : ObjectName) :
    (c.put k o).get? k key = if key = k.key o then some o else c.get? k key := by
  simp [get?, put, SortedMap.get?_insert]

/-- Objects of other kinds stay as they are. -/
theorem get?_put_of_ne (c : Cluster) {k j : Kind} (o : k.Object) (key : ObjectName) (h : j ≠ k) :
    (c.put k o).get? j key = c.get? j key := by
  simp [get?, put, Tables.table_setTable_of_ne _ _ h]

/-- The objects of a kind in a namespace, by name. -/
def inNamespace (c : Cluster) (k : Kind) (ns : String) : List k.Object :=
  ((c.tables.table k).entries.filter fun e => e.1.ns = ns).map (·.2)

/-! ## Identity and version -/

/-- The object with a uid, a new one unless it has one. -/
def identify (c : Cluster) (k : Kind) (o : k.Object) : k.Object × Cluster :=
  let m := k.metadata o
  match m.uid with
  | some _ => (o, c)
  | none =>
    (k.withMetadata o { m with uid := some ("uid-" ++ toString (c.uids + 1)) },
      { c with uids := c.uids + 1 })

/-- The object with a new version. -/
def stamp (c : Cluster) (k : Kind) (o : k.Object) : k.Object × Cluster :=
  let m := { k.metadata o with resourceVersion := some (toString (c.versions + 1)) }
  (k.withMetadata o m, { c with versions := c.versions + 1 })

/-- A new version does not move an object. -/
theorem key_stamp (c : Cluster) (k : Kind) (o : k.Object) : k.key (c.stamp k o).1 = k.key o := by
  simp [stamp, Kind.key, Kind.nameAny, ObjectMeta.nameAny, ObjectMeta.namespaceAny]

theorem resourceVersion_stamp (c : Cluster) (k : Kind) (o : k.Object) :
    (k.metadata (c.stamp k o).1).resourceVersion = some (toString (c.versions + 1)) := by
  simp [stamp]

/-- Stores an object with a new version. -/
def store (c : Cluster) (k : Kind) (o : k.Object) : k.Object × Cluster :=
  let (o, c) := c.stamp k o
  (o, c.put k o)

/-- Stores an object with a new version and records the write. -/
def write (c : Cluster) (operation : Operation) (k : Kind) (o : k.Object) : k.Object × Cluster :=
  let (stored, c) := c.store k o
  (stored, { c with writes := c.writes ++ [⟨operation, k, k.nameAny o⟩] })

/-! ## Changes from outside -/

/-- Puts an object into the cluster, replacing what was under its name. -/
def place (c : Cluster) (k : Kind) (o : k.Object) : k.Object × Cluster :=
  let (o, c) := c.identify k o
  c.store k o

/-- Lets the next update of the kind fail, if there is one, and no other. -/
def expectConflict (c : Cluster) (k : Option Kind) : Cluster := { c with pendingConflict := k }

/-! ## Calls -/

/-- The selected objects of a namespace. -/
def list (c : Cluster) (k : Kind) (ns : String) (selector : LabelSelector) :
    Except Error (List k.Object) := do
  let s ← selector.checked
  return (c.inNamespace k ns).filter fun o => s.selects (k.metadata o).labelMap

/-- Stores an object that does not exist yet, without a status. -/
def create (c : Cluster) (k : Kind) (o : k.Object) : Except Error k.Object × Cluster :=
  match c.get? k (k.key o) with
  | some _ => (.error (.alreadyExists k.name (k.nameAny o)), c)
  | none =>
    let (o, c) := c.identify k (k.withDefaults (k.withoutStatus o))
    let (stored, c) := c.write .create k o
    (.ok stored, c)

/-- Whether the next update of the kind is to fail, and the cluster in which that is over. -/
def consumeConflict (c : Cluster) (k : Kind) : Bool × Cluster :=
  if c.pendingConflict = some k then (true, { c with pendingConflict := none }) else (false, c)

/-- Whether an object was changed since `given` was read, if that has a version at all. -/
def isStale (k : Kind) (given stored : k.Object) : Bool :=
  (k.metadata given).resourceVersion.isSome &&
    (k.metadata given).resourceVersion != (k.metadata stored).resourceVersion

/-- Replaces an object, except for its status. Without a version the object is replaced whatever
version is stored. -/
def update (c : Cluster) (k : Kind) (o : k.Object) : Except Error k.Object × Cluster :=
  match c.get? k (k.key o) with
  | none => (.error (.notFound k.name (k.nameAny o)), c)
  | some found =>
    let (conflict, c) := c.consumeConflict k
    if conflict || isStale k o found then (.error (.conflict k.name (k.nameAny o)), c)
    else
      let (stored, c) := c.write .update k (k.withDefaults (k.withStatusOf found o))
      (.ok stored, c)

/-- Replaces the status of an object and nothing else. The version has to be given. -/
def updateStatus (c : Cluster) (k : Kind) (o : k.Object) : Except Error k.Object × Cluster :=
  match c.get? k (k.key o) with
  | none => (.error (.notFound k.name (k.nameAny o)), c)
  | some found =>
    let (conflict, c) := c.consumeConflict k
    if conflict || (k.metadata o).resourceVersion != (k.metadata found).resourceVersion then
      (.error (.conflict k.name (k.nameAny o)), c)
    else
      let (stored, c) := c.write .updateStatus k (k.withStatusOf o found)
      (.ok stored, c)

/-- The cluster as a store. -/
def answer : Store Cluster
  | .get k ns name, c => (.ok (c.get? k ⟨ns, name⟩), c)
  | .list k ns selector, c => (c.list k ns selector, c)
  | .create k o, c => c.create k o
  | .update k o, c => c.update k o
  | .updateStatus k o, c => c.updateStatus k o

end Cluster

end AuthProxy
