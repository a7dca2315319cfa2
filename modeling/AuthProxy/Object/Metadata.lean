import AuthProxy.SortedMap

/-! # Object metadata

What every stored object carries besides its content: its name and namespace, labels and
annotations, the uid and the version that the store gives it, and references to its owners. Times of
creation and deletion, and who manages which field, are left out: nothing here reads them.
-/

namespace AuthProxy

/-- Labels and annotations. -/
abbrev Labels := StringMap String

/-- A reference from an object to one that owns it. -/
structure OwnerReference where
  apiVersion : String := ""
  blockOwnerDeletion : Option Bool := none
  controller : Option Bool := none
  kind : String := ""
  name : String := ""
  uid : String := ""
deriving DecidableEq, Repr, Inhabited

/-- The metadata of an object. Each part may be absent. -/
structure ObjectMeta where
  annotations : Option Labels := none
  finalizers : Option (List String) := none
  generateName : Option String := none
  generation : Option Int64 := none
  labels : Option Labels := none
  name : Option String := none
  ns : Option String := none
  ownerReferences : Option (List OwnerReference) := none
  resourceVersion : Option String := none
  uid : Option String := none
deriving DecidableEq, Repr, Inhabited

namespace ObjectMeta

/-- The name, or what a name is generated from. -/
def nameAny (m : ObjectMeta) : String := (m.name.orElse fun _ => m.generateName).getD ""

/-- The namespace, or the empty text. -/
def namespaceAny (m : ObjectMeta) : String := m.ns.getD ""

/-- The annotation under `k`. -/
def annotation? (m : ObjectMeta) (k : String) : Option String := m.annotations.bind (·.get? k)

/-- Sets an annotation, keeping the others. -/
def annotate (m : ObjectMeta) (k v : String) : ObjectMeta :=
  { m with annotations := some ((m.annotations.getD .empty).insert k v) }

/-- The labels; none at all if the object carries no label map. -/
def labelMap (m : ObjectMeta) : Labels := m.labels.getD .empty

/-- The references to owners. -/
def owners (m : ObjectMeta) : List OwnerReference := m.ownerReferences.getD []

end ObjectMeta

end AuthProxy
