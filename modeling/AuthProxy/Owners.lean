import AuthProxy.Kind

/-! # Owners

References from dependent objects to the object they belong to. Owners are told apart by their uid
alone. Removing dependents of a removed owner is the cluster's work.
-/

namespace AuthProxy

namespace Kind

/-- The reference to an object of the kind as the controlling owner, which needs its name and its
uid. -/
def ownerReference? (k : Kind) (owner : ObjectMeta) : Option OwnerReference := do
  let name ← owner.name
  let uid ← owner.uid
  return { apiVersion := k.apiVersion, controller := some true, kind := k.name, name, uid }

end Kind

namespace ObjectMeta

/-- Whether one of the references has the uid of `owner`. -/
def belongsTo (m owner : ObjectMeta) : Bool :=
  match owner.uid with
  | some uid => m.owners.any (fun r => r.uid = uid)
  | none => false

/-- Adds a reference unless its owner is already there. -/
def addOwner (m : ObjectMeta) (r : OwnerReference) : ObjectMeta :=
  if m.owners.any (fun s => s.uid = r.uid) then { m with ownerReferences := some m.owners }
  else { m with ownerReferences := some (m.owners ++ [r]) }

/-- Declares an object of kind `k` as the owner. -/
def declareOwner (m : ObjectMeta) (k : Kind) (owner : ObjectMeta) : Except Error ObjectMeta :=
  match k.ownerReference? owner with
  | some r => .ok (m.addOwner r)
  | none => .error (.missingKey ".metadata.uid")

/-- Declares an object of kind `k` as the owner of what the metadata in hand describe. They are
changed only once the reference is known. -/
def attachOwner (k : Kind) (owner : ObjectMeta) : ExceptT Error (StateM ObjectMeta) Unit := do
  let some r := k.ownerReference? owner | throw (.missingKey ".metadata.uid")
  modify (·.addOwner r)

/-- How attaching an owner to an object with the metadata ends, and what they are afterwards. -/
def attach (m : ObjectMeta) (k : Kind) (owner : ObjectMeta) : Except Error Unit × ObjectMeta :=
  (attachOwner k owner).run.run m

end ObjectMeta

end AuthProxy
