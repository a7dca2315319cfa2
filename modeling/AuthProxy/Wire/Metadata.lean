import AuthProxy.Json.Read
import AuthProxy.Json.Write
import AuthProxy.Object.LabelSelector

/-! # Metadata and label selectors in documents

Members that are absent or null are left out of the value, unknown members are dropped, and of equal
keys the last one counts. Writing leaves out what is absent.
-/

namespace AuthProxy

open Json

variable {ν : Type} [Source ν]

namespace OwnerReference

def setMember (r : OwnerReference) (k : String) (v : ν) : Read OwnerReference :=
  match k with
  | "apiVersion" => return { r with apiVersion := (← readOption readString v).getD "" }
  | "blockOwnerDeletion" => return { r with blockOwnerDeletion := ← readOption readBool v }
  | "controller" => return { r with controller := ← readOption readBool v }
  | "kind" => return { r with kind := (← readOption readString v).getD "" }
  | "name" => return { r with name := (← readOption readString v).getD "" }
  | "uid" => return { r with uid := (← readOption readString v).getD "" }
  | _ => return r

def read : ν → Read OwnerReference := foldObject "OwnerReference" {} setMember

def write (r : OwnerReference) : Json :=
  ofMembers [
    ("apiVersion", some (.str r.apiVersion)),
    ("blockOwnerDeletion", r.blockOwnerDeletion.map .bool),
    ("controller", r.controller.map .bool),
    ("kind", some (.str r.kind)),
    ("name", some (.str r.name)),
    ("uid", some (.str r.uid))]

end OwnerReference

namespace ObjectMeta

def setMember (m : ObjectMeta) (k : String) (v : ν) : Read ObjectMeta :=
  match k with
  | "annotations" => return { m with annotations := ← readOption (readMap readString) v }
  | "finalizers" => return { m with finalizers := ← readOption (readList readString) v }
  | "generateName" => return { m with generateName := ← readOption readString v }
  | "generation" => return { m with generation := ← readOption readInt64 v }
  | "labels" => return { m with labels := ← readOption (readMap readString) v }
  | "name" => return { m with name := ← readOption readString v }
  | "namespace" => return { m with ns := ← readOption readString v }
  | "ownerReferences" =>
    return { m with ownerReferences := ← readOption (readList OwnerReference.read) v }
  | "resourceVersion" => return { m with resourceVersion := ← readOption readString v }
  | "uid" => return { m with uid := ← readOption readString v }
  | _ => return m

def read : ν → Read ObjectMeta := foldObject "ObjectMeta" {} setMember

def write (m : ObjectMeta) : Json :=
  ofMembers [
    ("annotations", m.annotations.map ofTexts),
    ("finalizers", m.finalizers.map ofStrings),
    ("generateName", m.generateName.map .str),
    ("generation", m.generation.map ofInt64),
    ("labels", m.labels.map ofTexts),
    ("name", m.name.map .str),
    ("namespace", m.ns.map .str),
    ("ownerReferences", m.ownerReferences.map (ofList OwnerReference.write)),
    ("resourceVersion", m.resourceVersion.map .str),
    ("uid", m.uid.map .str)]

end ObjectMeta

namespace LabelRequirement

def setMember (r : LabelRequirement) (k : String) (v : ν) : Read LabelRequirement :=
  match k with
  | "key" => return { r with key := (← readOption readString v).getD "" }
  | "operator" => return { r with operator := (← readOption readString v).getD "" }
  | "values" => return { r with values := ← readOption (readList readString) v }
  | _ => return r

def read : ν → Read LabelRequirement := foldObject "LabelSelectorRequirement" {} setMember

def write (r : LabelRequirement) : Json :=
  ofMembers [
    ("key", some (.str r.key)),
    ("operator", some (.str r.operator)),
    ("values", r.values.map ofStrings)]

end LabelRequirement

namespace LabelSelector

def setMember (s : LabelSelector) (k : String) (v : ν) : Read LabelSelector :=
  match k with
  | "matchExpressions" =>
    return { s with matchExpressions := ← readOption (readList LabelRequirement.read) v }
  | "matchLabels" => return { s with matchLabels := ← readOption (readMap readString) v }
  | _ => return s

def read : ν → Read LabelSelector := foldObject "LabelSelector" {} setMember

def write (s : LabelSelector) : Json :=
  ofMembers [
    ("matchExpressions", s.matchExpressions.map (ofList LabelRequirement.write)),
    ("matchLabels", s.matchLabels.map ofTexts)]

end LabelSelector

end AuthProxy
