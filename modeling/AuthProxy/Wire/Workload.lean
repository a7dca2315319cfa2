import AuthProxy.Object.Data
import AuthProxy.Object.Deployment
import AuthProxy.Wire.Pod

/-! # Deployments, Secrets and ConfigMaps in documents

Whole objects name their API version and kind. A document may leave both out, but where it gives one
it has to be the right one. A Deployment specification always writes its selector and its template.
-/

namespace AuthProxy

open Json

variable {ν : Type} [Source ν]

namespace RolloutStrategy

def setMember (s : RolloutStrategy) (k : String) (v : ν) : Read RolloutStrategy :=
  match k with
  | "type" => return { s with type := ← readOption readString v }
  | _ => return s

def read : ν → Read RolloutStrategy := foldObject "DeploymentStrategy" {} setMember

def write (s : RolloutStrategy) : Json := ofMembers [("type", s.type.map .str)]

end RolloutStrategy

namespace DeploymentSpec

def setMember (s : DeploymentSpec) (k : String) (v : ν) : Read DeploymentSpec :=
  match k with
  | "paused" => return { s with paused := ← readOption readBool v }
  | "progressDeadlineSeconds" =>
    return { s with progressDeadlineSeconds := ← readOption readInt32 v }
  | "replicas" => return { s with replicas := ← readOption readInt32 v }
  | "revisionHistoryLimit" => return { s with revisionHistoryLimit := ← readOption readInt32 v }
  | "selector" => return { s with selector := (← readOption LabelSelector.read v).getD {} }
  | "strategy" => return { s with strategy := ← readOption RolloutStrategy.read v }
  | "template" => return { s with template := (← readOption PodTemplate.read v).getD {} }
  | _ => return s

def read : ν → Read DeploymentSpec := foldObject "DeploymentSpec" {} setMember

def write (s : DeploymentSpec) : Json :=
  ofMembers [
    ("paused", s.paused.map .bool),
    ("progressDeadlineSeconds", s.progressDeadlineSeconds.map ofInt32),
    ("replicas", s.replicas.map ofInt32),
    ("revisionHistoryLimit", s.revisionHistoryLimit.map ofInt32),
    ("selector", some s.selector.write),
    ("strategy", s.strategy.map RolloutStrategy.write),
    ("template", some s.template.write)]

end DeploymentSpec

namespace DeploymentStatus

def setMember (s : DeploymentStatus) (k : String) (v : ν) : Read DeploymentStatus :=
  match k with
  | "readyReplicas" => return { s with readyReplicas := ← readOption readInt32 v }
  | "replicas" => return { s with replicas := ← readOption readInt32 v }
  | _ => return s

def read : ν → Read DeploymentStatus := foldObject "DeploymentStatus" {} setMember

def write (s : DeploymentStatus) : Json :=
  ofMembers [
    ("readyReplicas", s.readyReplicas.map ofInt32),
    ("replicas", s.replicas.map ofInt32)]

end DeploymentStatus

namespace Deployment

def apiVersion : String := "apps/v1"

def kindName : String := "Deployment"

def setMember (d : Deployment) (k : String) (v : ν) : Read Deployment :=
  match k with
  | "apiVersion" => do readFixed apiVersion v; return d
  | "kind" => do readFixed kindName v; return d
  | "metadata" => return { d with metadata := (← readOption ObjectMeta.read v).getD {} }
  | "spec" => return { d with spec := ← readOption DeploymentSpec.read v }
  | "status" => return { d with status := ← readOption DeploymentStatus.read v }
  | _ => return d

def read : ν → Read Deployment := foldObject kindName {} setMember

def write (d : Deployment) : Json :=
  ofMembers [
    ("apiVersion", some (.str apiVersion)),
    ("kind", some (.str kindName)),
    ("metadata", some d.metadata.write),
    ("spec", d.spec.map DeploymentSpec.write),
    ("status", d.status.map DeploymentStatus.write)]

end Deployment

namespace Secret

def apiVersion : String := "v1"

def kindName : String := "Secret"

def setMember (s : Secret) (k : String) (v : ν) : Read Secret :=
  match k with
  | "apiVersion" => do readFixed apiVersion v; return s
  | "data" => return { s with data := ← readOption (readMap readBytes) v }
  | "immutable" => return { s with immutable := ← readOption readBool v }
  | "kind" => do readFixed kindName v; return s
  | "metadata" => return { s with metadata := (← readOption ObjectMeta.read v).getD {} }
  | "stringData" => return { s with stringData := ← readOption (readMap readString) v }
  | "type" => return { s with type := ← readOption readString v }
  | _ => return s

def read : ν → Read Secret := foldObject kindName {} setMember

def write (s : Secret) : Json :=
  ofMembers [
    ("apiVersion", some (.str apiVersion)),
    ("data", s.data.map (ofMap ofBytes)),
    ("immutable", s.immutable.map .bool),
    ("kind", some (.str kindName)),
    ("metadata", some s.metadata.write),
    ("stringData", s.stringData.map ofTexts),
    ("type", s.type.map .str)]

end Secret

namespace ConfigMap

def apiVersion : String := "v1"

def kindName : String := "ConfigMap"

def setMember (c : ConfigMap) (k : String) (v : ν) : Read ConfigMap :=
  match k with
  | "apiVersion" => do readFixed apiVersion v; return c
  | "binaryData" => return { c with binaryData := ← readOption (readMap readBytes) v }
  | "data" => return { c with data := ← readOption (readMap readString) v }
  | "immutable" => return { c with immutable := ← readOption readBool v }
  | "kind" => do readFixed kindName v; return c
  | "metadata" => return { c with metadata := (← readOption ObjectMeta.read v).getD {} }
  | _ => return c

def read : ν → Read ConfigMap := foldObject kindName {} setMember

def write (c : ConfigMap) : Json :=
  ofMembers [
    ("apiVersion", some (.str apiVersion)),
    ("binaryData", c.binaryData.map (ofMap ofBytes)),
    ("data", c.data.map ofTexts),
    ("immutable", c.immutable.map .bool),
    ("kind", some (.str kindName)),
    ("metadata", some c.metadata.write)]

end ConfigMap

end AuthProxy
