import AuthProxy.Object.Pod
import AuthProxy.Wire.Metadata

/-! # Pods in documents

The same rules as for metadata: absent and null are one, unknown members are dropped. A pod
specification always writes its containers.
-/

namespace AuthProxy

open Json

variable {ν : Type} [Source ν]

namespace ContainerPort

def setMember (p : ContainerPort) (k : String) (v : ν) : Read ContainerPort :=
  match k with
  | "containerPort" => return { p with containerPort := (← readOption readInt32 v).getD 0 }
  | "hostPort" => return { p with hostPort := ← readOption readInt32 v }
  | "name" => return { p with name := ← readOption readString v }
  | "protocol" => return { p with protocol := ← readOption readString v }
  | _ => return p

def read : ν → Read ContainerPort := foldObject "ContainerPort" {} setMember

def write (p : ContainerPort) : Json :=
  ofMembers [
    ("containerPort", some (ofInt32 p.containerPort)),
    ("hostPort", p.hostPort.map ofInt32),
    ("name", p.name.map .str),
    ("protocol", p.protocol.map .str)]

end ContainerPort

namespace VolumeMount

def setMember (m : VolumeMount) (k : String) (v : ν) : Read VolumeMount :=
  match k with
  | "mountPath" => return { m with mountPath := (← readOption readString v).getD "" }
  | "name" => return { m with name := (← readOption readString v).getD "" }
  | "readOnly" => return { m with readOnly := ← readOption readBool v }
  | "subPath" => return { m with subPath := ← readOption readString v }
  | _ => return m

def read : ν → Read VolumeMount := foldObject "VolumeMount" {} setMember

def write (m : VolumeMount) : Json :=
  ofMembers [
    ("mountPath", some (.str m.mountPath)),
    ("name", some (.str m.name)),
    ("readOnly", m.readOnly.map .bool),
    ("subPath", m.subPath.map .str)]

end VolumeMount

namespace EnvVar

def setMember (e : EnvVar) (k : String) (v : ν) : Read EnvVar :=
  match k with
  | "name" => return { e with name := (← readOption readString v).getD "" }
  | "value" => return { e with value := ← readOption readString v }
  | _ => return e

def read : ν → Read EnvVar := foldObject "EnvVar" {} setMember

def write (e : EnvVar) : Json :=
  ofMembers [("name", some (.str e.name)), ("value", e.value.map .str)]

end EnvVar

namespace Container

def setMember (c : Container) (k : String) (v : ν) : Read Container :=
  match k with
  | "env" => return { c with env := ← readOption (readList EnvVar.read) v }
  | "image" => return { c with image := ← readOption readString v }
  | "imagePullPolicy" => return { c with imagePullPolicy := ← readOption readString v }
  | "name" => return { c with name := (← readOption readString v).getD "" }
  | "ports" => return { c with ports := ← readOption (readList ContainerPort.read) v }
  | "terminationMessagePath" =>
    return { c with terminationMessagePath := ← readOption readString v }
  | "volumeMounts" => return { c with volumeMounts := ← readOption (readList VolumeMount.read) v }
  | _ => return c

def read : ν → Read Container := foldObject "Container" {} setMember

def write (c : Container) : Json :=
  ofMembers [
    ("env", c.env.map (ofList EnvVar.write)),
    ("image", c.image.map .str),
    ("imagePullPolicy", c.imagePullPolicy.map .str),
    ("name", some (.str c.name)),
    ("ports", c.ports.map (ofList ContainerPort.write)),
    ("terminationMessagePath", c.terminationMessagePath.map .str),
    ("volumeMounts", c.volumeMounts.map (ofList VolumeMount.write))]

end Container

namespace ConfigMapSource

def setMember (s : ConfigMapSource) (k : String) (v : ν) : Read ConfigMapSource :=
  match k with
  | "defaultMode" => return { s with defaultMode := ← readOption readInt32 v }
  | "name" => return { s with name := (← readOption readString v).getD "" }
  | _ => return s

def read : ν → Read ConfigMapSource := foldObject "ConfigMapVolumeSource" {} setMember

def write (s : ConfigMapSource) : Json :=
  ofMembers [("defaultMode", s.defaultMode.map ofInt32), ("name", some (.str s.name))]

end ConfigMapSource

namespace SecretSource

def setMember (s : SecretSource) (k : String) (v : ν) : Read SecretSource :=
  match k with
  | "defaultMode" => return { s with defaultMode := ← readOption readInt32 v }
  | "optional" => return { s with optional := ← readOption readBool v }
  | "secretName" => return { s with secretName := ← readOption readString v }
  | _ => return s

def read : ν → Read SecretSource := foldObject "SecretVolumeSource" {} setMember

def write (s : SecretSource) : Json :=
  ofMembers [
    ("defaultMode", s.defaultMode.map ofInt32),
    ("optional", s.optional.map .bool),
    ("secretName", s.secretName.map .str)]

end SecretSource

namespace Volume

/-- A scratch directory is given by an object, of which no member is kept. -/
def readEmptyDir : ν → Read Unit := foldObject "EmptyDirVolumeSource" () fun _ _ _ => return ()

def setMember (o : Volume) (k : String) (v : ν) : Read Volume :=
  match k with
  | "configMap" => return { o with configMap := ← readOption ConfigMapSource.read v }
  | "emptyDir" => return { o with emptyDir := (← readOption readEmptyDir v).isSome }
  | "name" => return { o with name := (← readOption readString v).getD "" }
  | "secret" => return { o with secret := ← readOption SecretSource.read v }
  | _ => return o

def read : ν → Read Volume := foldObject "Volume" {} setMember

def write (o : Volume) : Json :=
  ofMembers [
    ("configMap", o.configMap.map ConfigMapSource.write),
    ("emptyDir", if o.emptyDir then some (.obj []) else none),
    ("name", some (.str o.name)),
    ("secret", o.secret.map SecretSource.write)]

end Volume

namespace PodSpec

def setMember (p : PodSpec) (k : String) (v : ν) : Read PodSpec :=
  match k with
  | "containers" =>
    return { p with containers := (← readOption (readList Container.read) v).getD [] }
  | "dnsPolicy" => return { p with dnsPolicy := ← readOption readString v }
  | "initContainers" => return { p with initContainers := ← readOption (readList Container.read) v }
  | "nodeSelector" => return { p with nodeSelector := ← readOption (readMap readString) v }
  | "restartPolicy" => return { p with restartPolicy := ← readOption readString v }
  | "serviceAccountName" => return { p with serviceAccountName := ← readOption readString v }
  | "terminationGracePeriodSeconds" =>
    return { p with terminationGracePeriodSeconds := ← readOption readInt64 v }
  | "volumes" => return { p with volumes := ← readOption (readList Volume.read) v }
  | _ => return p

def read : ν → Read PodSpec := foldObject "PodSpec" {} setMember

def write (p : PodSpec) : Json :=
  ofMembers [
    ("containers", some (ofList Container.write p.containers)),
    ("dnsPolicy", p.dnsPolicy.map .str),
    ("initContainers", p.initContainers.map (ofList Container.write)),
    ("nodeSelector", p.nodeSelector.map ofTexts),
    ("restartPolicy", p.restartPolicy.map .str),
    ("serviceAccountName", p.serviceAccountName.map .str),
    ("terminationGracePeriodSeconds", p.terminationGracePeriodSeconds.map ofInt64),
    ("volumes", p.volumes.map (ofList Volume.write))]

end PodSpec

namespace PodTemplate

def setMember (t : PodTemplate) (k : String) (v : ν) : Read PodTemplate :=
  match k with
  | "metadata" => return { t with metadata := ← readOption ObjectMeta.read v }
  | "spec" => return { t with spec := ← readOption PodSpec.read v }
  | _ => return t

def read : ν → Read PodTemplate := foldObject "PodTemplateSpec" {} setMember

def write (t : PodTemplate) : Json :=
  ofMembers [("metadata", t.metadata.map ObjectMeta.write), ("spec", t.spec.map PodSpec.write)]

end PodTemplate

end AuthProxy
