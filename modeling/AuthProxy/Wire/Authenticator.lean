import AuthProxy.Json.Record
import AuthProxy.Object.Authenticator
import AuthProxy.Wire.Metadata

/-! # Authenticators in documents

The specification, the status and the whole resource are records: a known member may occur once, a
null is refused unless the member is optional, and a required member has to be there. The known
members are checked in the order of the document, so the first bad one is the error; only then is a
missing one noticed.
-/

namespace AuthProxy

open Json

variable {ν : Type} [Source ν]

namespace Mode

def read : ν → Read Mode := readVariant (all.map name) ofName?

def write (m : Mode) : Json := .str m.name

end Mode

namespace AuthenticatorSpec

/-- The members of a specification. -/
def record : RecordType :=
  ⟨"BasicAuthenticatorSpec",
    ["type", "credentialsSecretRef", "selector", "appPort", "appService", "replicas",
      "adaptiveScale", "proxyPort"]⟩

/-- Whether the value of a known member fits it. -/
def checkMember (k : String) (v : ν) : Read Unit :=
  match k with
  | "type" => discard (Mode.read v)
  | "credentialsSecretRef" => discard (readString v)
  | "selector" => discard (LabelSelector.read v)
  | "appPort" => discard (readInt32 v)
  | "appService" => discard (readString v)
  | "replicas" => discard (readInt32 v)
  | "adaptiveScale" => discard (readBool v)
  | "proxyPort" => discard (readOption readInt32 v)
  | _ => .ok ()

def read (v : ν) : Read AuthenticatorSpec := do
  let r ← record.read v
  Record.checkMembers checkMember r.members
  let spec : AuthenticatorSpec := {
    mode := ← r.getD "type" Mode.read .standalone
    credentialsSecretRef := ← r.getD "credentialsSecretRef" readString ""
    selector := ← r.getD "selector" LabelSelector.read {}
    appPort := ← record.require r "appPort" (← r.get? "appPort" readInt32)
    appService := ← r.getD "appService" readString ""
    replicas := ← r.getD "replicas" readInt32 1
    adaptiveScale := ← r.getD "adaptiveScale" readBool false
    proxyPort := ← r.getD "proxyPort" (readOption readInt32) none }
  record.close r
  return spec

def write (s : AuthenticatorSpec) : Json :=
  ofMembers [
    ("adaptiveScale", some (.bool s.adaptiveScale)),
    ("appPort", some (ofInt32 s.appPort)),
    ("appService", some (.str s.appService)),
    ("credentialsSecretRef", some (.str s.credentialsSecretRef)),
    ("proxyPort", s.proxyPort.map ofInt32),
    ("replicas", some (ofInt32 s.replicas)),
    ("selector", some s.selector.write),
    ("type", some s.mode.write)]

end AuthenticatorSpec

namespace AuthenticatorStatus

def record : RecordType := ⟨"BasicAuthenticatorStatus", ["readyReplicas"]⟩

def checkMember (k : String) (v : ν) : Read Unit :=
  match k with
  | "readyReplicas" => discard (readInt32 v)
  | _ => .ok ()

def read (v : ν) : Read AuthenticatorStatus := do
  let r ← record.read v
  Record.checkMembers checkMember r.members
  let status : AuthenticatorStatus := {
    readyReplicas := ← r.getD "readyReplicas" readInt32 0 }
  record.close r
  return status

def write (s : AuthenticatorStatus) : Json := .obj [("readyReplicas", ofInt32 s.readyReplicas)]

end AuthenticatorStatus

namespace Authenticator

/-- The members that are read; the API version and the kind are not looked at. -/
def record : RecordType := ⟨"BasicAuthenticator", ["metadata", "spec", "status"]⟩

def checkMember (k : String) (v : ν) : Read Unit :=
  match k with
  | "metadata" => discard (ObjectMeta.read v)
  | "spec" => discard (AuthenticatorSpec.read v)
  | "status" => discard (readOption AuthenticatorStatus.read v)
  | _ => .ok ()

/-- The status may be absent from an object, but a sequence has to give all three members. -/
def statusOf (r : Record ν) : Read (Option AuthenticatorStatus) :=
  match r.length? with
  | none => r.getD "status" (readOption AuthenticatorStatus.read) none
  | some _ => do record.require r "status" (← r.get? "status" (readOption AuthenticatorStatus.read))

def read (v : ν) : Read Authenticator := do
  let r ← record.read v
  Record.checkMembers checkMember r.members
  let auth : Authenticator := {
    metadata := ← record.require r "metadata" (← r.get? "metadata" ObjectMeta.read)
    spec := ← record.require r "spec" (← r.get? "spec" AuthenticatorSpec.read)
    status := ← statusOf r }
  record.close r
  return auth

def write (a : Authenticator) : Json :=
  ofMembers [
    ("apiVersion", some (.str apiVersion)),
    ("kind", some (.str kindName)),
    ("metadata", some a.metadata.write),
    ("spec", some a.spec.write),
    ("status", a.status.map AuthenticatorStatus.write)]

end Authenticator

end AuthProxy
