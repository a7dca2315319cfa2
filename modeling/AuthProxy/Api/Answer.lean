import AuthProxy.Api.Message
import AuthProxy.Json.Parser
import AuthProxy.Wire.Error

/-! # Reading responses

A response is either a failure, which the server describes in the body as well as it can, or a
document of the type that was asked for.
-/

namespace AuthProxy.Response

open Json

/-- The failure that a body describes, or else one made from the status. -/
def refusal (r : Response) : ErrorResponse :=
  match readText ErrorResponse.read r.body with
  | .ok e => e
  | .error _ =>
    { status := r.statusText
      message := Text.quote r.body
      reason := "Failed to parse error data"
      code := r.status }

/-- The document of a response. -/
def document {α : Type} (read : Written → Read α) (r : Response) : Except ApiError α :=
  if r.isFailure then .error (.refused r.refusal)
  else (readText read r.body).mapError .unreadable

variable {ν : Type} [Source ν]

/-- Whether a member of the metadata of a list fits it. -/
def checkListMeta (_ : Unit) (k : String) (v : ν) : Read Unit :=
  match k with
  | "continue" | "resourceVersion" | "selfLink" => discard (readOption readString v)
  | "remainingItemCount" => discard (readOption readInt64 v)
  | _ => .ok ()

def listRecord : RecordType := ⟨"ObjectList", ["metadata", "items"]⟩

/-- A list document keeps the members that it does not know, so they are looked at. -/
def checkOther (k : String) (v : ν) : Read Unit :=
  if listRecord.fields.contains k then .ok () else Source.inspect (greatestDepth - 1) v

/-- Reads a list document: an object with items, which a null leaves empty. -/
def readList {α : Type} (read : ν → Read α) (v : ν) : Read (List α) := do
  match ← Source.layer v with
  | .obj .. =>
    let r ← listRecord.read v
    Record.checkMembers checkOther r.members
    let _ ← r.get? "metadata" (foldObject "ListMeta" () checkListMeta)
    let items ← r.get? "items" fun v => (readOption (Json.readList read) v).map (·.getD [])
    listRecord.require r "items" items
  | met => unfit v met "a map"

end AuthProxy.Response
