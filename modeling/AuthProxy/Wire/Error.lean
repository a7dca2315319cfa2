import AuthProxy.Error
import AuthProxy.Wire.Authenticator

/-! # Error documents

How an API server describes why it refused a request: a record of which the status and the code have
to be there.
-/

namespace AuthProxy.ErrorResponse

open Json

variable {ν : Type} [Source ν]

def record : RecordType := ⟨"ErrorResponse", ["status", "message", "reason", "code"]⟩

def readCode (v : ν) : Read Nat := (readIntIn 0 65_535 "u16" v).map Int.toNat

def checkMember (k : String) (v : ν) : Read Unit :=
  match k with
  | "status" | "message" | "reason" => discard (readString v)
  | "code" => discard (readCode v)
  | _ => .ok ()

def read (v : ν) : Read ErrorResponse := do
  let r ← record.read v
  Record.checkMembers checkMember r.members
  let response : ErrorResponse := {
    status := ← record.require r "status" (← r.get? "status" readString)
    message := ← r.getD "message" readString ""
    reason := ← r.getD "reason" readString ""
    code := ← record.require r "code" (← r.get? "code" readCode) }
  record.close r
  return response

end AuthProxy.ErrorResponse
