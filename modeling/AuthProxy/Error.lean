import AuthProxy.Api.Target
import AuthProxy.Json.ReadError

/-! # Errors

Why a store call or a pass failed. Conflicts, that is stale writes and lost creation races, are told
apart because the next pass resolves them.
-/

namespace AuthProxy

/-- What the API says about a request that it refused. -/
structure ErrorResponse where
  status : String
  message : String := ""
  reason : String := ""
  code : Nat
deriving DecidableEq, Repr, Inhabited

namespace ErrorResponse

/-- The fields of the answer, their texts quoted. -/
def fieldsText (r : ErrorResponse) : String :=
  "ErrorResponse \x7b status: " ++ Text.quote r.status ++ ", message: " ++ Text.quote r.message
    ++ ", reason: " ++ Text.quote r.reason ++ ", code: " ++ toString r.code ++ " \x7d"

def text (r : ErrorResponse) : String :=
  "ApiError: " ++ r.message ++ ": " ++ r.reason ++ " (" ++ r.fieldsText ++ ")"

end ErrorResponse

/-- A failure of the API client. -/
inductive ApiError where
  /-- The API refused the request. -/
  | refused (response : ErrorResponse)
  /-- The answer is not the expected document. -/
  | unreadable (why : ReadError)
  /-- The request needs the name of an object. -/
  | unnamed
  /-- The name or the namespace of an object makes no request target. -/
  | badTarget (why : TargetError)
  /-- What the API names as the place of a resource is no request target. -/
  | badLink (why : TargetError)
  /-- An API group without versions. -/
  | emptyGroup (group : String)
deriving DecidableEq, Repr, Inhabited

namespace ApiError

def text : ApiError → String
  | refused r => r.text
  | unreadable why => "Error deserializing response: " ++ why.message
  | unnamed =>
    "Failed to build request: failed to validate request: A non-empty name is required"
  | badTarget why => "Failed to build request: failed to build request: " ++ why.message
  | badLink why => "HttpError: " ++ why.message
  | emptyGroup g => "Error from discovery: Empty Api Group: " ++ g

end ApiError

/-- Why a call or a pass failed. -/
inductive Error where
  | alreadyExists (kind name : String)
  | conflict (kind name : String)
  | notFound (kind name : String)
  | missingKey (key : String)
  | invalidSpec (text : String)
  | invalidSelector (text : String)
  | invariantViolation (text : String)
  | serialization (text : String)
  | api (error : ApiError)
deriving DecidableEq, Repr, Inhabited

namespace Error

/-- What kind of failure it is, in one word. -/
def name : Error → String
  | alreadyExists .. => "AlreadyExists"
  | conflict .. => "Conflict"
  | notFound .. => "NotFound"
  | missingKey _ => "MissingObjectKey"
  | invalidSpec _ => "InvalidSpec"
  | invalidSelector _ => "InvalidSelector"
  | invariantViolation _ => "InvariantViolation"
  | serialization _ => "SerializationError"
  | api _ => "KubeError"

def message : Error → String
  | alreadyExists k n => k ++ " " ++ n ++ " already exists"
  | conflict k n => "Conflict writing " ++ k ++ " " ++ n ++ ": resource version is stale"
  | notFound k n => k ++ " " ++ n ++ " not found"
  | missingKey k => "Missing object key: " ++ k
  | invalidSpec t => "Invalid spec: " ++ t
  | invalidSelector t => "Invalid label selector: " ++ t
  | invariantViolation t => "Invariant violated: " ++ t
  | serialization t => "Serialization error: " ++ Place.normalReport t
  | api e => "Kubernetes API error: " ++ e.text

/-- Stale writes and lost creation races, which a fresh read on the next pass resolves. -/
def isLostRace : Error → Bool
  | alreadyExists .. | conflict .. => true
  | _ => false

end Error

end AuthProxy
