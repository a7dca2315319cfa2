import AuthProxy.Api.Target
import AuthProxy.Json.Printer

/-! # Requests and responses

What goes over the wire between the operator and an API server.
-/

namespace AuthProxy

/-- What a request asks for. -/
inductive Method where
  | get
  | post
  | put
deriving DecidableEq, Repr, Inhabited

def Method.name : Method → String
  | get => "GET"
  | post => "POST"
  | put => "PUT"

/-- A request. -/
structure Request where
  method : Method
  target : Target
  body : Option Json := none
deriving Repr, Inhabited

/-- A response: a status code and the text of the body. -/
structure Response where
  status : Nat
  body : String
deriving DecidableEq, Repr, Inhabited

namespace Response

/-- Whether the status says that the request failed. -/
def isFailure (r : Response) : Bool := 400 ≤ r.status && r.status < 600

/-- The standard phrase of a failure status. -/
def phrase? : Nat → Option String
  | 400 => some "Bad Request"
  | 401 => some "Unauthorized"
  | 402 => some "Payment Required"
  | 403 => some "Forbidden"
  | 404 => some "Not Found"
  | 405 => some "Method Not Allowed"
  | 406 => some "Not Acceptable"
  | 407 => some "Proxy Authentication Required"
  | 408 => some "Request Timeout"
  | 409 => some "Conflict"
  | 410 => some "Gone"
  | 411 => some "Length Required"
  | 412 => some "Precondition Failed"
  | 413 => some "Payload Too Large"
  | 414 => some "URI Too Long"
  | 415 => some "Unsupported Media Type"
  | 416 => some "Range Not Satisfiable"
  | 417 => some "Expectation Failed"
  | 418 => some "I'm a teapot"
  | 421 => some "Misdirected Request"
  | 422 => some "Unprocessable Entity"
  | 423 => some "Locked"
  | 424 => some "Failed Dependency"
  | 425 => some "Too Early"
  | 426 => some "Upgrade Required"
  | 428 => some "Precondition Required"
  | 429 => some "Too Many Requests"
  | 431 => some "Request Header Fields Too Large"
  | 451 => some "Unavailable For Legal Reasons"
  | 500 => some "Internal Server Error"
  | 501 => some "Not Implemented"
  | 502 => some "Bad Gateway"
  | 503 => some "Service Unavailable"
  | 504 => some "Gateway Timeout"
  | 505 => some "HTTP Version Not Supported"
  | 506 => some "Variant Also Negotiates"
  | 507 => some "Insufficient Storage"
  | 508 => some "Loop Detected"
  | 510 => some "Not Extended"
  | 511 => some "Network Authentication Required"
  | _ => none

/-- The status with its phrase. -/
def statusText (r : Response) : String :=
  toString r.status ++ " " ++ (phrase? r.status).getD "<unknown status code>"

/-- A failure as the API server describes it. -/
def failure (code : Nat) (reason message : String) : Response where
  status := code
  body := (Json.obj [
    ("apiVersion", .str "v1"),
    ("code", .int code),
    ("kind", .str "Status"),
    ("message", .str message),
    ("reason", .str reason),
    ("status", .str "Failure")]).text

/-- What a server says that does not have the path. -/
def notFound : Response := failure 404 "NotFound" "not found"

end Response

end AuthProxy
