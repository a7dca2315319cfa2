import AuthProxy.Api.Client

/-! # Canned responses

A server that has a list of responses, each for one request with its method and path, and that keeps
the requests made to it.
-/

namespace AuthProxy

/-- A response for one request. -/
structure CannedResponse where
  method : String
  path : String
  response : Response
deriving Repr, Inhabited

/-- The responses that are left, and the requests so far. -/
structure CannedServer where
  responses : List CannedResponse
  requests : List Request := []
deriving Inhabited

namespace CannedServer

/-- Takes the first response for a method and a path. -/
def take (method path : String) :
    List CannedResponse → Option Response × List CannedResponse
  | [] => (none, [])
  | r :: rest =>
    if r.method = method ∧ r.path = path then (some r.response, rest)
    else
      let (found, rest) := take method path rest
      (found, r :: rest)

def server : Server CannedServer := fun request s =>
  let (response, responses) := take request.method.name request.target.path s.responses
  (response.getD .notFound, { responses, requests := s.requests ++ [request] })

/-- Forgets the requests so far. -/
def clear (s : CannedServer) : CannedServer := { s with requests := [] }

end CannedServer

end AuthProxy
