import AuthProxy.Api.Answer
import AuthProxy.Dependent
import AuthProxy.Program
import AuthProxy.Selector

/-! # The API client

A store behind an API server: every call becomes one request, and the response becomes the answer.
Failures of writes are told apart by the code that the server gives, lost races among them; reads
keep what the server says, except that an object that is not found is no failure.
-/

namespace AuthProxy

namespace Kind

/-- The path of a collection. -/
def collectionPath (k : Kind) (ns : String) : String :=
  k.root ++ "/namespaces/" ++ ns ++ "/" ++ k.plural

/-- The path of an object. -/
def objectPath (k : Kind) (key : ObjectName) : String := k.collectionPath key.ns ++ "/" ++ key.name

/-- Where to write an object: its own namespace and its own name, not what a name is generated
from. -/
def writeKey (k : Kind) (o : k.Object) : Except Error ObjectName :=
  match (k.metadata o).ns with
  | none => .error (.missingKey ".metadata.namespace")
  | some ns =>
    match (k.metadata o).name with
    | none => .error (.missingKey ".metadata.name")
    | some name => .ok ⟨ns, name⟩

end Kind

namespace Request

/-- The request for a path. Only a request with a query has a question mark. -/
def build (method : Method) (path : String) (query : List (String × String))
    (body : Option Json) : Except Error Request :=
  let text := if query.isEmpty then path else path ++ "?" ++ Query.text query
  match Target.ofText text with
  | .ok target => .ok { method, target, body }
  | .error e => .error (.api (.badTarget e))

/-- The request for an object, whose name cannot be empty. -/
def named (method : Method) (k : Kind) (key : ObjectName) (suffix : String)
    (query : List (String × String)) (body : Option Json) : Except Error Request :=
  if key.name.isEmpty then .error (.api .unnamed)
  else build method (k.objectPath key ++ suffix) query body

/-- What every write says about who wrote the fields. -/
def writeQuery : List (String × String) := [("fieldManager", operatorName)]

/-- The request of a call, or why there is none. -/
def ofCall : Call → Except Error Request
  | .get k ns name => named .get k ⟨ns, name⟩ "" [] none
  | .list k ns selector => do
    let s ← selector.checked
    build .get (k.collectionPath ns) [("labelSelector", s.query)] none
  | .create k o => do
    let key ← k.writeKey o
    build .post (k.collectionPath key.ns) writeQuery (some (k.write o))
  | .update k o => do
    let key ← k.writeKey o
    named .put k key "" writeQuery (some (k.write o))
  | .updateStatus k o => do
    let key ← k.writeKey o
    named .put k key "/status" writeQuery (some (k.write o))

end Request

namespace Call

/-- The failure of a write of the object called `name`. -/
def writeError (k : Kind) (name : String) : ApiError → Error
  | .refused r =>
    if r.code = 409 then
      if r.reason = "AlreadyExists" then .alreadyExists k.name name else .conflict k.name name
    else if r.code = 404 then .notFound k.name name
    else .api (.refused r)
  | e => .api e

/-- What a read of an object comes to; not finding it is no failure. -/
def readResult {α : Type} : Except ApiError α → Except Error (Option α)
  | .ok a => .ok (some a)
  | .error (.refused r) => if r.reason = "NotFound" then .ok none else .error (.api (.refused r))
  | .error e => .error (.api e)

/-- What a write of an object comes to. -/
def writeResult {α : Type} (k : Kind) (o : k.Object) (r : Except ApiError α) : Except Error α :=
  r.mapError (writeError k ((k.metadata o).name.getD ""))

/-- What a response to the request of a call says. -/
def resultOf : (c : Call) → Response → c.Result
  | .get k _ _, r => readResult (r.document k.read)
  | .list k _ _, r => (r.document (Response.readList k.read)).mapError .api
  | .create k o, r => writeResult k o (r.document k.read)
  | .update k o, r => writeResult k o (r.document k.read)
  | .updateStatus k o, r => writeResult k o (r.document k.read)

end Call

/-- A server: how it responds to a request, and what it is afterwards. -/
abbrev Server (σ : Type) : Type := Request → σ → Response × σ

/-- A server as a store. -/
def Server.store {σ : Type} (server : Server σ) : Store σ := fun c s =>
  match Request.ofCall c with
  | .error e => (.error e, s)
  | .ok request =>
    let (response, s) := server request s
    (c.resultOf response, s)

end AuthProxy
