import AuthProxy.Api.Client
import AuthProxy.Cluster.Bench
import AuthProxy.Selector.Query

/-! # A cluster behind an API server

The same answers as from the cluster itself, but every failure goes through a response: the server
gives it a code and a reason, and the client tells it apart by these.
-/

namespace AuthProxy

namespace Error

/-- The code and the reason with which a server refuses a request. -/
def refusal : Error → Nat × String
  | conflict .. => (409, "Conflict")
  | alreadyExists .. => (409, "AlreadyExists")
  | notFound .. => (404, "NotFound")
  | _ => (500, "InternalError")

/-- The response to a request that failed; `message` words it for a reason. -/
def response (message : String → String) (e : Error) : Response :=
  .failure e.refusal.1 e.refusal.2 (message e.refusal.2)

end Error

/-- What a server finds at a target. -/
inductive Spot where
  | collection
  | object (name : String)
  | status (name : String)
deriving DecidableEq, Repr

namespace Spot

/-- The spot of a path in the collection of a namespace. A slash in a namespace or a name makes a
path that leads to no spot. -/
def ofTarget? (k : Kind) (ns : String) (t : Target) : Option Spot :=
  let path := k.collectionPath ns
  if ns.toList.contains '/' then none
  else if t.path = path then some .collection
  else
    match (t.below? path).map fun rest => Text.pieces '/' rest.toList with
    | some [name] => some (.object (String.ofList name))
    | some [name, sub] =>
      if sub = "status".toList then some (.status (String.ofList name)) else none
    | _ => none

end Spot

namespace Bench

/-- A write of an object that is there already: of all of it, or of its status. -/
def answerPut (k : Kind) (o : k.Object) (b : Bench) :
    Option Spot → Option (Except Error k.Object × Bench)
  | some (.object _) => some (answer (.update k o) b)
  | some (.status _) => some (answer (.updateStatus k o) b)
  | _ => none

/-- How the bench answers a call by its target, if that leads anywhere. What is read is called as
the path says and selected as the query says; what is written is called as the object says. -/
def answerAt? (target : Target) : (c : Call) → Bench → Option (c.Result × Bench)
  | .get k ns _, b =>
    match Spot.ofTarget? k ns target with
    | some (.object name) => some (answer (.get k ns name) b)
    | _ => none
  | .list k ns _, b =>
    match Spot.ofTarget? k ns target with
    | some .collection =>
      some (answer (.list k ns (.ofQuery ((target.value? "labelSelector").getD ""))) b)
    | _ => none
  | .create k o, b =>
    match Spot.ofTarget? k (k.key o).ns target with
    | some .collection => some (answer (.create k o) b)
    | _ => none
  | .update k o, b => b.answerPut k o (Spot.ofTarget? k (k.key o).ns target)
  | .updateStatus k o, b => b.answerPut k o (Spot.ofTarget? k (k.key o).ns target)

/-- The bench behind an API server that words its failures by `message`. -/
def served (message : String → String) : Store Bench := fun c b =>
  match Request.ofCall c with
  | .error e => (.error e, b)
  | .ok request =>
    match answerAt? request.target c b with
    | some (.ok a, b) => (.ok a, b)
    | some (.error e, b) => (c.resultOf (e.response message), b)
    | none => (c.resultOf (.failure 404 "NotFound" (message "NotFound")), b)

end Bench

end AuthProxy
