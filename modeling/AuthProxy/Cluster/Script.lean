import AuthProxy.Cluster.Bench
import AuthProxy.Pass.Converge

/-! # Scripts

Sequences of steps on a cluster under observation: changes from outside, faults, single calls,
single steps of a pass, and whole passes.
-/

namespace AuthProxy

/-- A step of a pass, with what the steps before it found. -/
inductive PassStep where
  | credentials
  | configMap
  | deployment (secretName configMapName : String)
  | sidecars (secretName configMapName : String)
  | status (readyReplicas : Int32)
deriving DecidableEq, Repr

/-- A step of a script. -/
inductive ScriptStep where
  /-- Puts an object into the cluster. -/
  | place (kind : Kind) (object : kind.Object)
  /-- Looks at an object. -/
  | lookAt (kind : Kind) (key : ObjectName)
  /-- Looks at all objects of a namespace. -/
  | showAll (ns : String)
  /-- Changes an object by a merge patch. -/
  | patch (kind : Kind) (key : ObjectName) (patch : Json)
  /-- Lets a Deployment report ready replicas. -/
  | reportReady (key : ObjectName) (readyReplicas : Int32)
  /-- Lets the next update of a kind fail; without a kind, none fails any more. -/
  | conflict (kind : Option Kind)
  | fault (f : Fault)
  | call (c : Call)
  /-- One step of a pass over `given`, or over the stored authenticator. -/
  | step (s : PassStep) (given : Option Authenticator) (key : ObjectName)
  /-- A whole pass. -/
  | pass (key : ObjectName)

/-- An object of any kind. -/
abbrev AnyObject : Type := (k : Kind) × k.Object

/-- What a step of a script shows. -/
inductive ScriptResult where
  | nothing
  | object (o : AnyObject)
  | objects (os : List AnyObject)
  | proceedName (name : String)
  | proceedReplicas (n : Int32)
  | proceed
  | requeue (reason : Requeue)
  | outcome (o : Outcome)
  | error (e : Error)
  | unreadable (e : ReadError)
  | noSuchObject

/-- What a step of a script leaves behind. -/
structure ScriptRun where
  result : ScriptResult
  notices : List Notice := []
  bench : Bench

namespace ScriptResult

/-- What the answer of a call shows. -/
def ofAnswer : (c : Call) → c.Answer → ScriptResult
  | .get .., none => nothing
  | .get k .., some o => object ⟨k, o⟩
  | .list k .., os => objects (os.map fun o => ⟨k, o⟩)
  | .create k _, o | .update k _, o | .updateStatus k _, o => object ⟨k, o⟩

/-- What a call shows. -/
def ofCall (c : Call) : c.Result → ScriptResult
  | .ok a => ofAnswer c a
  | .error e => error e

/-- What a step of a pass shows, given how it shows the value it goes on with. -/
def ofProgress {α : Type} (proceed : α → ScriptResult) : Except Error (Progress α) → ScriptResult
  | .ok (.proceed a) => proceed a
  | .ok (.requeue r) => requeue r
  | .error e => error e

/-- What a pass shows. -/
def ofOutcome : Except Error Outcome → ScriptResult
  | .ok o => outcome o
  | .error e => error e

end ScriptResult

namespace Bench

/-- Shows what a run on the bench came to. -/
def shown {α : Type} (r : Run Bench α) (result : Except Error α → ScriptResult) : ScriptRun :=
  ⟨result r.result, r.notices, r.store⟩

/-- All objects of a namespace, by kind and name. -/
def showAll (b : Bench) (ns : String) : List AnyObject :=
  Kind.all.flatMap fun k => (b.cluster.inNamespace k ns).map fun o => ⟨k, o⟩

/-- Stores an object as someone else would. -/
def store (b : Bench) (k : Kind) (o : k.Object) : k.Object × Bench :=
  let (o, cluster) := b.cluster.store k o
  (o, { b with cluster })

/-- Changes an object by a merge patch on its document. Shown is what is there afterwards under the
name that it had. -/
def patch (b : Bench) (k : Kind) (key : ObjectName) (patch : Json) : ScriptRun :=
  match b.cluster.get? k key with
  | none => ⟨.noSuchObject, [], b⟩
  | some o =>
    match k.read ((k.write o).mergePatch patch).sortKeys with
    | .error e => ⟨.unreadable e, [], b⟩
    | .ok o =>
      let (_, b) := b.store k o
      match b.cluster.get? k key with
      | some o => ⟨.object ⟨k, o⟩, [], b⟩
      | none => ⟨.noSuchObject, [], b⟩

/-- Replaces the status of a Deployment by one that reports ready replicas. -/
def reportReady (b : Bench) (key : ObjectName) (ready : Int32) : ScriptRun :=
  match b.cluster.get? .deployment key with
  | none => ⟨.noSuchObject, [], b⟩
  | some d =>
    let (_, b) := b.store .deployment { d with status := some { readyReplicas := some ready } }
    ⟨.nothing, [], b⟩

/-- Runs one step of a pass. -/
def runPassStep (b : Bench) (settings : Settings) (fresh : Credentials) (a : Authenticator) :
    PassStep → ScriptRun
  | .credentials =>
    shown ((a.credentialsStep fresh).run answer b) (.ofProgress .proceedName)
  | .configMap => shown ((a.configurationStep settings).run answer b) (.ofProgress .proceedName)
  | .deployment s c =>
    shown ((a.standaloneStep s c settings).run answer b) (.ofProgress .proceedReplicas)
  | .sidecars s c =>
    shown ((a.workloadsStep s c settings).run answer b) (.ofProgress .proceedReplicas)
  | .status n => shown ((a.reportStep n).run answer b) (.ofProgress fun () => .proceed)

/-- Runs a step of a script. New credentials, if it needs any, are `fresh`. -/
def perform (b : Bench) (settings : Settings) (fresh : Credentials) : ScriptStep → ScriptRun
  | .place k o =>
    let (o, cluster) := b.cluster.place k o
    ⟨.object ⟨k, o⟩, [], { b with cluster }⟩
  | .lookAt k key =>
    match b.cluster.get? k key with
    | some o => ⟨.object ⟨k, o⟩, [], b⟩
    | none => ⟨.nothing, [], b⟩
  | .showAll ns => ⟨.objects (b.showAll ns), [], b⟩
  | .patch k key patch => b.patch k key patch
  | .reportReady key ready => b.reportReady key ready
  | .conflict k => ⟨.nothing, [], { b with cluster := b.cluster.expectConflict k }⟩
  | .fault f => ⟨.nothing, [], { b with faults := b.faults ++ [f] }⟩
  | .call c =>
    let (result, b) := answer c b
    ⟨.ofCall c result, [], b⟩
  | .step s given key =>
    match given.orElse fun _ => b.cluster.get? .authenticator key with
    | some a => b.runPassStep settings fresh a s
    | none => ⟨.noSuchObject, [], b⟩
  | .pass key =>
    shown ((Authenticator.pass settings key.ns key.name fresh).run answer b) .ofOutcome

end Bench

end AuthProxy
