import AuthProxy.Cluster.Basic
import AuthProxy.Cluster.Fault

/-! # A cluster under observation

A cluster with faults in front of it and a record of the calls made to it, as a test of the operator
needs it.
-/

namespace AuthProxy

/-- A call and how it ended. -/
structure CallRecord where
  call : Call
  result : call.Result

namespace CallRecord

/-- A selector as records write it. -/
def selectorText (s : LabelSelector) : String :=
  match Selector.check s with
  | .ok s => s.query
  | .error _ => "<invalid>"

/-- What was called. -/
def callText (c : Call) : String :=
  c.operation.name ++ " " ++ c.kind.name ++ " " ++
    match c with
    | .get _ ns name => ns ++ "/" ++ name
    | .list _ ns s => ns ++ " [" ++ selectorText s ++ "]"
    | .create k o | .update k o | .updateStatus k o => (k.key o).text

/-- How a call that did not fail ended. -/
def answerText : (c : Call) → c.Answer → String
  | .get .., some _ => "found"
  | .get .., none => "absent"
  | .list k .., os => ",".intercalate (os.map k.nameAny)
  | .create .., _ | .update .., _ | .updateStatus .., _ => "ok"

def resultText : (c : Call) → c.Result → String
  | c, .ok a => answerText c a
  | _, .error e => e.name

def text (r : CallRecord) : String := callText r.call ++ " -> " ++ resultText r.call r.result

end CallRecord

/-- A cluster, the faults in front of it, and the calls so far. -/
structure Bench where
  cluster : Cluster := {}
  faults : List Fault := []
  calls : List CallRecord := []
deriving Inhabited

namespace Bench

/-- How a call ends, through the faults. -/
def attempt (c : Call) (b : Bench) : c.Result × Bench :=
  match Fault.take c.operation c.kind b.faults with
  | (some failure, faults) => (failure.result c, { b with faults })
  | (none, faults) =>
    let (result, cluster) := Cluster.answer c b.cluster
    (result, { b with faults, cluster })

/-- The bench as a store: calls are recorded. -/
def answer : Store Bench := fun c b =>
  let (result, b) := b.attempt c
  (result, { b with calls := b.calls ++ [⟨c, result⟩] })

/-- Forgets the calls and writes so far. -/
def clear (b : Bench) : Bench := { b with calls := [], cluster := { b.cluster with writes := [] } }

end Bench

end AuthProxy
