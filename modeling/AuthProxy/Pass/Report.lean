import AuthProxy.Program

/-! # The report step

The authenticator's status reports the ready replicas. It is written only if it says something else
or nothing yet.
-/

namespace AuthProxy.Authenticator

open Program

/-- Ensures that the status reports `ready` replicas. -/
def reportStep (a : Authenticator) (ready : Int32) : Program (Progress Unit) := do
  if a.status.isSome && a.reportedReady = ready then return .proceed ()
  else
    let updated : Authenticator := { a with status := some { readyReplicas := ready } }
    if ← attempt (.updateStatus .authenticator updated) then
      tell (.statusReported ready)
      return .proceed ()
    else return .requeue .conflict

end AuthProxy.Authenticator
