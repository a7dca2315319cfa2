import AuthProxy.Pass.Configuration
import AuthProxy.Pass.Standalone
import AuthProxy.Pass.Workloads
import AuthProxy.Pass.Report

/-! # A pass

One pass over an authenticator: it is read, then come credentials, configuration, proxy and report,
each step only if the one before it goes on. Every pass starts from what the store holds.
-/

namespace AuthProxy

/-- The rest of a pass, unless the step before it stops the pass. -/
def Program.thenStep {α : Type} (step : Program (Progress α)) (rest : α → Program Outcome) :
    Program Outcome := do
  match ← step with
  | .proceed value => rest value
  | .requeue reason => return .requeue reason

namespace Authenticator

open Program

/-- The step that puts the proxy in front of the workload. -/
def proxyStep (a : Authenticator) (secretName configMapName : String) (settings : Settings) :
    Program (Progress Int32) :=
  match a.spec.mode with
  | .standalone => a.standaloneStep secretName configMapName settings
  | .sidecar => a.workloadsStep secretName configMapName settings

/-- The steps of a pass over an authenticator that was read. -/
def converge (a : Authenticator) (settings : Settings) (fresh : Credentials) : Program Outcome :=
  (a.credentialsStep fresh).thenStep fun secretName =>
  (a.configurationStep settings).thenStep fun configMapName =>
  (a.proxyStep secretName configMapName settings).thenStep fun ready =>
  (a.reportStep ready).thenStep fun () =>
  return .done ready

/-- One pass over the authenticator `ns/name`. New credentials, if it needs any, are `fresh`. -/
def pass (settings : Settings) (ns name : String) (fresh : Credentials) : Program Outcome := do
  match ← ask (.get .authenticator ns name) with
  | none =>
    tell (.authenticatorGone ⟨ns, name⟩)
    return .deleted
  | some a => a.converge settings fresh

end Authenticator

end AuthProxy
