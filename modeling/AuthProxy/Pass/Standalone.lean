import AuthProxy.Pass.Reference
import AuthProxy.Proxy.Dependents
import AuthProxy.Proxy.Outline
import AuthProxy.Replicas

/-! # The standalone step

The authenticator's Deployment exists and its outline is the desired one. The number of replicas is
fixed or follows the workloads that the selector selects, the proxy's own Deployment apart.
-/

namespace AuthProxy.Authenticator

open Program

/-- The replicas of the listed workloads other than the proxy's own Deployment. -/
def followedReplicas (a : Authenticator) (workloads : List Deployment) : List Int32 :=
  (workloads.filter fun d => d.nameAny != a.ownDeploymentName).map fun d =>
    (d.spec.bind (·.replicas)).getD 1

/-- The number of replicas that the proxy should have. -/
def chooseReplicas (a : Authenticator) : Program Int32 := do
  if !a.spec.adaptiveScale || a.spec.selector.isEmpty then return a.spec.replicas
  else
    let ns ← a.ownNamespace
    let workloads ← ask (.list .deployment ns a.spec.selector)
    let followed := a.followedReplicas workloads
    if followed.isEmpty then return a.spec.replicas
    else
      match Replicas.sum? followed with
      | some total => return total
      | none =>
        tell .replicaSumTooLarge
        return a.spec.replicas

/-- Creates the Deployment; the pass stops either way. -/
def createDeployment {α : Type} (desired : Deployment) (object : ObjectName) :
    Program (Progress α) := do
  if ← attempt (.create .deployment desired) then
    tell (.deploymentCreated object)
    return .requeue (.created .deployment)
  else return .requeue .conflict

/-- Ensures that the Deployment has the desired outline; goes on with its ready replicas. -/
def standaloneStep (a : Authenticator) (secretName configMapName : String) (settings : Settings) :
    Program (Progress Int32) := do
  let ns ← a.ownNamespace
  let replicas ← a.chooseReplicas
  let desired ← a.makeDeployment secretName configMapName replicas settings
  let name := a.ownDeploymentName
  match ← ask (.get .deployment ns name) with
  | none => createDeployment desired ⟨ns, name⟩
  | some found =>
    let ready := found.readyReplicas?.getD 0
    if !a.owns found.metadata then Program.fail (a.notOwned "Deployment" ⟨ns, name⟩)
    else if found.outline = desired.outline then return .proceed ready
    else
      tell (.deploymentDrifted ⟨ns, name⟩)
      if ← attempt (.update .deployment { found with spec := desired.spec }) then
        return .proceed ready
      else return .requeue .conflict

end AuthProxy.Authenticator
