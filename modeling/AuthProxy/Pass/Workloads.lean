import AuthProxy.Program
import AuthProxy.Proxy.Injection
import AuthProxy.Replicas

/-! # The workload step

Every selected workload carries a proxy. All workloads that lack one are attempted, also after one
of them was lost to another writer; the pass then runs again. Only workloads that carry this
authenticator's proxy count towards its ready replicas.
-/

namespace AuthProxy.Authenticator

open Program

/-- The ready replicas of the listed workloads that the authenticator proxies, `changed` being those
that get it now. -/
def proxiedReady (a : Authenticator) (workloads changed : List Deployment) : Int32 :=
  let proxied := workloads.filter fun d =>
    d.injector? = some a.fullName || changed.any fun c => c.nameAny = d.nameAny
  Replicas.heldSum (proxied.filterMap (·.readyReplicas?))

/-- Writes the changed workloads in order. Returns whether one of them was lost. -/
def writeWorkloads (ns : String) (lost : Bool) : List Deployment → Program Bool
  | [] => return lost
  | d :: rest => do
    if ← attempt (.update .deployment d) then
      tell (.proxyInjected ⟨ns, d.nameAny⟩)
      writeWorkloads ns lost rest
    else writeWorkloads ns true rest

/-- What is told about workloads that carry the proxy of another authenticator. -/
def foreignNotices (a : Authenticator) (workloads : List Deployment) : List Notice :=
  (a.foreignProxies workloads).map fun (d, owner) =>
    .foreignProxy ⟨d.metadata.namespaceAny, d.nameAny⟩ owner

/-- Ensures that every selected workload carries a proxy; goes on with the ready replicas of those
that carry this authenticator's. -/
def workloadsStep (a : Authenticator) (secretName configMapName : String) (settings : Settings) :
    Program (Progress Int32) := do
  if a.spec.selector.isEmpty then
    tell .selectorEmpty
    return .proceed 0
  else
    let ns ← a.ownNamespace
    let workloads ← ask (.list .deployment ns a.spec.selector)
    tellAll (a.foreignNotices workloads)
    let changed := a.addProxies secretName configMapName settings workloads
    let ready := a.proxiedReady workloads changed
    if ← writeWorkloads ns false changed then return .requeue .conflict
    else return .proceed ready

end AuthProxy.Authenticator
