import AuthProxy.Object.Deployment
import AuthProxy.Proxy.Parts

/-! # Injection

Adding the proxy to workloads that belong to someone else. A workload that already has a proxy
container is left alone, whoever put it there; the annotation says who did.
-/

namespace AuthProxy

namespace Proxy

/-- The annotation that names the authenticator whose proxy a workload carries. -/
def injectedByKey : String := "authenticator.snappcloud.io/injected-by"

end Proxy

namespace PodSpec

/-- Whether one of the containers is a proxy. -/
def hasProxy (p : PodSpec) : Bool := p.containers.any fun c => c.name = Proxy.containerName

/-- The volumes with those of `more` whose names were not taken. -/
def addVolumes (volumes : List Volume) : List Volume → List Volume
  | [] => volumes
  | v :: more =>
    addVolumes (if volumes.any (fun w => w.name = v.name) then volumes else volumes ++ [v]) more

/-- The pod with the proxy container after the others and the proxy's volumes after the others. -/
def addProxy (p : PodSpec) (container : Container) (volumes : List Volume) : PodSpec :=
  { p with
    containers := p.containers ++ [container]
    volumes := some (addVolumes (p.volumes.getD []) volumes) }

end PodSpec

namespace Deployment

/-- Whether the workload already carries a proxy. -/
def carriesProxy (d : Deployment) : Bool := d.pod?.any (·.hasProxy)

/-- The authenticator that the workload says its proxy belongs to. -/
def injector? (d : Deployment) : Option String := d.metadata.annotation? Proxy.injectedByKey

end Deployment

namespace Authenticator

/-- The workload with the authenticator's proxy added, if it has a specification. -/
def addProxyTo? (a : Authenticator) (secretName configMapName : String) (settings : Settings)
    (d : Deployment) : Option Deployment :=
  d.spec.map fun s =>
    let pod := (s.template.spec.getD {}).addProxy (a.proxy settings)
      (Proxy.volumes secretName configMapName)
    { d with
      metadata := d.metadata.annotate Proxy.injectedByKey a.fullName
      spec := some { s with template := { s.template with spec := some pod } } }

/-- The workloads that lack a proxy, with the authenticator's proxy added. -/
def addProxies (a : Authenticator) (secretName configMapName : String) (settings : Settings)
    (workloads : List Deployment) : List Deployment :=
  (workloads.filter (!·.carriesProxy)).filterMap (a.addProxyTo? secretName configMapName settings)

/-- The workloads whose proxy belongs to another authenticator, each with the name it gives. -/
def foreignProxies (a : Authenticator) (workloads : List Deployment) :
    List (Deployment × String) :=
  workloads.filterMap fun d =>
    match d.injector? with
    | some owner => if d.carriesProxy && owner != a.fullName then some (d, owner) else none
    | none => none

end Authenticator

end AuthProxy
