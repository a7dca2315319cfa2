import AuthProxy.Dependent
import AuthProxy.Proxy.Parts

/-! # Desired dependents

The ConfigMap and, in standalone mode, the Deployment that an authenticator should have.
-/

namespace AuthProxy.Authenticator

/-- The data of the ConfigMap: the configuration file under its key. -/
def confData (text : String) : Labels := .ofList [(Proxy.confKey, text)]

def makeConfigMap (a : Authenticator) (settings : Settings) : Except Error ConfigMap := do
  let metadata ← a.dependentMeta a.ownConfigMapName
  let text ← a.confText settings
  return { metadata, data := some (confData text) }

/-- The pods of the standalone proxy. -/
def proxyTemplate (a : Authenticator) (secretName configMapName : String) (settings : Settings) :
    PodTemplate where
  metadata := some { labels := some a.dependentLabels }
  spec := some {
    containers := [a.proxy settings]
    volumes := some (Proxy.volumes secretName configMapName) }

/-- The specification of the standalone proxy. -/
def deploymentSpec (a : Authenticator) (secretName configMapName : String) (replicas : Int32)
    (settings : Settings) : DeploymentSpec where
  replicas := some replicas
  selector := { matchLabels := some a.dependentLabels }
  template := a.proxyTemplate secretName configMapName settings

def makeDeployment (a : Authenticator) (secretName configMapName : String) (replicas : Int32)
    (settings : Settings) : Except Error Deployment := do
  let metadata ← a.dependentMeta a.ownDeploymentName
  return { metadata, spec := some (a.deploymentSpec secretName configMapName replicas settings) }

end AuthProxy.Authenticator
