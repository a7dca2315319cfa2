import AuthProxy.Pass.Reference
import AuthProxy.Proxy.Dependents

/-! # The configuration step

The authenticator's ConfigMap exists and holds the proxy's configuration file. Only its data are
compared and replaced.
-/

namespace AuthProxy.Authenticator

open Program

/-- Creates the ConfigMap; the pass stops either way. -/
def createConfigMap {α : Type} (desired : ConfigMap) (object : ObjectName) :
    Program (Progress α) := do
  if ← attempt (.create .configMap desired) then
    tell (.configMapCreated object)
    return .requeue (.created .configMap)
  else return .requeue .conflict

/-- Ensures that the ConfigMap holds the configuration; goes on with its name. -/
def configurationStep (a : Authenticator) (settings : Settings) : Program (Progress String) := do
  let ns ← a.ownNamespace
  let desired ← a.makeConfigMap settings
  let name := a.ownConfigMapName
  match ← ask (.get .configMap ns name) with
  | none => createConfigMap desired ⟨ns, name⟩
  | some found =>
    if !a.owns found.metadata then Program.fail (a.notOwned "ConfigMap" ⟨ns, name⟩)
    else if found.data = desired.data then return .proceed name
    else
      tell (.configMapDrifted ⟨ns, name⟩)
      if ← attempt (.update .configMap { found with data := desired.data }) then
        return .proceed name
      else return .requeue .conflict

end AuthProxy.Authenticator
