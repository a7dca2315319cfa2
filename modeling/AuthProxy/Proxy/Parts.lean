import AuthProxy.Object.Pod
import AuthProxy.Proxy.Conf

/-! # The proxy in a pod

The container that runs the proxy and the two volumes it mounts, one with its configuration and one
with the credentials. They are the same in a Deployment of its own and inside a workload.
-/

namespace AuthProxy

namespace Proxy

/-- The name by which an injected proxy is recognised. -/
def containerName : String := "basic-auth-proxy"

def confVolume : String := "basic-auth-nginx-conf"

def credentialsVolume : String := "basic-auth-credentials"

def portName : String := "basic-auth"

/-- A mount that the container cannot write to. -/
def readOnlyMount (volume path : String) : VolumeMount :=
  { name := volume, mountPath := path, readOnly := some true }

/-- The container that runs the proxy. -/
def container (image : String) (port : Int32) : Container where
  name := containerName
  image := some image
  ports := some [{ name := some portName, containerPort := port }]
  volumeMounts := some [
    readOnlyMount confVolume confMountPath,
    readOnlyMount credentialsVolume credentialsMountPath]

/-- The volumes that the container mounts. -/
def volumes (secretName configMapName : String) : List Volume := [
  { name := confVolume, configMap := some { name := configMapName } },
  { name := credentialsVolume, secret := some { secretName := some secretName } }]

end Proxy

/-- The container of the authenticator's proxy. -/
def Authenticator.proxy (a : Authenticator) (settings : Settings) : Container :=
  Proxy.container settings.image (a.listenPort settings.defaultPort)

end AuthProxy
