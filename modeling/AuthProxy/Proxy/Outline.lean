import AuthProxy.Object.Deployment

/-! # Outlines

The part of a Deployment that the operator manages. Everything that the API fills in by itself is
left out, so a Deployment is never found to differ because of it.
-/

namespace AuthProxy

/-- The managed part of a container. -/
structure ContainerOutline where
  name : String
  image : Option String
  ports : List Int32
  mounts : List (String × String × Bool)
deriving DecidableEq, Repr

/-- The managed part of a volume. -/
structure VolumeOutline where
  name : String
  configMap : Option String
  secret : Option String
deriving DecidableEq, Repr

/-- The managed part of a Deployment. -/
structure DeploymentOutline where
  replicas : Int32
  selector : Labels
  templateLabels : Labels
  containers : List ContainerOutline
  volumes : List VolumeOutline
deriving DecidableEq, Repr

namespace Container

def outline (c : Container) : ContainerOutline where
  name := c.name
  image := c.image
  ports := (c.ports.getD []).map (·.containerPort)
  mounts := (c.volumeMounts.getD []).map fun m => (m.name, m.mountPath, m.readOnly.getD false)

end Container

namespace Volume

def outline (v : Volume) : VolumeOutline where
  name := v.name
  configMap := v.configMap.map (·.name)
  secret := v.secret.bind (·.secretName)

end Volume

namespace DeploymentSpec

/-- The managed part of a specification; one replica and no labels are what is meant where nothing
is said. -/
def outline (s : DeploymentSpec) : DeploymentOutline :=
  let pod := s.template.spec.getD {}
  { replicas := s.replicas.getD 1
    selector := s.selector.matchLabels.getD .empty
    templateLabels := (s.template.metadata.bind (·.labels)).getD .empty
    containers := pod.containers.map (·.outline)
    volumes := (pod.volumes.getD []).map (·.outline) }

end DeploymentSpec

/-- The managed part of a Deployment. -/
def Deployment.outline (d : Deployment) : DeploymentOutline := (d.spec.getD {}).outline

end AuthProxy
