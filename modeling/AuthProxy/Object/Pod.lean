import AuthProxy.Object.Metadata

/-! # Pods

The part of a workload that describes its pods: containers with their ports and mounts, and the
volumes that the mounts name. Of the many other fields that pods and containers have, those are kept
which a cluster fills in or which injection has to leave as they are; of the other sources that a
volume can have, only that it is an empty directory.
-/

namespace AuthProxy

/-- A port that a container listens on. -/
structure ContainerPort where
  containerPort : Int32 := 0
  hostPort : Option Int32 := none
  name : Option String := none
  protocol : Option String := none
deriving DecidableEq, Repr, Inhabited

/-- Where a container sees a volume. -/
structure VolumeMount where
  mountPath : String := ""
  name : String := ""
  readOnly : Option Bool := none
  subPath : Option String := none
deriving DecidableEq, Repr, Inhabited

/-- An environment variable of a container. -/
structure EnvVar where
  name : String := ""
  value : Option String := none
deriving DecidableEq, Repr, Inhabited

/-- A container of a pod. -/
structure Container where
  env : Option (List EnvVar) := none
  image : Option String := none
  imagePullPolicy : Option String := none
  name : String := ""
  ports : Option (List ContainerPort) := none
  terminationMessagePath : Option String := none
  volumeMounts : Option (List VolumeMount) := none
deriving DecidableEq, Repr, Inhabited

/-- A volume filled from a ConfigMap. -/
structure ConfigMapSource where
  defaultMode : Option Int32 := none
  name : String := ""
deriving DecidableEq, Repr, Inhabited

/-- A volume filled from a Secret. -/
structure SecretSource where
  defaultMode : Option Int32 := none
  optional : Option Bool := none
  secretName : Option String := none
deriving DecidableEq, Repr, Inhabited

/-- A volume of a pod and its source. -/
structure Volume where
  configMap : Option ConfigMapSource := none
  emptyDir : Bool := false
  name : String := ""
  secret : Option SecretSource := none
deriving DecidableEq, Repr, Inhabited

/-- What a pod runs. -/
structure PodSpec where
  containers : List Container := []
  dnsPolicy : Option String := none
  initContainers : Option (List Container) := none
  nodeSelector : Option Labels := none
  restartPolicy : Option String := none
  serviceAccountName : Option String := none
  terminationGracePeriodSeconds : Option Int64 := none
  volumes : Option (List Volume) := none
deriving DecidableEq, Repr, Inhabited

/-- The pods that a workload makes. -/
structure PodTemplate where
  metadata : Option ObjectMeta := none
  spec : Option PodSpec := none
deriving DecidableEq, Repr, Inhabited

end AuthProxy
