import AuthProxy.Object.LabelSelector
import AuthProxy.Object.Pod

/-! # Deployments

Workloads with a number of replicas of one pod. A Deployment may lack its specification and its
status. Conditions and the counts of a rollout are left out: of a status only the ready replicas
count.
-/

namespace AuthProxy

/-- How replicas are replaced. -/
structure RolloutStrategy where
  type : Option String := none
deriving DecidableEq, Repr, Inhabited

/-- What a Deployment should run. -/
structure DeploymentSpec where
  paused : Option Bool := none
  progressDeadlineSeconds : Option Int32 := none
  replicas : Option Int32 := none
  revisionHistoryLimit : Option Int32 := none
  selector : LabelSelector := {}
  strategy : Option RolloutStrategy := none
  template : PodTemplate := {}
deriving DecidableEq, Repr, Inhabited

/-- What a Deployment was seen to run. -/
structure DeploymentStatus where
  readyReplicas : Option Int32 := none
  replicas : Option Int32 := none
deriving DecidableEq, Repr, Inhabited

/-- A Deployment. -/
structure Deployment where
  metadata : ObjectMeta := {}
  spec : Option DeploymentSpec := none
  status : Option DeploymentStatus := none
deriving DecidableEq, Repr, Inhabited

namespace Deployment

def nameAny (d : Deployment) : String := d.metadata.nameAny

/-- The pods of the Deployment, if it specifies them. -/
def pod? (d : Deployment) : Option PodSpec := d.spec.bind (·.template.spec)

/-- The replicas that the status reports as ready. -/
def readyReplicas? (d : Deployment) : Option Int32 := d.status.bind (·.readyReplicas)

end Deployment

end AuthProxy
