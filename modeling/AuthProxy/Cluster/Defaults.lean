import AuthProxy.Kind

/-! # Defaults of stored Deployments

What a cluster fills in when it stores a Deployment that leaves it out.
-/

namespace AuthProxy

/-- A value that is there. -/
def fillIn {α : Type} (o : Option α) (default : α) : Option α := some (o.getD default)

theorem fillIn_fillIn {α : Type} (o : Option α) (a : α) : fillIn (fillIn o a) a = fillIn o a := rfl

namespace ContainerPort

def withDefaults (p : ContainerPort) : ContainerPort :=
  { p with protocol := fillIn p.protocol "TCP" }

end ContainerPort

namespace Container

def withDefaults (c : Container) : Container :=
  { c with
    imagePullPolicy := fillIn c.imagePullPolicy "IfNotPresent"
    terminationMessagePath := fillIn c.terminationMessagePath "/dev/termination-log"
    ports := c.ports.map (·.map (·.withDefaults)) }

end Container

namespace PodSpec

def withDefaults (p : PodSpec) : PodSpec :=
  { p with
    restartPolicy := fillIn p.restartPolicy "Always"
    dnsPolicy := fillIn p.dnsPolicy "ClusterFirst"
    terminationGracePeriodSeconds := fillIn p.terminationGracePeriodSeconds 30
    containers := p.containers.map (·.withDefaults) }

end PodSpec

namespace DeploymentSpec

def withDefaults (s : DeploymentSpec) : DeploymentSpec :=
  { s with
    revisionHistoryLimit := fillIn s.revisionHistoryLimit 10
    progressDeadlineSeconds := fillIn s.progressDeadlineSeconds 600
    strategy := some { type := fillIn ((s.strategy.getD {}).type) "RollingUpdate" }
    template := { s.template with spec := s.template.spec.map (·.withDefaults) } }

end DeploymentSpec

def Deployment.withDefaults (d : Deployment) : Deployment :=
  { d with spec := d.spec.map (·.withDefaults) }

/-- The object as the cluster stores it; only Deployments have defaults. -/
def Kind.withDefaults : (k : Kind) → k.Object → k.Object
  | .authenticator, a => a
  | .configMap, c => c
  | .deployment, d => d.withDefaults
  | .secret, s => s

@[simp] theorem Kind.metadata_withDefaults (k : Kind) (o : k.Object) :
    k.metadata (k.withDefaults o) = k.metadata o := by
  cases k <;> rfl

end AuthProxy
