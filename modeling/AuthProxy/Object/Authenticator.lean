import AuthProxy.Object.LabelSelector
import AuthProxy.Error

/-! # Authenticators

The resource that asks for a password in front of a workload, and the names of the objects that
follow from it.
-/

namespace AuthProxy

/-- Whether the proxy runs in a Deployment of its own or inside the workloads. -/
inductive Mode where
  | standalone
  | sidecar
deriving DecidableEq, Repr, Inhabited

namespace Mode

def name : Mode → String
  | standalone => "standalone"
  | sidecar => "sidecar"

def all : List Mode := [standalone, sidecar]

def ofName? (s : String) : Option Mode := all.find? (fun m => m.name = s)

end Mode

/-- What an authenticator asks for. -/
structure AuthenticatorSpec where
  mode : Mode := .standalone
  /-- The Secret with the credentials; empty to have one generated. -/
  credentialsSecretRef : String := ""
  selector : LabelSelector := {}
  appPort : Int32
  appService : String := ""
  replicas : Int32 := 1
  adaptiveScale : Bool := false
  proxyPort : Option Int32 := none
deriving DecidableEq, Repr, Inhabited

/-- What was last reported about an authenticator. -/
structure AuthenticatorStatus where
  readyReplicas : Int32 := 0
deriving DecidableEq, Repr, Inhabited

/-- An authenticator. -/
structure Authenticator where
  metadata : ObjectMeta
  spec : AuthenticatorSpec
  status : Option AuthenticatorStatus := none
deriving DecidableEq, Repr, Inhabited

namespace Authenticator

def apiGroup : String := "authenticator.snappcloud.io"

def version : String := "v1alpha1"

def apiVersion : String := apiGroup ++ "/" ++ version

def kindName : String := "BasicAuthenticator"

def nameAny (a : Authenticator) : String := a.metadata.nameAny

/-- Whether a Secret is already referenced. -/
def hasReference (a : Authenticator) : Bool := !a.spec.credentialsSecretRef.isEmpty

/-- The Secret that is generated when none is referenced. -/
def ownSecretName (a : Authenticator) : String := a.nameAny ++ "-credentials"

def ownConfigMapName (a : Authenticator) : String := a.nameAny ++ "-nginx-conf"

def ownDeploymentName (a : Authenticator) : String := a.nameAny ++ "-nginx"

/-- The port the proxy listens on. -/
def listenPort (a : Authenticator) (default : Int32) : Int32 := a.spec.proxyPort.getD default

/-- The ready replicas that were last reported; none before the first report. -/
def reportedReady (a : Authenticator) : Int32 :=
  match a.status with
  | some s => s.readyReplicas
  | none => 0

/-- Namespace and name, which tell authenticators apart in notices and in the backoff. -/
def fullName (a : Authenticator) : String := a.metadata.namespaceAny ++ "/" ++ a.nameAny

/-- The namespace, which every dependent object needs. -/
def ownNamespace (a : Authenticator) : Except Error String :=
  match a.metadata.ns with
  | some ns => .ok ns
  | none => .error (.missingKey ".metadata.namespace")

end Authenticator

end AuthProxy
