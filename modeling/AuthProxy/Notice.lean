import AuthProxy.Duration
import AuthProxy.Object.Name
import AuthProxy.Progress

/-! # Notices

What the operator tells its log. A notice is a value with the facts it reports; its level and its
text follow from it.
-/

namespace AuthProxy

/-- How much attention a notice asks for. -/
inductive Level where
  | info
  | warn
  | error
deriving DecidableEq, Repr, Inhabited

def Level.name : Level → String
  | info => "INFO"
  | warn => "WARN"
  | error => "ERROR"

/-- Something worth telling. -/
inductive Notice where
  | authenticatorGone (object : ObjectName)
  | secretCreated (secret : ObjectName)
  | referenceSet (fullName secretName : String)
  | secretAdopted (secret : ObjectName)
  | passwordFileMissing (secret : ObjectName) (key : String)
  | secretMissing (secret : ObjectName)
  | secretVanished (secret : ObjectName)
  | writeLost (error : Error)
  | configMapCreated (configMap : ObjectName)
  | configMapDrifted (configMap : ObjectName)
  | deploymentCreated (deployment : ObjectName)
  | deploymentDrifted (deployment : ObjectName)
  | replicaSumTooLarge
  | selectorEmpty
  | foreignProxy (workload : ObjectName) (owner : String)
  | proxyInjected (workload : ObjectName)
  | statusReported (readyReplicas : Int32)
  | retrying (fullName : String) (delay : Duration) (reason : Requeue)
  | needsIntervention (fullName : String) (error : Error) (delay : Duration)
  | passFailed (fullName : String) (error : Error) (delay : Duration)
  | definitionServed (apiVersion : String)
  | definitionNotServed (apiVersion : String) (seconds : Nat)
  | definitionCheckFailed (error : Error) (seconds : Nat)
  | starting
  | configured (image : String) (defaultPort : Int32) (watchNamespace : Option String)
  | connected
  | awaitingDefinition
  | stopped
deriving DecidableEq, Repr

namespace Notice

def level : Notice → Level
  | passwordFileMissing .. | secretMissing .. | secretVanished .. | replicaSumTooLarge
  | selectorEmpty | foreignProxy .. | retrying .. | definitionCheckFailed .. | stopped => .warn
  | needsIntervention .. | passFailed .. => .error
  | _ => .info

/-- The text of a notice, with delays written by `delayText`. -/
def textWith (delayText : Duration → String) : Notice → String
  | authenticatorGone o =>
    "BasicAuthenticator " ++ o.text ++ " not found, assuming it was deleted"
  | secretCreated s => "Created credentials secret " ++ s.text
  | referenceSet i s => "Set credentialsSecretRef of " ++ i ++ " to " ++ s
  | secretAdopted s =>
    "Secret " ++ s.text ++ " was created earlier but never referenced, adopting it"
  | passwordFileMissing s key =>
    "Secret " ++ s.text ++ " has no '" ++ key ++ "' key, the proxy will reject every request"
  | secretMissing s => "Referenced credentials secret " ++ s.text ++ " does not exist yet"
  | secretVanished s => "Secret " ++ s.text ++ " disappeared right after being referenced"
  | writeLost e => "Write lost a race (" ++ e.message ++ "), requeueing"
  | configMapCreated c => "Created nginx ConfigMap " ++ c.text
  | configMapDrifted c => "ConfigMap " ++ c.text ++ " drifted, updating"
  | deploymentCreated d => "Created proxy deployment " ++ d.text
  | deploymentDrifted d => "Deployment " ++ d.text ++ " drifted, updating"
  | replicaSumTooLarge => "Adaptive scale replica sum overflows, using spec.replicas"
  | selectorEmpty => "Sidecar mode without a selector matches no workloads"
  | foreignProxy w owner =>
    w.text ++ " already carries a proxy injected by " ++ owner ++ ", leaving it alone"
  | proxyInjected w => "Injected proxy sidecar into " ++ w.text
  | statusReported n => "Reported " ++ toString n ++ " ready replicas"
  | retrying i d r => i ++ ": retrying in " ++ delayText d ++ " (" ++ r.text ++ ")"
  | needsIntervention i e d =>
    "Reconciliation of " ++ i ++ " needs manual intervention: " ++ e.message
      ++ ", retrying in " ++ delayText d
  | passFailed i e d =>
    "Reconciliation error for " ++ i ++ ": " ++ e.message ++ ", retrying in " ++ delayText d
  | definitionServed v => "BasicAuthenticator CRD (" ++ v ++ ") is available"
  | definitionNotServed v n =>
    "BasicAuthenticator CRD (" ++ v ++ ") not yet available, waiting " ++ toString n
      ++ " seconds..."
  | definitionCheckFailed e n =>
    "Error checking for BasicAuthenticator CRD: " ++ e.message ++ ", retrying in "
      ++ toString n ++ " seconds..."
  | starting => "Starting basic-authenticator operator"
  | configured image port ns =>
    "Configuration loaded: nginx_image=" ++ image ++ ", default_proxy_port=" ++ toString port
      ++ ", watch_namespace=" ++ ns.getD "<all>"
  | connected => "Connected to Kubernetes cluster"
  | awaitingDefinition => "Waiting for BasicAuthenticator CRD to become available..."
  | stopped => "Reconciler stopped"

/-- The text of a notice. -/
def text (n : Notice) : String := n.textWith Duration.text

/-- A line of the log, with delays written by `delayText`. -/
def lineWith (delayText : Duration → String) (n : Notice) : String :=
  n.level.name ++ " " ++ n.textWith delayText

/-- A line of the log. -/
def line (n : Notice) : String := n.lineWith Duration.text

end Notice

end AuthProxy
