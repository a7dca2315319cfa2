import AuthProxy.Settings
import AuthProxy.Definition
import AuthProxy.Json.Yaml
import AuthProxy.Notice

/-! # Starting the operator

What the operator says and how it ends where it cannot reach a cluster: with a bad setting at once,
and otherwise when it looks for the cluster's address and credentials.
-/

namespace AuthProxy

/-- How a command ends. -/
structure CommandResult where
  code : Nat
  output : String := ""
  error : String := ""
deriving DecidableEq, Repr, Inhabited

namespace CommandResult

/-- The failure with a message and, where there is one, what caused it. -/
def failure (message : String) : Option String → CommandResult
  | some cause =>
    { code := 1, error := "Error: " ++ message ++ "\n\nCaused by:\n    " ++ cause ++ "\n" }
  | none => { code := 1, error := "Error: " ++ message }

end CommandResult

namespace Startup

/-- How the operator ends without a cluster, given its environment. -/
def run (lookup : String → Option String) : CommandResult :=
  match Settings.ofLookup lookup with
  | .error e => .failure e.message (some e.cause.message)
  | .ok _ => .failure "Failed to infer configuration" none

/-- What the operator tells before that. -/
def notices (lookup : String → Option String) : List Notice :=
  .starting ::
    match Settings.ofLookup lookup with
    | .error _ => []
    | .ok c => [.configured c.image c.defaultPort c.watchNamespace]

/-- The command that prints the resource definition. -/
def printDefinition : CommandResult := { code := 0, output := Authenticator.definition.yaml }

end Startup

end AuthProxy
