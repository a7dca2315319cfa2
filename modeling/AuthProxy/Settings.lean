import AuthProxy.Duration
import AuthProxy.Text.Numeral

/-! # Settings

The settings of the operator and how they are read from environment variables. A variable that is
not set leaves its default. The numbers are read in the order port, backoff base, backoff maximum,
and the first bad one is the error.
-/

namespace AuthProxy

/-- The settings of the operator. -/
structure Settings where
  /-- The image that every proxy runs. -/
  image : String := "nginx:1.25-alpine"
  /-- The port of a proxy whose authenticator does not name one. -/
  defaultPort : Int32 := 8080
  /-- The only namespace that is watched. -/
  watchNamespace : Option String := none
  backoffBase : Duration := .ofMillis 500
  backoffMax : Duration := .ofSeconds 300
deriving DecidableEq, Repr, Inhabited

/-- A setting that is no number in its range, with the text that was given. -/
inductive SettingsError where
  | port (given : String) (cause : NumeralError)
  | backoffBase (given : String) (cause : NumeralError)
  | backoffMax (given : String) (cause : NumeralError)
deriving DecidableEq, Repr

namespace SettingsError

def message : SettingsError → String
  | port v _ => "DEFAULT_PROXY_PORT is not a port number: " ++ v
  | backoffBase v _ => "BACKOFF_BASE_MS is not a number: " ++ v
  | backoffMax v _ => "BACKOFF_MAX_SECS is not a number: " ++ v

def cause : SettingsError → NumeralError
  | port _ c | backoffBase _ c | backoffMax _ c => c

end SettingsError

namespace Settings

/-- The environment variables that hold settings. -/
def settingNames : List String :=
  ["NGINX_IMAGE", "DEFAULT_PROXY_PORT", "WATCH_NAMESPACE", "BACKOFF_BASE_MS", "BACKOFF_MAX_SECS"]

/-- The number that a variable holds, or nothing if it is not set. -/
def number (range : NumeralRange) (failure : String → NumeralError → SettingsError) :
    Option String → Except SettingsError (Option Int)
  | none => .ok none
  | some v =>
    match range.read v with
    | .ok n => .ok (some n)
    | .error cause => .error (failure v cause)

/-- The settings that `lookup` gives. An empty namespace stands for none. -/
def ofLookup (lookup : String → Option String) : Except SettingsError Settings := do
  let defaults : Settings := {}
  let port ← number .int32 .port (lookup "DEFAULT_PROXY_PORT")
  let base ← number .uint64 .backoffBase (lookup "BACKOFF_BASE_MS")
  let max ← number .uint64 .backoffMax (lookup "BACKOFF_MAX_SECS")
  return {
    image := (lookup "NGINX_IMAGE").getD defaults.image
    defaultPort := (port.map Int32.ofInt).getD defaults.defaultPort
    watchNamespace := (lookup "WATCH_NAMESPACE").filter (fun ns => !ns.isEmpty)
    backoffBase := (base.map fun n => .ofMillis n.toNat).getD defaults.backoffBase
    backoffMax := (max.map fun n => .ofSeconds n.toNat).getD defaults.backoffMax }

end Settings

end AuthProxy
