import AuthProxy.Settings
import AuthProxy.Object.Authenticator

/-! # The proxy's configuration file

The server block that asks for the password and passes requests on. It depends on three values only:
the port to listen on, and the host and port behind it.
-/

namespace AuthProxy

namespace Proxy

/-- Where the container sees its configuration. -/
def confMountPath : String := "/etc/nginx/conf.d"

/-- Where the container sees the credentials. -/
def credentialsMountPath : String := "/etc/nginx/secret"

/-- The name of the configuration file, and its key in the ConfigMap. -/
def confKey : String := "nginx.conf"

end Proxy

/-- What a proxy configuration depends on. -/
structure ProxyConf where
  listen : Int32
  backendHost : String
  backendPort : Int32
deriving DecidableEq, Repr, Inhabited

namespace ProxyConf

def backend (c : ProxyConf) : String := c.backendHost ++ ":" ++ toString c.backendPort

def lines (c : ProxyConf) : List String := [
  "server \x7b",
  "    listen " ++ toString c.listen ++ ";",
  "",
  "    location / \x7b",
  "        auth_basic \"Restricted\";",
  "        auth_basic_user_file " ++ Proxy.credentialsMountPath ++ "/htpasswd;",
  "",
  "        proxy_pass http://" ++ c.backend ++ ";",
  "        proxy_set_header Host $host;",
  "        proxy_set_header X-Real-IP $remote_addr;",
  "        proxy_set_header X-Forwarded-For $proxy_add_x_forwarded_for;",
  "    \x7d",
  "\x7d"]

/-- The configuration file. -/
def text (c : ProxyConf) : String := String.join (c.lines.map (· ++ "\n"))

end ProxyConf

namespace Authenticator

/-- The host behind the proxy: the pod itself, or the service, which then has to be named. -/
def backendHost (a : Authenticator) : Except Error String :=
  match a.spec.mode with
  | .sidecar => .ok "127.0.0.1"
  | .standalone =>
    if a.spec.appService.isEmpty then
      .error (.invalidSpec (a.fullName ++ ": appService is required in standalone mode"))
    else .ok a.spec.appService

/-- The values that the configuration of the authenticator's proxy depends on. -/
def proxyConf (a : Authenticator) (settings : Settings) : Except Error ProxyConf := do
  return ⟨a.listenPort settings.defaultPort, ← a.backendHost, a.spec.appPort⟩

/-- The configuration file of the authenticator's proxy. -/
def confText (a : Authenticator) (settings : Settings) : Except Error String := do
  return (← a.proxyConf settings).text

end Authenticator

end AuthProxy
