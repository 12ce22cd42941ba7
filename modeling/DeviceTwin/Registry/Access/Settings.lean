import DeviceTwin.Duration
import DeviceTwin.Registry.Access.ConnectionString
import DeviceTwin.Text.Quoted

/-!
How a client reaches the service: the host or an endpoint in its place, the version of the interface, how long to wait
for a response, and what the client calls itself.
-/
namespace DeviceTwin.Registry

structure Settings where
  hostName : String
  /-- The address that requests are sent to in place of the host's. -/
  endpoint : Option String
  apiVersion : String
  timeout : Duration
  userAgent : String
deriving DecidableEq

/-- The version of the interface where no other one is chosen. -/
def defaultApiVersion : String := "2021-04-12"

def defaultTimeout : Duration := .ofSeconds 100

def defaultUserAgent : String := "twinhub-registry/0.1.0"

namespace Settings

def new (hostName : String) : Settings :=
  ⟨hostName, none, defaultApiVersion, defaultTimeout, defaultUserAgent⟩

/-- The address of every request, without slashes at the end of an endpoint. -/
def baseAddress (c : Settings) : String :=
  match c.endpoint with
  | some endpoint => String.ofList (Text.dropTrailing (· = '/') endpoint.toList)
  | none => "https://" ++ c.hostName

def describe (c : Settings) : String :=
  let endpoint := match c.endpoint with
    | some endpoint => "Some(" ++ Text.quoted endpoint ++ ")"
    | none => "None"
  "RegistryConfig \x7b host_name: " ++ Text.quoted c.hostName ++ ", endpoint: " ++ endpoint ++ ", api_version: " ++
    Text.quoted c.apiVersion ++ ", timeout: " ++ c.timeout.describe ++ ", user_agent: " ++
    Text.quoted c.userAgent ++ " \x7d"

end Settings

def ConnectionString.settings (c : ConnectionString) : Settings := .new c.hostName

end DeviceTwin.Registry
