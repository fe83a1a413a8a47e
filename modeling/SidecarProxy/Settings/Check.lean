import SidecarProxy.Settings.Basic
import SidecarProxy.Settings.SocketAddress
import SidecarProxy.Text.Blank
import SidecarProxy.WebUrl.Reader

/-!
# Checking settings

Every setting that can be of no use is checked on its own, so that all problems
are reported at once, in a fixed order.
-/

namespace SidecarProxy
namespace Settings

/-- What is wrong with a setting. -/
inductive Fault where
  | noSocketAddress
  | blank
  | badUrl (why : WebUrl.ParseError)
  | unsupportedScheme (scheme : String)
  | notPositive
  /-- The gateway is to be used and is not known. -/
  | gatewayRequired
  deriving DecidableEq, Repr

/-- The wording of a fault. -/
def Fault.message : Fault → String
  | .noSocketAddress => "not a socket address"
  | .blank => "must not be blank"
  | .badUrl why => why.message
  | .unsupportedScheme scheme => s!"unsupported scheme '{scheme}'"
  | .notPositive => "must be positive"
  | .gatewayRequired => "required when forward_unknown_requests is enabled"

/-- A setting that cannot be used. -/
structure Problem where
  /-- The name of the setting in a document. -/
  field : String
  fault : Fault
  deriving DecidableEq, Repr

/-- The check of an address on which to listen. -/
def checkAddress (text : String) : Option Fault :=
  if (SocketAddress.parse? text).isSome then none else some .noSocketAddress

/-- The check of a text that may not be blank. -/
def checkText (text : String) : Option Fault :=
  if Text.isBlank text then some .blank else none

/-- The check of a number that may not be zero. -/
def checkNumber (n : Nat) : Option Fault :=
  if n = 0 then some .notPositive else none

/-- The check of a URL, which has to be one of the web. -/
def checkUrl (text : String) : Option Fault :=
  match WebUrl.parse text with
  | .ok url =>
    if url.scheme = "http" || url.scheme = "https" then none
    else some (.unsupportedScheme url.scheme)
  | .error why => some (.badUrl why)

/-- The check of the gateway, which has to be known if it is to be used. -/
def checkGateway (url : Option String) (needed : Bool) : Option Fault :=
  match url with
  | some text => checkUrl text
  | none => if needed then some .gatewayRequired else none

/-- The checks, each with the name of its setting. -/
def checks : List (String × (Settings → Option Fault)) := [
  ("listener.bind_address", fun s => checkAddress s.listener.bindAddress),
  ("module.id", fun s => checkText s.module.id),
  ("module.name", fun s => checkText s.module.name),
  ("module.url", fun s => checkUrl s.module.url),
  ("control_plane.url", fun s => checkUrl s.controlPlane.url),
  ("control_plane.request_timeout_secs", fun s => checkNumber s.controlPlane.requestTimeoutSecs),
  ("control_plane.bootstrap_retry.max_attempts",
    fun s => checkNumber s.controlPlane.retry.maxAttempts),
  ("routing.gateway_url", fun s => checkGateway s.routing.gatewayUrl s.routing.forwardUnknown),
  ("routing.discovery_cache.max_entries", fun s => checkNumber s.routing.cache.maxEntries),
  ("routing.discovery_cache.ttl_secs", fun s => checkNumber s.routing.cache.ttlSecs),
  ("proxy.request_timeout_ms", fun s => checkNumber s.proxy.requestTimeoutMillis),
  ("proxy.write_queue_frames", fun s => checkNumber s.proxy.writeQueueFrames)]

/-- The problems of settings, in the order of the checks. -/
def problems (s : Settings) : List Problem :=
  checks.filterMap fun c => (c.2 s).map fun fault => ⟨c.1, fault⟩

/-- Settings without a problem, or all of their problems. -/
def validate (s : Settings) : Except (List Problem) Settings :=
  if s.problems.isEmpty then .ok s else .error s.problems

end Settings
end SidecarProxy
