import SidecarProxy.Message.Signature
import SidecarProxy.Text.Blank
import SidecarProxy.Text.Fields

/-!
# Header fields that cross the proxy

A field that describes one connection stops at the proxy: the seven hop-by-hop
fields and every field that `Connection` lists.  On the way to the target the host
and the user agent stop as well, and the signature never crosses.
-/

namespace SidecarProxy
namespace Message

open Text

/-- The fields that describe a connection. -/
def hopByHopNames : List String :=
  ["connection", "keep-alive", "proxy-connection", "te", "trailer", "transfer-encoding",
    "upgrade"]

/-- Whether a field describes a connection. -/
def isHopByHop (name : String) : Bool :=
  hopByHopNames.contains name

/-- The fields that `Connection` lists, in small letters. -/
def listedNames (hs : Headers) : List String :=
  (((hs.valuesOf "connection").filter isReadable).flatMap (split ',')).map
      (fun t => lowerAscii (trim t)) |>.filter (· != "")

/-- The fields that pass, those that `stops` holds of apart. -/
def crossing (hs : Headers) (stops : String → Bool) : Headers :=
  let listed := listedNames hs
  hs.filter fun f => !(isHopByHop f.1 || listed.contains f.1 || stops f.1)

/--
A copy of the fields that pass.  Room for it is made at once, for as many names as
there are fields before any is left out; nothing when that is too much.
-/
def copied? (hs : Headers) (stops : String → Bool) : Option Headers :=
  if hs.length ≤ Headers.mostNames then some (crossing hs stops) else none

/-- The fields that do not reach the target of a request. -/
def stopsBeforeTarget (name : String) : Bool :=
  name == "user-agent" || name == "host" || name == signatureName

/-- The fields that do not reach the caller. -/
def stopsBeforeCaller (name : String) : Bool :=
  name == signatureName

/-- The fields of a request that are sent to its target. -/
def towardsTarget? (hs : Headers) : Option Headers :=
  copied? hs stopsBeforeTarget

/-- The fields of a response that are sent back to the caller. -/
def towardsCaller? (hs : Headers) : Option Headers :=
  copied? hs stopsBeforeCaller

end Message
end SidecarProxy
