import SidecarProxy.Deadline
import SidecarProxy.Message.Boundary
import SidecarProxy.Message.Correlation
import SidecarProxy.Route.Entry
import SidecarProxy.Transfer.Basic
import SidecarProxy.Uri.Basic

/-!
# Requests and answers

A request is sent on with the header fields that may cross the proxy, a longer
chain of ids and, towards other modules, the signature of this sidecar.  Bodies
cross the proxy as transfers.
-/

namespace SidecarProxy
namespace Exchange

open Message Route

/-- A request as it was received. -/
structure Request where
  method : String
  uri : Uri
  headers : Headers := []
  /-- The body; nothing when the request is known to have none. -/
  body : Option Transfer.Source := none
  deriving DecidableEq, Repr

/-- A request as it is sent to a target. -/
structure Sent where
  method : String
  destination : Uri
  headers : Headers
  body : Option Transfer.State
  deriving DecidableEq, Repr

/-- The answer of a target when its header has arrived. -/
structure Response where
  status : Nat
  headers : Headers := []
  /-- The body; nothing when the answer is known to have none. -/
  body : Option Transfer.Source := none
  deriving DecidableEq, Repr

/-- What becomes of a request that is sent: after some time an answer, or the cause of a failure. -/
abbrev Target := Sent → Work String Response

/-- The chain of ids that is sent to a destination, with a random draw for the new id. -/
def Request.chain (r : Request) (draw : Nat) (destination : Uri) : String :=
  chainRequestId (r.headers.text? requestIdName) draw destination.path

/-- Puts the chain of ids into a header, if a field can hold it. -/
def putChain? (chain : String) (hs : Headers) : Option Headers :=
  if isFieldValue chain then hs.put? requestIdName chain else some hs

/-- Signs the requests to other modules. -/
def sign? (signature : Signature) (direction : Direction) (hs : Headers) : Option Headers :=
  match direction with
  | .ingress => some hs
  | .egress => signature.sign? hs

/-- The header fields that are sent to a target; nothing when there is no room for them. -/
def sentHeaders? (signature : Signature) (direction : Direction) (chain : String)
    (hs : Headers) : Option Headers := do
  let passing ← towardsTarget? hs
  let chained ← putChain? chain passing
  sign? signature direction chained

end Exchange
end SidecarProxy
