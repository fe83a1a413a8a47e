import SidecarProxy.Exchange.Forwarder
import SidecarProxy.Refusal

/-!
# Replies

A caller gets the answer of a module, a refusal of the sidecar, or a bare status
when the path is no path at all.
-/

namespace SidecarProxy
namespace Dispatch

open Message

/-- What a reply carries. -/
inductive Content where
  | nothing
  /-- The error of a refusal, in JSON. -/
  | refusal (r : Refusal)
  /-- The body of the answer of a module. -/
  | body (t : Transfer.State)
  deriving DecidableEq, Repr

/-- What a caller gets. -/
structure Reply where
  status : Nat
  headers : Headers := []
  content : Content := .nothing
  deriving DecidableEq, Repr

namespace Reply

/-- The reply that carries a refusal. -/
def ofRefusal (r : Refusal) : Reply :=
  ⟨r.status, [("content-type", Refusal.contentType)], .refusal r⟩

/-- The reply that hands on an answer. -/
def ofAnswer (a : Exchange.Answer) : Reply :=
  ⟨a.status, a.headers, (a.body.map Content.body).getD .nothing⟩

/-- The reply to a request that was forwarded; nothing when forwarding broke off. -/
def ofResult? : Exchange.Result → Option Reply
  | .answered a => some (ofAnswer a)
  | .failed e => some (ofRefusal (.ofExchange e))
  | .crashed => none

/-- The reply to a request for no path. -/
def noPath : Reply := { status := 404 }

/-- A reply to a request by `HEAD`, which carries nothing. -/
def bare (r : Reply) : Reply :=
  { r with content := .nothing }

end Reply
end Dispatch
end SidecarProxy
