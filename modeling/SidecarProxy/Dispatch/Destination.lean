import SidecarProxy.Exchange.Failure
import SidecarProxy.Resolve.Search

/-!
# Destinations

A request is sent to the location of its route, followed by its path and its
query.  The path of a request to the local module passes the mount point; other
paths stay as they are.
-/

namespace SidecarProxy
namespace Dispatch

open Message Resolve Route

/-- A base URL without slashes at its end, followed by a path and a query. -/
def destinationUrl (location pathAndQuery : String) : String :=
  String.ofList (location.toList.reverse.dropWhile (· == '/')).reverse ++ pathAndQuery

/-- The path that is sent for a request whose route was found. -/
def sentPath (mount : Mount) (direction : Direction) (path : String) : String :=
  match direction with
  | .ingress => mount.modulePath path
  | .egress => path

/-- The URL that a request is sent to; its route may have no location. -/
def destination (mount : Mount) (found : Found) (inbound : Inbound) :
    Except Exchange.Failure String :=
  match found.entry.location with
  | none => .error (.locationUnknown found.entry.moduleId)
  | some location =>
    .ok (destinationUrl location
      (inbound.withQuery (sentPath mount found.direction inbound.path)))

end Dispatch
end SidecarProxy
