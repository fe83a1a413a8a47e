import SidecarProxy.Span
import SidecarProxy.Text.Blank
import SidecarProxy.Text.Fields

/-!
# Correlation ids

A request carries a chain of ids, one for each hop, joined by semicolons.  A hop
is six digits, a slash and the first segment of the path that the hop asks for.
-/

namespace SidecarProxy
namespace Message

open Text

/-- The name of the field with the chain of ids. -/
def requestIdName : String := "x-okapi-request-id"

/-- The first segment of a path, after any slashes. -/
def firstSegment (path : List Char) : List Char :=
  (path.dropWhile (· == '/')).takeWhile fun c => c != '/' && c != '?'

/-- A new id: six digits of a random number below one million, and the first segment. -/
def newRequestId (draw : Nat) (path : String) : String :=
  String.ofList (Span.padded 6 (draw % 1000000) ++ '/' :: firstSegment path.toList)

/-- Adds a new id at the end of a chain. -/
def chainRequestId (chain : Option String) (draw : Nat) (path : String) : String :=
  match (chain.map trim).filter (· != "") with
  | some hops => hops ++ ";" ++ newRequestId draw path
  | none => newRequestId draw path

end Message
end SidecarProxy
