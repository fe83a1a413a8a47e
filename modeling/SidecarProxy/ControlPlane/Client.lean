import SidecarProxy.Catalog.Decode
import SidecarProxy.ControlPlane.Failure
import SidecarProxy.Json.Reader
import SidecarProxy.WebUrl.Reader
import SidecarProxy.WebUrl.Render

/-!
# Asking the control plane

The control plane is asked below a base URL: for the bootstrap of a module at
`modules/<id>`, for its description at `modules/<id>/discovery`.  The id is one
segment of the path, whatever characters it holds.
-/

namespace SidecarProxy
namespace ControlPlane

open Catalog

/-- Whoever asks the control plane. -/
structure Client where
  base : WebUrl
  deriving DecidableEq, Repr

/-- What comes back from a server. -/
inductive Response where
  /-- No whole answer came back. -/
  | broken (detail : String)
  | answer (status : Nat) (body : String)
  deriving DecidableEq, Repr

namespace Client

/-- Asks below a base URL, unless paths cannot be put behind it. -/
def ofUrl (text : String) : Except Failure Client :=
  match WebUrl.parse text with
  | .ok url => if url.hasSegments then .ok ⟨url⟩ else .error (.invalidUrl text)
  | .error _ => .error (.invalidUrl text)

/-- Where the bootstrap of a module is asked for. -/
def bootstrapUrl (c : Client) (moduleId : String) : WebUrl :=
  c.base.extend ["modules", moduleId]

/-- Where the description of a module is asked for. -/
def descriptionUrl (c : Client) (moduleId : String) : WebUrl :=
  c.base.extend ["modules", moduleId, "discovery"]

/-- The document in a response. -/
def document {α : Type} (url : WebUrl) (read : Json.Value → Option α) : Response → Except Failure α
  | .broken detail => .error (.transport detail)
  | .answer status body =>
    if status < 200 || 300 ≤ status then .error (.unsuccessful url.render status)
    else
      match (Json.parse body).bind read with
      | some d => .ok d
      | none => .error (.transport "error decoding response body")

/-- Asks for the bootstrap of a module; `send` sends a request. -/
def bootstrap (c : Client) (send : WebUrl → Response) (moduleId : String) :
    Except Failure Bootstrap :=
  document (c.bootstrapUrl moduleId) Decode.bootstrap (send (c.bootstrapUrl moduleId))

/-- Asks for the description of a module; `send` sends a request. -/
def description (c : Client) (send : WebUrl → Response) (moduleId : String) :
    Except Failure ModuleDescription :=
  document (c.descriptionUrl moduleId) Decode.moduleDescription
    (send (c.descriptionUrl moduleId))

end Client
end ControlPlane
end SidecarProxy
