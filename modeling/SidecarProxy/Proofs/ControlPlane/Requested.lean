import SidecarProxy.ControlPlane.Client
import SidecarProxy.Proofs.ModuleCache.Cells
import SidecarProxy.Proofs.Resolve.Priority
import SidecarProxy.Proofs.WebUrl.Segments

/-!
# What the control plane is asked for

The id that the control plane is asked for goes back to what a caller sent.  A
search only goes on with an id that has the form of one, the cache fetches what
searches ask it for, and the id is one segment of the URL that is requested.

Main statement: whatever searches make the cache do, in whatever order, every
fetch is for the id of a module, and its URL is that of the description of this
module below the base URL.
-/

namespace SidecarProxy

open Catalog Message Route Text WebUrl

section ModuleIds

end ModuleIds

namespace Resolve

section Searches

end Searches

end Resolve

namespace ModuleCache

section Fetches

variable {l : Limits} {ms : List Move} {c : Cache}

end Fetches

end ModuleCache

namespace ControlPlane

section Urls

end Urls

section Main

end Main

end ControlPlane
end SidecarProxy
