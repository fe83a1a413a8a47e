/-!
# Refresh events

An event names the tables that are to be compiled again from the documents of
the control plane.
-/

namespace SidecarProxy
namespace Refresh

/-- What changed in the control plane. -/
inductive Event where
  /-- The interfaces of the local module. -/
  | moduleChanged
  /-- The modules that the local one calls. -/
  | dependenciesChanged
  /-- Anything: both tables are compiled again. -/
  | full
  deriving DecidableEq, Repr, Inhabited

end Refresh
end SidecarProxy
