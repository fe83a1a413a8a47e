import SidecarProxy.Catalog.Basic
import SidecarProxy.Json.Basic

/-!
# Writing documents

Every member is written, defaults included, in the order in which
`Catalog.Decode` names them.
-/

namespace SidecarProxy
namespace Catalog
namespace Encode

open Json

/-- The kind of an interface. -/
def kind (k : InterfaceKind) : Value :=
  .ofText k.name

/-- An endpoint. -/
def endpoint (e : Endpoint) : Value :=
  .ofMembers [
    ("path", .ofText? e.path),
    ("pathPattern", .ofText? e.pathPattern),
    ("methods", .ofTexts e.methods),
    ("permissionsRequired", .ofTexts e.permissionsRequired),
    ("permissionsDesired", .ofTexts e.permissionsDesired),
    ("modulePermissions", .ofTexts e.modulePermissions)]

/-- An interface. -/
def interface (i : Interface) : Value :=
  .ofMembers [
    ("id", .ofText i.id),
    ("interfaceType", kind i.kind),
    ("endpoints", .array (i.endpoints.map endpoint))]

/-- A module description. -/
def moduleDescription (d : ModuleDescription) : Value :=
  .ofMembers [
    ("moduleId", .ofText d.moduleId),
    ("location", .ofText? d.location),
    ("interfaces", .array (d.interfaces.map interface))]

/-- A bootstrap. -/
def bootstrap (b : Bootstrap) : Value :=
  .ofMembers [
    ("module", moduleDescription b.module),
    ("requiredModules", .array (b.requiredModules.map moduleDescription))]

end Encode
end Catalog
end SidecarProxy
