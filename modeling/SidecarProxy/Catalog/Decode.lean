import SidecarProxy.Catalog.Basic
import SidecarProxy.Json.Record

/-!
# Reading documents

Every member of a record has a default.  Null stands for a missing text where a
text may be missing, and nowhere else.
-/

namespace SidecarProxy
namespace Catalog
namespace Decode

open Json Json.Record

/-- The kind of an interface: its name, or an object with that name for its one member, null. -/
def kind : Value → Option InterfaceKind
  | .string (some name) => some (.ofName name)
  | .object [(some name, .null)] => some (.ofName name)
  | _ => none

/-- The members of an endpoint. -/
def endpointNames : List String :=
  ["path", "pathPattern", "methods", "permissionsRequired", "permissionsDesired",
    "modulePermissions"]

/-- An endpoint. -/
def endpoint (v : Value) : Option Endpoint := do
  let ms ← members .refused endpointNames v
  return {
    path := ← member ms "path" optionalText none
    pathPattern := ← member ms "pathPattern" optionalText none
    methods := ← member ms "methods" (list text) []
    permissionsRequired := ← member ms "permissionsRequired" (list text) []
    permissionsDesired := ← member ms "permissionsDesired" (list text) []
    modulePermissions := ← member ms "modulePermissions" (list text) [] }

/-- The members of an interface. -/
def interfaceNames : List String := ["id", "interfaceType", "endpoints"]

/-- An interface. -/
def interface (v : Value) : Option Interface := do
  let ms ← members .refused interfaceNames v
  return {
    id := ← member ms "id" text ""
    kind := ← member ms "interfaceType" kind .regular
    endpoints := ← member ms "endpoints" (list endpoint) [] }

/-- The members of a module description. -/
def moduleNames : List String := ["moduleId", "location", "interfaces"]

/-- A module description. -/
def moduleDescription (v : Value) : Option ModuleDescription := do
  let ms ← members .refused moduleNames v
  return {
    moduleId := ← member ms "moduleId" text ""
    location := ← member ms "location" optionalText none
    interfaces := ← member ms "interfaces" (list interface) [] }

/-- The members of a bootstrap. -/
def bootstrapNames : List String := ["module", "requiredModules"]

/-- A bootstrap. -/
def bootstrap (v : Value) : Option Bootstrap := do
  let ms ← members .refused bootstrapNames v
  return {
    module := ← member ms "module" moduleDescription {}
    requiredModules := ← member ms "requiredModules" (list moduleDescription) [] }

end Decode
end Catalog
end SidecarProxy
