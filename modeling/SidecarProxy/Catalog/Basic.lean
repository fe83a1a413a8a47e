/-!
# What the control plane says about modules

A module offers interfaces, and an interface offers endpoints.  The bootstrap of
a sidecar describes the module that it serves and the modules that this one
calls.
-/

namespace SidecarProxy
namespace Catalog

/-- The kind of an interface. -/
inductive InterfaceKind where
  /-- Internal to the platform. -/
  | system
  /-- Offered by several modules; a request has to name the one it means. -/
  | multiple
  /-- Offered by one module. -/
  | regular
  deriving DecidableEq, Repr, Inhabited

/-- The written name of a kind. -/
def InterfaceKind.name : InterfaceKind → String
  | .system => "system"
  | .multiple => "multiple"
  | .regular => "regular"

/-- The kind of a written name; a name that is not known is an ordinary interface. -/
def InterfaceKind.ofName (name : String) : InterfaceKind :=
  if name = "system" then .system
  else if name = "multiple" then .multiple
  else .regular

/-- One endpoint of an interface. -/
structure Endpoint where
  /-- The literal path, used when there is no pattern. -/
  path : Option String := none
  /-- The path pattern. -/
  pathPattern : Option String := none
  /-- The methods allowed; `*` allows any. -/
  methods : List String := []
  permissionsRequired : List String := []
  permissionsDesired : List String := []
  modulePermissions : List String := []
  deriving DecidableEq, Repr, Inhabited

/-- Whether an endpoint allows a method. -/
def Endpoint.allows (e : Endpoint) (method : String) : Bool :=
  e.methods.any fun m => m == "*" || m == method

/-- An interface of a module. -/
structure Interface where
  id : String := ""
  kind : InterfaceKind := .regular
  endpoints : List Endpoint := []
  deriving DecidableEq, Repr, Inhabited

/-- The description of one module. -/
structure ModuleDescription where
  moduleId : String := ""
  /-- The base URL of the module's sidecar, once it is deployed. -/
  location : Option String := none
  interfaces : List Interface := []
  deriving DecidableEq, Repr, Inhabited

/-- The description of the local module and of every module that it calls. -/
structure Bootstrap where
  module : ModuleDescription := {}
  requiredModules : List ModuleDescription := []
  deriving DecidableEq, Repr, Inhabited

end Catalog
end SidecarProxy
