import SidecarProxy.Route.Entry
import SidecarProxy.Route.Key
import SidecarProxy.Route.Location

/-!
# Route tables

A table files entries in buckets, one bucket for each key, in the order in which
they were declared.  A module is checked as a whole before any of its entries is
filed, so a module that is rejected leaves the table as it was.
-/

namespace SidecarProxy
namespace Route

open Catalog Text

/-- What is wrong with a module description. -/
inductive ConfigFault where
  | blankModuleId
  | badLocation (location : String) (why : LocationError)
  | blankInterfaceId
  | noUsablePath (interfaceId : String)
  | noMethods (key interfaceId : String)
  deriving DecidableEq, Repr

/-- The wording of a fault. -/
def ConfigFault.message : ConfigFault → String
  | .blankModuleId => "module id must not be blank"
  | .badLocation location why => s!"invalid location '{location}': {why.message}"
  | .blankInterfaceId => "interface id must not be blank"
  | .noUsablePath id => s!"endpoint of interface '{id}' has no usable path"
  | .noMethods key id => s!"endpoint '{key}' of interface '{id}' declares no methods"

/-- The rejection of a module description. -/
structure ConfigError where
  /-- The trimmed id of the module, or `<blank>`. -/
  moduleId : String
  fault : ConfigFault
  deriving DecidableEq, Repr

/-- The wording of the rejection of a module for a reason. -/
def rejectionMessage (moduleId reason : String) : String :=
  s!"Invalid module configuration for '{moduleId}': {reason}"

/-- The wording of a rejection. -/
def ConfigError.message (e : ConfigError) : String :=
  rejectionMessage e.moduleId e.fault.message

/-- Entries by key, the keys in the order of their first use. -/
abbrev Buckets := List (String × List Entry)

/-- The entries filed under a key. -/
def Buckets.get (bs : Buckets) (key : String) : List Entry :=
  (bs.lookup key).getD []

/-- Files an entry under a key, after the entries that are there. -/
def Buckets.push (key : String) (e : Entry) : Buckets → Buckets
  | [] => [(key, [e])]
  | (k, es) :: rest =>
    if k = key then (k, es ++ [e]) :: rest else (k, es) :: Buckets.push key e rest

/-- A table of routes. -/
structure Table where
  buckets : Buckets := []
  /-- The number of entries in all buckets. -/
  size : Nat := 0
  matcher : Matcher := {}
  deriving DecidableEq, Repr, Inhabited

namespace Table

/-- The table without entries. -/
def empty : Table := {}

/-- Whether a table has no entries. -/
def isEmpty (t : Table) : Bool :=
  t.size == 0

/-- Files an entry unless an equal one stands under the same key. -/
def file (t : Table) (keyed : String × Entry) : Table :=
  if keyed.2 ∈ t.buckets.get keyed.1 then t
  else { t with buckets := t.buckets.push keyed.1 keyed.2, size := t.size + 1 }

/-- The keyed entry of one endpoint, or what is wrong with the endpoint. -/
def entryOf (moduleId : String) (location : Option String) (i : Interface) (e : Endpoint) :
    Except ConfigFault (String × Entry) :=
  match endpointKey? e with
  | none => .error (.noUsablePath i.id)
  | some key =>
    if e.methods.isEmpty then .error (.noMethods key i.id)
    else
      .ok (key,
        { moduleId := moduleId, location := location, interfaceId := i.id,
          kind := i.kind, endpoint := e })

/-- The keyed entries of one interface, in order of declaration. -/
def interfaceEntries (moduleId : String) (location : Option String) (i : Interface) :
    Except ConfigFault (List (String × Entry)) :=
  if isBlank i.id then .error .blankInterfaceId
  else i.endpoints.mapM (entryOf moduleId location i)

/-- The location that the entries of a module get: the given one before the module's own. -/
def locationFor (d : ModuleDescription) (location : Option String) : Option String :=
  location.or d.location

/-- Checks a location, if there is one. -/
def checkLocation : Option String → Except ConfigFault Unit
  | none => .ok ()
  | some text =>
    match parseLocation text with
    | .ok _ => .ok ()
    | .error why => .error (.badLocation text why)

/-- The id that a rejection names. -/
def reportedId (d : ModuleDescription) : String :=
  if isBlank d.moduleId then "<blank>" else trim d.moduleId

/-- The keyed entries of a module, in order of declaration, or the first fault of the module. -/
def moduleEntries (d : ModuleDescription) (location : Option String) :
    Except ConfigFault (List (String × Entry)) := do
  if isBlank d.moduleId then throw .blankModuleId
  let location := locationFor d location
  checkLocation location
  let entries ← d.interfaces.mapM (interfaceEntries (trim d.moduleId) location)
  return entries.flatten

/-- Adds the routes of a module; `location` takes the place of the module's own. -/
def addModule (t : Table) (d : ModuleDescription) (location : Option String) :
    Except ConfigError Table :=
  match moduleEntries d location with
  | .error fault => .error { moduleId := reportedId d, fault := fault }
  | .ok entries => .ok (entries.foldl file t)

/-- The table of one module. -/
def ofModule (d : ModuleDescription) (location : Option String) : Except ConfigError Table :=
  empty.addModule d location

/-- The table of several modules in order, each at its own location. -/
def ofModules (ds : List ModuleDescription) : Except ConfigError Table :=
  ds.foldlM (fun t d => t.addModule d none) empty

/-- The entry that takes a request: the first in the bucket of the longest key that has one. -/
def lookup (t : Table) (q : Query) : Option Entry :=
  (probes q.path).findSome? fun key => (t.buckets.get key).find? (·.takes t.matcher q)

end Table
end Route
end SidecarProxy
