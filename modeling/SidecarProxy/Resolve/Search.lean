import SidecarProxy.Catalog.ModuleId
import SidecarProxy.Message.Inbound
import SidecarProxy.Resolve.Failure
import SidecarProxy.Route.Mount
import SidecarProxy.Route.Published

/-!
# The search for a route

A route is searched for in the ingress table, in the egress table, among the
modules that the control plane knows, and at last at the gateway.  A search is
written as the questions that it asks: it reads a published table, asks for the
modules of a tenant or asks for the table of a module, and goes on with the
answer.  So it is plain what a search depends on, and when.
-/

namespace SidecarProxy
namespace Resolve

open Catalog Message Route

/-- A way of finding a route. -/
inductive Strategy where
  /-- The routes of the local module. -/
  | ingress
  /-- The routes of the modules that the local one calls. -/
  | egress
  /-- The routes of the module that the request names. -/
  | dynamic
  /-- The gateway, which takes whatever is left. -/
  | gateway
  deriving DecidableEq, Repr, Inhabited

namespace Strategy

/-- The written name of a strategy. -/
def name : Strategy → String
  | .ingress => "ingress"
  | .egress => "egress"
  | .dynamic => "dynamic"
  | .gateway => "gateway"

/-- The strategy of a written name. -/
def ofName? (s : String) : Option Strategy :=
  [ingress, egress, dynamic, gateway].find? (·.name == s)

/-- The direction of a request whose route was found in this way. -/
def direction : Strategy → Direction
  | .ingress => .ingress
  | .egress | .dynamic | .gateway => .egress

end Strategy

/-- A route that was found. -/
structure Found where
  strategy : Strategy
  entry : Entry
  deriving DecidableEq, Repr

/-- The direction of a request with this route. -/
def Found.direction (f : Found) : Direction :=
  f.strategy.direction

/-- A search, up to its next question. -/
inductive Search (α : Type) where
  | ended (result : Except Failure α)
  /-- Reads the table that is published now. -/
  | read (direction : Direction) (next : Table → Search α)
  /-- Asks for the ids of the modules that are enabled for a tenant. -/
  | askEntitled (tenant : String)
      (next : Except EntitlementFailure (List String) → Search α)
  /-- Asks for the table of a module. -/
  | askTable (moduleId : String) (next : Except ControlPlane.Failure Table → Search α)

namespace Search

/-- Goes on with the result of a search, unless it failed. -/
def bind {α β : Type} (s : Search α) (f : α → Search β) : Search β :=
  match s with
  | .ended (.ok a) => f a
  | .ended (.error e) => .ended (.error e)
  | .read d next => .read d fun t => (next t).bind f
  | .askEntitled tenant next => .askEntitled tenant fun r => (next r).bind f
  | .askTable id next => .askTable id fun r => (next r).bind f

instance : Monad Search where
  pure a := .ended (.ok a)
  bind := bind

/-- A search that fails. -/
def fail {α : Type} (e : Failure) : Search α :=
  .ended (.error e)

/-- Reads the table that is published now. -/
def published (d : Direction) : Search Table :=
  .read d pure

/-- The ids of the modules that are enabled for a tenant. -/
def entitled (tenant : String) : Search (List String) :=
  .askEntitled tenant fun
    | .ok ids => pure ids
    | .error e => fail (.entitlements e)

/-- The table of a module. -/
def tableOf (moduleId : String) : Search Table :=
  .askTable moduleId fun
    | .ok t => pure t
    | .error e => fail (.controlPlane e)

end Search

/-- How routes are searched for. -/
structure Resolver where
  mount : Mount
  /-- The URL of the gateway, if what has no route goes there. -/
  gateway : Option String := none
  /-- Whether modules that a request names are asked for. -/
  dynamic : Bool := false
  deriving DecidableEq, Repr, Inhabited

namespace Resolver

/-- The strategies in use, in the order in which they are tried. -/
def chain (r : Resolver) : List Strategy :=
  [.ingress, .egress] ++ (if r.dynamic then [.dynamic] else []) ++
    (if r.gateway.isSome then [.gateway] else [])

/-- What a table is asked for a request, under the given path. -/
def queryAt (inbound : Inbound) (path : String) : Query where
  method := inbound.method
  path := path
  hint := inbound.hint

/-- The id of the module that a request names by id or by name. -/
def namedModule (inbound : Inbound) (hint : String) : Search String :=
  if isModuleId hint then pure hint
  else do
    let tenant := inbound.tenant.getD ""
    let ids ← Search.entitled tenant
    match ids.find? (fun id => ModuleId.name? id == some hint) with
    | some id => pure id
    | none => Search.fail (.unknownName hint tenant)

/-- Searches among the routes of the module that a request names. -/
def searchDynamic (inbound : Inbound) : Search (Option Entry) :=
  match inbound.moduleHint, inbound.hint with
  | none, _ => pure none
  | some _, none => Search.fail .blankHint
  | some _, some hint => do
    let moduleId ← namedModule inbound hint
    let table ← Search.tableOf moduleId
    return table.lookup { queryAt inbound inbound.path with hint := some moduleId }

/-- Searches in one way. -/
def searchBy (r : Resolver) (inbound : Inbound) : Strategy → Search (Option Entry)
  | .ingress => do
    let table ← Search.published .ingress
    return table.lookup (queryAt inbound (r.mount.lookupPath inbound.path))
  | .egress => do
    let table ← Search.published .egress
    return table.lookup (queryAt inbound inbound.path)
  | .dynamic => if r.dynamic then searchDynamic inbound else pure none
  | .gateway => pure (r.gateway.map fun url => Entry.gateway url inbound.hint)

/-- Searches in the given ways, until one of them finds a route. -/
def searchIn (r : Resolver) (inbound : Inbound) : List Strategy → Search (Option Found)
  | [] => pure none
  | s :: rest => do
    match ← r.searchBy inbound s with
    | some entry => pure (some ⟨s, entry⟩)
    | none => r.searchIn inbound rest

/-- Searches for the route of a request. -/
def search (r : Resolver) (inbound : Inbound) : Search (Option Found) :=
  r.searchIn inbound r.chain

end Resolver
end Resolve
end SidecarProxy
