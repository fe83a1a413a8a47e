import SidecarProxy.ModuleCache.Run
import SidecarProxy.Resolve.Search

/-!
# Answering a search

The questions of a search are answered from the published tables, from what is
known about tenants and from the cache of module tables.
-/

namespace SidecarProxy
namespace Resolve

open Catalog Route

/-- The ids of the modules that are enabled for each tenant. -/
abbrev Entitlements := String → Except EntitlementFailure (List String)

/-- Entitlements from a list; a tenant that is not listed has no module. -/
def Entitlements.ofList (tenants : List (String × List String)) : Entitlements :=
  fun tenant => .ok ((tenants.lookup tenant).getD [])

/-- What a search may be answered from. -/
structure Services (σ : Type) where
  published : σ → Published
  entitled : String → σ → Except EntitlementFailure (List String) × σ
  table : String → σ → Except ControlPlane.Failure Table × σ

namespace Search

/-- The result of a search, and what its services hold afterwards. -/
def run {σ α : Type} (services : Services σ) : Search α → σ → Except Failure α × σ
  | .ended result, s => (result, s)
  | .read d next, s => run services (next ((services.published s).snapshot d).table) s
  | .askEntitled tenant next, s =>
    let (ids, s) := services.entitled tenant s
    run services (next ids) s
  | .askTable id next, s =>
    let (table, s) := services.table id s
    run services (next table) s

/-- Answers questions until a search ends or asks for the table of a module. -/
def advance {α : Type} (published : Published) (entitled : Entitlements) :
    Search α → Search α
  | .ended result => .ended result
  | .read d next => advance published entitled (next (published.snapshot d).table)
  | .askEntitled tenant next => advance published entitled (next (entitled tenant))
  | .askTable id next => .askTable id next

/-- The result of a search that has ended. -/
def result? {α : Type} : Search α → Option (Except Failure α)
  | .ended result => some result
  | _ => none

end Search

/-- Everything that searches share. -/
structure Lookups (σ : Type) where
  resolver : Resolver
  entitled : Entitlements
  published : Published
  cache : ModuleCache.Cache
  source : σ

namespace Lookups

variable {σ : Type}

/-- The services of a run: the published tables, the entitlements, the cache and its source. -/
def services (entitled : Entitlements) (ask : ModuleCache.Source σ) :
    Services (Lookups σ) where
  published l := l.published
  entitled tenant l := (entitled tenant, l)
  table id l :=
    let (table, cache, source) := l.cache.get ask id l.source
    (table, { l with cache := cache, source := source })

/-- Runs a search. -/
def run {α : Type} (l : Lookups σ) (ask : ModuleCache.Source σ) (search : Search α) :
    Except Failure α × Lookups σ :=
  search.run (services l.entitled ask) l

/-- The modules whose tables some searches wait for, in the order of the searches. -/
def awaited {α : Type} (searches : List (Search α)) : List String :=
  searches.filterMap fun
    | .askTable id _ => some id
    | _ => none

/-- Gives tables, in order, to the searches that wait for one. -/
def supply {α : Type} (advance : Search α → Search α) :
    List (Search α) → List (Except ControlPlane.Failure Table) → List (Search α)
  | .askTable _ next :: rest, table :: tables =>
    advance (next table) :: supply advance rest tables
  | s :: rest, tables => s :: supply advance rest tables
  | [], _ => []

/-- Starts searches in order and runs them side by side; a search asks for one table at most. -/
def runAll {α : Type} (l : Lookups σ) (ask : ModuleCache.Source σ)
    (searches : List (Search α)) : List (Except Failure α) × Lookups σ :=
  let advance := Search.advance l.published l.entitled
  let started := searches.map advance
  let (tables, cache, source) := l.cache.getAll ask (awaited started) l.source
  ((supply advance started tables).filterMap Search.result?,
    { l with cache := cache, source := source })

end Lookups
end Resolve
end SidecarProxy
