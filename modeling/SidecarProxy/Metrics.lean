import SidecarProxy.Route.Entry

/-!
# Metrics

A series is a name with labels.  Counters and sample counts grow by one; a gauge
is set.
-/

namespace SidecarProxy
namespace Metrics

open Route

/-- How a lookup in the cache of module tables ended. -/
inductive LookupResult where
  | hit
  | miss
  | error
  deriving DecidableEq, Repr

/-- The written name of a result. -/
def LookupResult.name : LookupResult → String
  | .hit => "hit"
  | .miss => "miss"
  | .error => "error"

/-- A series of measurements. -/
inductive Series where
  /-- Exchanges, by direction, method and status. -/
  | requests (direction : Direction) (method : String) (status : Nat)
  /-- Durations of exchanges. -/
  | durations (direction : Direction)
  /-- Requests for which there is no route. -/
  | routeMisses
  /-- Entries of the published table. -/
  | tableEntries (direction : Direction)
  /-- Tables that were compiled, published or rejected. -/
  | rebuilds (direction : Direction) (published : Bool)
  /-- Lookups in the cache of module tables. -/
  | cacheLookups (result : LookupResult)
  deriving DecidableEq, Repr

/-- The name of a series. -/
def Series.name : Series → String
  | .requests .. => "sidecar_requests_total"
  | .durations .. => "sidecar_request_duration_seconds"
  | .routeMisses => "sidecar_route_misses_total"
  | .tableEntries .. => "sidecar_route_table_entries"
  | .rebuilds .. => "sidecar_route_table_rebuilds_total"
  | .cacheLookups .. => "sidecar_discovery_cache_lookups_total"

/-- The labels of a series, by name. -/
def Series.labels : Series → List (String × String)
  | .requests d m s => [("direction", d.name), ("method", m), ("status", toString s)]
  | .durations d => [("direction", d.name)]
  | .routeMisses => []
  | .tableEntries d => [("direction", d.name)]
  | .rebuilds d p =>
    [("direction", d.name), ("result", if p then "published" else "rejected")]
  | .cacheLookups r => [("result", r.name)]

/-- A series in writing: its name and, in braces, its labels. -/
def Series.render (s : Series) : String :=
  let labels := s.labels.map fun l => l.1 ++ "=" ++ l.2
  s.name ++ "\x7b" ++ ",".intercalate labels ++ "\x7d"

/-- A measurement. -/
inductive Event where
  /-- One more. -/
  | count (series : Series)
  /-- A new value of a gauge. -/
  | set (series : Series) (value : Nat)
  deriving DecidableEq, Repr

/-- The value of a series after a list of measurements; nothing when it was never measured. -/
def value? (series : Series) (events : List Event) : Option Nat :=
  events.foldl
    (fun v e => match e with
      | .count s => if s = series then some (v.getD 0 + 1) else v
      | .set s n => if s = series then some n else v)
    none

/-- The series that were measured, each once. -/
def measured (events : List Event) : List Series :=
  (events.map fun e => match e with
    | .count s => s
    | .set s _ => s).eraseDups

/-- A published table of the given size. -/
def tablePublished (d : Direction) (entries : Nat) : List Event :=
  [.set (.tableEntries d) entries, .count (.rebuilds d true)]

/-- A rejected table. -/
def tableRejected (d : Direction) : List Event :=
  [.count (.rebuilds d false)]

/-- An exchange that ended with a status. -/
def exchangeEnded (d : Direction) (method : String) (status : Nat) : List Event :=
  [.count (.requests d method status), .count (.durations d)]

end Metrics
end SidecarProxy
