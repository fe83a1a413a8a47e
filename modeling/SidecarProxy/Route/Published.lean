import SidecarProxy.Metrics
import SidecarProxy.Route.Table

/-!
# Published tables

The sidecar serves from one ingress and one egress table.  A new table is
compiled from documents and then takes the place of the old one as a whole; what
is rejected leaves the tables in place.  A snapshot that was taken goes on
answering as before, and its generation tells whether it is still the published
one.
-/

namespace SidecarProxy
namespace Route

open Catalog

/-- A table as it was published. -/
structure Snapshot where
  /-- The number of the publication; no two publications share it. -/
  generation : Nat
  table : Table
  deriving DecidableEq, Repr, Inhabited

/-- The published tables. -/
structure Published where
  /-- The URL of the local module, which the ingress entries get as their location. -/
  moduleUrl : Option String := none
  ingress : Snapshot := ⟨0, Table.empty⟩
  egress : Snapshot := ⟨1, Table.empty⟩
  /-- The number of the next publication. -/
  nextGeneration : Nat := 2
  deriving DecidableEq, Repr, Inhabited

/-- New documents for the published tables. -/
inductive Update where
  | bootstrap (b : Bootstrap)
  | ingress (d : ModuleDescription)
  | egress (ds : List ModuleDescription)
  deriving DecidableEq, Repr

/-- What became of an update. -/
structure UpdateResult where
  published : Published
  outcome : Except ConfigError Unit
  events : List Metrics.Event

namespace Published

/-- The published table of a direction. -/
def snapshot (p : Published) : Direction → Snapshot
  | .ingress => p.ingress
  | .egress => p.egress

/-- Puts a table in place of the published one. -/
def publish (p : Published) (d : Direction) (t : Table) : Published :=
  match d with
  | .ingress =>
    { p with ingress := ⟨p.nextGeneration, t⟩, nextGeneration := p.nextGeneration + 1 }
  | .egress =>
    { p with egress := ⟨p.nextGeneration, t⟩, nextGeneration := p.nextGeneration + 1 }

/-- The ingress table of a module. -/
def compileIngress (p : Published) (d : ModuleDescription) : Except ConfigError Table :=
  Table.ofModule d p.moduleUrl

/-- The egress table of the modules that the local one calls. -/
def compileEgress (ds : List ModuleDescription) : Except ConfigError Table :=
  Table.ofModules ds

/-- An update that was rejected in a direction. -/
def rejected (p : Published) (d : Direction) (e : ConfigError) : UpdateResult :=
  ⟨p, .error e, Metrics.tableRejected d⟩

/-- Publishes tables in order. -/
def accepted (p : Published) (tables : List (Direction × Table)) : UpdateResult :=
  ⟨tables.foldl (fun p t => p.publish t.1 t.2) p, .ok (),
    tables.flatMap fun t => Metrics.tablePublished t.1 t.2.size⟩

/-- Applies an update; both tables of a bootstrap are compiled before either is published. -/
def update (p : Published) : Update → UpdateResult
  | .bootstrap b =>
    match p.compileIngress b.module with
    | .error e => p.rejected .ingress e
    | .ok ingress =>
      match compileEgress b.requiredModules with
      | .error e => p.rejected .egress e
      | .ok egress => p.accepted [(.ingress, ingress), (.egress, egress)]
  | .ingress d =>
    match p.compileIngress d with
    | .error e => p.rejected .ingress e
    | .ok t => p.accepted [(.ingress, t)]
  | .egress ds =>
    match compileEgress ds with
    | .error e => p.rejected .egress e
    | .ok t => p.accepted [(.egress, t)]

end Published
end Route
end SidecarProxy
