import SidecarProxy.Proofs.Except
import SidecarProxy.Route.Table

/-!
# Declared entries

The entries that module descriptions declare, read off the documents alone: in
the order of the modules, of the interfaces of a module and of the endpoints of
an interface.  Main statement: a table that accepts a module files exactly its
declared entries, each under the key of its endpoint.
-/

namespace SidecarProxy
namespace Route

open Catalog Text

section Declared

/-- The key under which an entry is filed. -/
def Entry.key?
    (e : Entry) :
    Option String :=
  endpointKey? e.endpoint

/-- The entry that a module declares by one endpoint of one interface. -/
def declaredEntry
    (d : ModuleDescription) (location : Option String)
    (i : Interface) (e : Endpoint) :
    Entry where
  moduleId := trim d.moduleId
  location := Table.locationFor d location
  interfaceId := i.id
  kind := i.kind
  endpoint := e

/-- The entries that a module declares, interface by interface and endpoint by endpoint. -/
def declared
    (d : ModuleDescription) (location : Option String) :
    List Entry :=
  d.interfaces.flatMap fun i =>
    i.endpoints.map (declaredEntry d location i)

/-- An entry with its key, as far as there is one. -/
def Entry.withKey
    (e : Entry) :
    Option String × Entry :=
  (e.key?, e)

/-- A filed entry and its key, in the form of `Entry.withKey`. -/
def filedPair
    (x : String × Entry) :
    Option String × Entry :=
  (some x.1, x.2)

theorem entryOf_eq_ok
    {d : ModuleDescription} {location : Option String}
    {i : Interface} {e : Endpoint} {x : String × Entry}
    (h : Table.entryOf (trim d.moduleId) (Table.locationFor d location) i e = .ok x) :
    filedPair x = (declaredEntry d location i e).withKey := by
  unfold Table.entryOf at h
  split at h
  · cases h
  · next key hkey =>
      split at h
      · cases h
      · cases h
        simp [filedPair, Entry.withKey, Entry.key?, declaredEntry, hkey]

theorem interfaceEntries_eq_ok
    {d : ModuleDescription} {location : Option String}
    {i : Interface} {xs : List (String × Entry)}
    (h : Table.interfaceEntries (trim d.moduleId) (Table.locationFor d location) i = .ok xs) :
    xs.map filedPair =
      i.endpoints.map fun e => (declaredEntry d location i e).withKey := by
  unfold Table.interfaceEntries at h
  split at h
  · cases h
  · exact map_eq_of_mapM_eq_ok (fun _ _ => entryOf_eq_ok) h

/-- A module that is accepted has the entries that it declares, each with its key. -/
theorem moduleEntries_eq_ok
    {d : ModuleDescription} {location : Option String}
    {keyed : List (String × Entry)}
    (h : Table.moduleEntries d location = .ok keyed) :
    keyed.map filedPair = (declared d location).map Entry.withKey := by
  unfold Table.moduleEntries at h
  split at h
  · cases h
  · obtain ⟨-, -, h⟩ := bind_eq_ok h
    obtain ⟨lists, hlists, h⟩ := bind_eq_ok h
    cases h
    have hall := map_eq_of_mapM_eq_ok (fun _ _ => interfaceEntries_eq_ok) hlists
    rw [List.map_flatten, hall, declared, List.map_flatMap, List.flatMap_def]
    simp only [List.map_map, Function.comp_def]

/-- An accepted module is filed entry by entry, in the order of declaration. -/
theorem addModule_eq_ok
    {t t' : Table}
    {d : ModuleDescription} {location : Option String}
    (h : t.addModule d location = .ok t') :
    ∃ keyed : List (String × Entry),
      keyed.map filedPair = (declared d location).map Entry.withKey ∧
      t' = keyed.foldl Table.file t := by
  unfold Table.addModule at h
  split at h
  · cases h
  · next keyed hkeyed =>
      cases h
      exact ⟨keyed, moduleEntries_eq_ok hkeyed, rfl⟩

end Declared

end Route
end SidecarProxy
