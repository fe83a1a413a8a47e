import SidecarProxy.Proofs.Route.Filing

/-!
# Tables that can be built

A table is built from the empty one by adding modules and by setting its matcher.
Every key of such a table is used once, and every entry stands in the bucket of
its own key.
-/

namespace SidecarProxy
namespace Route

open Catalog Text

section Entries

/-- All entries of a table, bucket by bucket. -/
def Table.entries
    (t : Table) :
    List Entry :=
  t.buckets.flatMap (·.2)

/-- The order in a table: keys are used once, and an entry is filed under its own key. -/
structure Table.Filed (t : Table) : Prop where
  nodup_keys : t.buckets.keys.Nodup
  key_eq : ∀ key, ∀ e ∈ t.buckets.get key, e.key? = some key

theorem Table.Filed.mem_get
    {t : Table} (ht : t.Filed)
    {e : Entry} (he : e ∈ t.entries) :
    ∃ key, e ∈ t.buckets.get key ∧ e.key? = some key := by
  obtain ⟨⟨key, es⟩, hb, hmem⟩ := List.mem_flatMap.1 he
  have hget : e ∈ t.buckets.get key := by
    rwa [Buckets.get_of_mem ht.nodup_keys hb]
  exact ⟨key, hget, ht.key_eq key e hget⟩

theorem Table.mem_entries_of_mem_get
    {t : Table} {key : String} {e : Entry}
    (he : e ∈ t.buckets.get key) :
    e ∈ t.entries := by
  unfold Buckets.get at he
  cases hlookup : t.buckets.lookup key with
  | none =>
      simp [hlookup] at he
  | some es =>
      rw [hlookup, Option.getD_some] at he
      obtain ⟨before, after, hbuckets, -⟩ := List.lookup_eq_some_iff.1 hlookup
      exact List.mem_flatMap.2 ⟨(key, es), by simp [hbuckets], he⟩

end Entries

section Built

/-- The tables that accepted modules lead to, each module with a location of its own choice. -/
inductive Table.Built : Table → Prop
  | empty :
      Built Table.empty
  /-- The matcher may be exchanged at any time. -/
  | withMatcher
      {t : Table}
      (ht : Built t)
      (m : Matcher) :
      Built { t with matcher := m }
  | add
      {t t' : Table}
      {d : ModuleDescription} {location : Option String}
      (ht : Built t)
      (h : t.addModule d location = .ok t') :
      Built t'

theorem Table.Filed.file
    {t : Table} (ht : t.Filed)
    {x : String × Entry}
    (hx : x.2.key? = some x.1) :
    (t.file x).Filed where
  nodup_keys := by
    unfold Table.file
    split
    · exact ht.nodup_keys
    · exact Buckets.nodup_keys_push ht.nodup_keys x.1 x.2
  key_eq := by
    intro key e he
    rw [get_file] at he
    split at he
    · next hnew =>
        rcases List.mem_append.1 he with he | he
        · exact ht.key_eq key e he
        · rw [List.mem_singleton.1 he, hx, hnew.1]
    · exact ht.key_eq key e he

theorem Table.Filed.foldl_file
    {t : Table} (ht : t.Filed)
    {xs : List (String × Entry)}
    (hxs : ∀ x ∈ xs, x.2.key? = some x.1) :
    (xs.foldl Table.file t).Filed := by
  induction xs generalizing t with
  | nil =>
      exact ht
  | cons x xs ih =>
      exact ih (ht.file (hxs x (by simp)))
        fun y hy => hxs y (List.mem_cons_of_mem x hy)

/-- Pairs that are declared entries with their keys are filed under the keys of their entries. -/
theorem key?_of_filedPair
    {xs : List (String × Entry)} {es : List Entry}
    (h : xs.map filedPair = es.map Entry.withKey) :
    ∀ x ∈ xs, x.2.key? = some x.1 := by
  intro x hx
  have hmem : filedPair x ∈ es.map Entry.withKey :=
    h ▸ List.mem_map_of_mem hx
  obtain ⟨e, -, he⟩ := List.mem_map.1 hmem
  simp only [Entry.withKey, filedPair, Prod.mk.injEq] at he
  rw [← he.2, he.1]

/-- Every table that can be built is in order. -/
theorem Table.Built.filed
    {t : Table}
    (ht : t.Built) :
    t.Filed := by
  induction ht with
  | empty =>
      exact ⟨List.nodup_nil, by simp [Table.empty, Buckets.get]⟩
  | withMatcher _ m ih =>
      exact ⟨ih.nodup_keys, ih.key_eq⟩
  | add _ h ih =>
      obtain ⟨keyed, hkeyed, rfl⟩ := addModule_eq_ok h
      exact ih.foldl_file (key?_of_filedPair hkeyed)

end Built

section Single

/-- A module that offers one endpoint. -/
def singleModule
    (e : Endpoint) :
    ModuleDescription where
  moduleId := "module"
  interfaces := [{ id := "interface", endpoints := [e] }]

/-- The entry of the one endpoint. -/
def singleEntry
    (e : Endpoint) :
    Entry where
  moduleId := "module"
  location := none
  interfaceId := "interface"
  kind := .regular
  endpoint := e

/-- An endpoint that is accepted on its own makes a table on its own. -/
theorem addModule_single
    {e : Endpoint} {key : String}
    (hkey : endpointKey? e = some key)
    (hmethods : e.methods ≠ [])
    (m : Matcher) :
    ({ matcher := m } : Table).addModule (singleModule e) none =
      .ok { buckets := [(key, [singleEntry e])], size := 1, matcher := m } := by
  let i : Interface := { id := "interface", endpoints := [e] }
  have hmoduleId : trim "module" = "module" := by
    decide
  have hentry : Table.entryOf (trim "module") none i e = .ok (key, singleEntry e) := by
    rw [Table.entryOf, hkey, hmoduleId]
    simp [hmethods, i, singleEntry]
  have hinterface :
      Table.interfaceEntries (trim "module") none i = .ok [(key, singleEntry e)] := by
    have hid : ¬isBlank i.id = true := by
      change ¬isBlank "interface" = true
      decide
    rw [Table.interfaceEntries, if_neg hid]
    exact mapM_singleton_eq_ok hentry
  have hentries :
      Table.moduleEntries (singleModule e) none = .ok [(key, singleEntry e)] := by
    have hid : ¬isBlank (singleModule e).moduleId = true := by
      change ¬isBlank "module" = true
      decide
    rw [Table.moduleEntries, if_neg hid]
    exact congrArg (· >>= fun lists => pure lists.flatten) (mapM_singleton_eq_ok hinterface)
  rw [Table.addModule, hentries]
  rfl

end Single

end Route
end SidecarProxy
