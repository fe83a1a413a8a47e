import SidecarProxy.Proofs.Route.PatternReach

/-!
# Literal paths that a lookup reaches

An entry without a pattern takes every path that begins with its literal path,
also where the path goes on in the middle of a segment.  A lookup only probes
whole segments.  Main statement: in every table that holds such an entry the
path is found, exactly when the literal path stops where a segment ends.
-/

namespace SidecarProxy
namespace Route

open Catalog Text

section Segments

/-- The front of a path is all of it, is the root, or ends before a slash. -/
def EndsSegment
    (front path : List Char) :
    Prop :=
  front = path ∨ front = ['/'] ∨ front ++ ['/'] <+: path

/-- A path leads to a rooted front of it where a segment ends. -/
theorem leadsTo_iff_endsSegment
    {front path : List Char}
    (hroot : front.head? = some '/')
    (hfront : front <+: path) :
    LeadsTo path front ↔ EndsSegment front path := by
  have hne : front ≠ [] := by
    rintro rfl
    cases hroot
  have hpath : path.head? = some '/' := by
    obtain ⟨rest, rfl⟩ := hfront
    rw [List.head?_append, hroot, Option.some_or]
  constructor
  · rintro (h | ⟨-, h⟩ | ⟨h, -⟩)
    · exact Or.inl h
    · exact Or.inr (Or.inr h)
    · exact Or.inr (Or.inl h)
  · rintro (h | h | h)
    · exact Or.inl h
    · exact Or.inr (Or.inr ⟨h, hpath⟩)
    · exact Or.inr (Or.inl ⟨hne, h⟩)

end Segments

section Literal

/-- A request finds an entry if one that takes it stands under a key to which its path leads. -/
theorem lookup_finds_of_leadsTo
    {t : Table} {key : String} {e : Entry} {q : Query}
    (he : e ∈ t.buckets.get key)
    (hkey : LeadsTo q.path.toList key.toList)
    (htakes : e.takes t.matcher q = true) :
    ∃ found, t.lookup q = some found := by
  cases hlookup : t.lookup q with
  | none =>
      have hprobed : key ∈ probes q.path := (mem_probes_iff _ _).2 hkey
      have hnot := (lookup_eq_none_iff t q).1 hlookup key hprobed e he
      rw [htakes] at hnot
      cases hnot
  | some found =>
      exact ⟨found, rfl⟩

/-- What a lookup finds is filed under a key to which the path leads. -/
theorem leadsTo_of_lookup
    {t : Table} (ht : t.Built)
    {q : Query} {e : Entry}
    (h : t.lookup q = some e) :
    ∃ key, e.key? = some key ∧ LeadsTo q.path.toList key.toList := by
  obtain ⟨key, hprobed, hfind⟩ := List.exists_of_findSome?_eq_some h
  exact ⟨key, ht.filed.key_eq key e (List.mem_of_find?_eq_some hfind),
    (mem_probes_iff _ _).1 hprobed⟩

/-- The key of an entry without a pattern is its rooted and trimmed literal path. -/
theorem key?_of_literal
    {e : Entry} {literal : String}
    (hpattern : e.endpoint.pathPattern = none)
    (hliteral : e.endpoint.path = some literal)
    (hroot : literal.toList.head? = some '/')
    (htrim : trim literal = literal) :
    e.key? = some literal := by
  simp [Entry.key?, endpointKey?, hpattern, hliteral, rooted?, htrim, hroot]

theorem prefix_of_takes
    {e : Entry} {literal : String}
    (hpattern : e.endpoint.pathPattern = none)
    (hliteral : e.endpoint.path = some literal)
    {m : Matcher} {q : Query}
    (htakes : e.takes m q = true) :
    literal.toList <+: q.path.toList := by
  simp only [Entry.takes, coversPath, hpattern, hliteral, Bool.and_eq_true] at htakes
  exact List.isPrefixOf_iff_prefix.1 htakes.1.2

/-- A module that offers one endpoint, with a literal path and for any method. -/
def literalModule
    (literal : String) :
    ModuleDescription where
  moduleId := "module"
  interfaces := [{ id := "interface", endpoints := [{ path := some literal, methods := ["*"] }] }]

/-- The entry of the one endpoint. -/
def literalEntry
    (literal : String) :
    Entry where
  moduleId := "module"
  location := none
  interfaceId := "interface"
  kind := .regular
  endpoint := { path := some literal, methods := ["*"] }

/-- The table of such a module. -/
def literalTable
    (literal : String) :
    Table where
  buckets := [(literal, [literalEntry literal])]
  size := 1

/-- An endpoint that is accepted on its own makes a table on its own. -/
theorem literalTable_built
    {literal : String}
    (hroot : literal.toList.head? = some '/')
    (htrim : trim literal = literal) :
    (literalTable literal).Built := by
  have hkey : endpointKey? (literalEntry literal).endpoint = some literal :=
    key?_of_literal rfl rfl hroot htrim
  have hadd : Table.empty.addModule (literalModule literal) none = .ok (literalTable literal) :=
    addModule_single hkey (List.cons_ne_nil _ _) {}
  exact Table.Built.add Table.Built.empty hadd

/-- Such a table has nothing for paths that do not lead to the literal path. -/
theorem literalTable_lookup_eq_none
    {literal : String}
    (hroot : literal.toList.head? = some '/')
    (htrim : trim literal = literal)
    {q : Query}
    (hleads : ¬LeadsTo q.path.toList literal.toList) :
    (literalTable literal).lookup q = none := by
  cases hlookup : (literalTable literal).lookup q with
  | none =>
      rfl
  | some found =>
      obtain ⟨key, hkey, hkeyLeads⟩ :=
        leadsTo_of_lookup (literalTable_built hroot htrim) hlookup
      have hfound : found = literalEntry literal := by
        simpa [Table.entries, literalTable] using (lookup_sound hlookup).1
      rw [hfound, key?_of_literal rfl rfl hroot htrim] at hkey
      cases hkey
      exact absurd hkeyLeads hleads

/--
Whatever else a table holds, a request that an entry takes by its literal path
finds an entry, exactly when the literal path stops where a segment of the path ends.
-/
theorem lookup_finds_literal_iff
    {literal : String}
    (hroot : literal.toList.head? = some '/')
    (htrim : trim literal = literal)
    (q : Query) :
    (∀ t : Table, t.Built → ∀ e ∈ t.entries,
        e.endpoint.pathPattern = none → e.endpoint.path = some literal →
          e.takes t.matcher q = true →
            ∃ found,
              t.lookup q = some found ∧
                found ∈ t.entries ∧ found.takes t.matcher q = true)
      ↔
    (literal.toList <+: q.path.toList → EndsSegment literal.toList q.path.toList) := by
  constructor
  · intro h hfront
    by_contra hends
    have hcovers := List.isPrefixOf_iff_prefix.2 hfront
    have htakes : (literalEntry literal).takes {} q = true := by
      simp [Entry.takes, Endpoint.allows, coversPath, literalEntry, Entry.isMultiple, hcovers]
    obtain ⟨found, hlookup, -⟩ :=
      h (literalTable literal) (literalTable_built hroot htrim) (literalEntry literal)
        (by simp [Table.entries, literalTable]) rfl rfl htakes
    have hleads : ¬LeadsTo q.path.toList literal.toList :=
      mt (leadsTo_iff_endsSegment hroot hfront).1 hends
    rw [literalTable_lookup_eq_none hroot htrim hleads] at hlookup
    cases hlookup
  · intro h t ht e he hpattern hliteral htakes
    obtain ⟨key, hget, hkey⟩ := ht.filed.mem_get he
    rw [key?_of_literal hpattern hliteral hroot htrim] at hkey
    cases hkey
    have hfront := prefix_of_takes hpattern hliteral htakes
    have hleads := (leadsTo_iff_endsSegment hroot hfront).2 (h hfront)
    obtain ⟨found, hlookup⟩ := lookup_finds_of_leadsTo hget hleads htakes
    exact ⟨found, hlookup, lookup_sound hlookup⟩

theorem lookup_finds_literal_iff_below :
    "/foo/legacy".toList.head? = some '/' ∧
      trim "/foo/legacy" = "/foo/legacy" ∧
        ∃ found,
          (literalTable "/foo/legacy").lookup { method := "GET", path := "/foo/legacy/42" } =
            some found := by
  have hroot : "/foo/legacy".toList.head? = some '/' := by
    decide
  have htrim : trim "/foo/legacy" = "/foo/legacy" := by
    decide
  have hends : EndsSegment "/foo/legacy".toList "/foo/legacy/42".toList :=
    Or.inr (Or.inr (by decide))
  have hfinds :=
    (lookup_finds_literal_iff hroot htrim { method := "GET", path := "/foo/legacy/42" }).2
      fun _ => hends
  obtain ⟨found, hfound, -⟩ :=
    hfinds (literalTable "/foo/legacy") (literalTable_built hroot htrim)
      (literalEntry "/foo/legacy") (by simp [Table.entries, literalTable]) rfl rfl (by decide)
  exact ⟨hroot, htrim, found, hfound⟩

/-- A slash at the end of a literal path hides everything below it. -/
theorem lookup_misses_below_trailing_slash :
    (literalTable "/foo/").Built ∧
      literalEntry "/foo/" ∈ (literalTable "/foo/").entries ∧
        (literalEntry "/foo/").takes (literalTable "/foo/").matcher
            { method := "GET", path := "/foo/x" } = true ∧
          (literalTable "/foo/").lookup { method := "GET", path := "/foo/x" } = none := by
  have hroot : "/foo/".toList.head? = some '/' := by
    decide
  have htrim : trim "/foo/" = "/foo/" := by
    decide
  have hleads : ¬LeadsTo "/foo/x".toList "/foo/".toList := by
    unfold LeadsTo
    decide
  exact ⟨literalTable_built hroot htrim, by simp [Table.entries, literalTable], by decide,
    literalTable_lookup_eq_none hroot htrim hleads⟩

end Literal

end Route
end SidecarProxy
