import SidecarProxy.Proofs.Pattern.Budget
import SidecarProxy.Proofs.Route.Built
import SidecarProxy.Proofs.Route.ProbeKeys
import SidecarProxy.Proofs.Text.Bytes

/-!
# Patterns are reached from their paths

The bucket of a pattern is found from the pattern, the probed keys from the
path.  Every path of a pattern begins with the literal part of the pattern, so
that it leads to the key of the pattern.  Main statement: a lookup in a table
that can be built loses no entry whose pattern matches.
-/

namespace SidecarProxy
namespace Route

open Catalog Text Pattern

section Literal

theorem takeWhile_literal_append
    (pattern : List Char) :
    ∃ rest, pattern = pattern.takeWhile (!isPlaceholder ·) ++ rest :=
  ⟨_, List.takeWhile_append_dropWhile.symm⟩

theorem notMem_literal
    {c : Char}
    (hc : isPlaceholder c = true)
    (pattern : List Char) :
    c ∉ pattern.takeWhile (!isPlaceholder ·) := by
  intro hmem
  simpa [hc] using List.mem_takeWhile_imp hmem

/-- The paths of a pattern with a literal part in front begin with this part. -/
theorem literal_prefix_path
    {literal rest path : List Char}
    (hstar : '*' ∉ literal)
    (hbrace : '{' ∉ literal)
    (h : Accepts (utf8Chars (literal ++ rest)) (utf8Chars path)) :
    ∃ more, path = literal ++ more ∧ Accepts (utf8Chars rest) (utf8Chars more) := by
  rw [utf8Chars_append] at h
  obtain ⟨bytes, hpath, hbytes⟩ :=
    accepts_literal_append
      (notMem_utf8Chars (b := star) (by decide) (by decide) hstar)
      (notMem_utf8Chars (b := brace) (by decide) (by decide) hbrace) h
  obtain ⟨more, hmore, rfl⟩ := eq_append_of_utf8Chars hpath.symm
  exact ⟨more, hmore, hbytes⟩

end Literal

section Reach

/-- A pattern without placeholders stands for itself alone. -/
theorem eq_of_accepts_literal
    {pattern path : List Char}
    (hliteral : pattern.any isPlaceholder = false)
    (h : Accepts (utf8Chars pattern) (utf8Chars path)) :
    path = pattern := by
  have hnone : ∀ c, isPlaceholder c = true → c ∉ pattern := by
    intro c hc hmem
    have hany : pattern.any isPlaceholder = true :=
      List.any_eq_true.2 ⟨c, hmem, hc⟩
    rw [hliteral] at hany
    cases hany
  rw [← List.append_nil pattern] at h
  obtain ⟨more, hpath, hmore⟩ :=
    literal_prefix_path (hnone '*' (by decide)) (hnone '{' (by decide)) h
  have hnil : more = [] :=
    utf8Chars_inj (by simpa [accepts_nil_iff] using hmore)
  simpa [hnil] using hpath

/-- Every path of a rooted pattern leads to the key of the pattern. -/
theorem leadsTo_patternKeyChars
    {pattern path : List Char}
    (hroot : pattern.head? = some '/')
    (h : Accepts (utf8Chars pattern) (utf8Chars path)) :
    LeadsTo path (patternKeyChars pattern) := by
  unfold patternKeyChars
  split
  · obtain ⟨rest, hpattern⟩ := takeWhile_literal_append pattern
    generalize hliteral : pattern.takeWhile (!isPlaceholder ·) = literal at hpattern
    have hstar : '*' ∉ literal := hliteral ▸ notMem_literal (by decide) pattern
    have hbrace : '{' ∉ literal := hliteral ▸ notMem_literal (by decide) pattern
    rw [hpattern] at h
    obtain ⟨more, rfl, -⟩ := literal_prefix_path hstar hbrace h
    have hhead : (literal ++ more).head? = some '/' := by
      cases pattern with
      | nil =>
          cases hroot
      | cons c pattern =>
          cases Option.some.inj hroot
          rw [← hliteral]
          rfl
    split
    · exact Or.inr (Or.inr ⟨rfl, hhead⟩)
    · exact Or.inr (Or.inr ⟨rfl, hhead⟩)
    · next key hnonempty hcut =>
        obtain ⟨after, -, hkey⟩ := eq_of_beforeLastSlash_eq_some hcut
        exact Or.inr (Or.inl ⟨hnonempty, after ++ more, by simp [hkey]⟩)
  · next hliteral =>
      exact Or.inl (eq_of_accepts_literal (Bool.eq_false_iff.2 hliteral) h).symm

/-- Nothing matches but what the pattern stands for, however large the limit is. -/
theorem accepts_of_matches
    {m : Matcher} {pattern path : String}
    (h : m.matches pattern path = true) :
    Accepts (utf8 pattern) (utf8 path) :=
  ((matches_iff_work_le m pattern path).1 h).1

end Reach

section Lookup

theorem lookup_eq_none_iff
    (t : Table) (q : Query) :
    t.lookup q = none
      ↔
    ∀ key ∈ probes q.path, ∀ e ∈ t.buckets.get key, e.takes t.matcher q = false := by
  simp [Table.lookup, List.findSome?_eq_none_iff, List.find?_eq_none]

/-- A lookup finds an entry of the table that takes the request. -/
theorem lookup_sound
    {t : Table} {q : Query} {e : Entry}
    (h : t.lookup q = some e) :
    e ∈ t.entries ∧ e.takes t.matcher q = true := by
  obtain ⟨key, -, hfind⟩ := List.exists_of_findSome?_eq_some h
  have htakes := List.find?_some hfind
  exact ⟨Table.mem_entries_of_mem_get (List.mem_of_find?_eq_some hfind), htakes⟩

/-- The key of an entry with a rooted and trimmed pattern is that of the pattern. -/
theorem key?_of_pattern
    {e : Entry} {pattern : String}
    (hpattern : e.endpoint.pathPattern = some pattern)
    (hroot : pattern.toList.head? = some '/')
    (htrim : trim pattern = pattern) :
    e.key? = some (patternKey pattern) := by
  simp [Entry.key?, endpointKey?, hpattern, rooted?, htrim, hroot]

/--
If some entry of a table takes a request by its pattern, then a lookup finds an
entry: to probe the parents of the path is as good as to go through all entries.
-/
theorem lookup_finds_pattern
    {t : Table} (ht : t.Built)
    {e : Entry} (he : e ∈ t.entries)
    {pattern : String}
    (hpattern : e.endpoint.pathPattern = some pattern)
    (hroot : pattern.toList.head? = some '/')
    (htrim : trim pattern = pattern)
    {q : Query}
    (htakes : e.takes t.matcher q = true) :
    ∃ found,
      t.lookup q = some found ∧
        found ∈ t.entries ∧ found.takes t.matcher q = true := by
  obtain ⟨key, hget, hkey⟩ := ht.filed.mem_get he
  have hpatternKey : key = patternKey pattern := by
    rw [key?_of_pattern hpattern hroot htrim] at hkey
    exact (Option.some.inj hkey).symm
  have hmatches : t.matcher.matches pattern q.path = true := by
    simp only [Entry.takes, coversPath, hpattern, Bool.and_eq_true] at htakes
    exact htakes.1.2
  have hprobed : key ∈ probes q.path := by
    rw [mem_probes_iff, hpatternKey, patternKey, String.toList_ofList]
    exact leadsTo_patternKeyChars hroot (accepts_of_matches hmatches)
  cases hlookup : t.lookup q with
  | none =>
      have hnot := (lookup_eq_none_iff t q).1 hlookup key hprobed e hget
      rw [htakes] at hnot
      cases hnot
  | some found =>
      exact ⟨found, rfl, lookup_sound hlookup⟩

/-- An entry for whatever stands below one user. -/
def belowUser : Entry where
  moduleId := "users"
  location := none
  interfaceId := "users"
  kind := .regular
  endpoint := { pathPattern := some "/users/{id}/*", methods := ["GET"] }

theorem lookup_finds_pattern_below_user :
    ∃ t : Table, t.Built ∧ belowUser ∈ t.entries ∧
      ∃ found,
        t.lookup { method := "GET", path := "/users/7/posts" } = some found ∧
          found ∈ t.entries ∧
            found.takes t.matcher { method := "GET", path := "/users/7/posts" } = true := by
  have hadd :
      Table.empty.addModule
          { moduleId := "users"
            interfaces := [{ id := "users", endpoints := [belowUser.endpoint] }] } none =
        .ok { buckets := [("/users", [belowUser])], size := 1 } := by
    decide
  have hbuilt := Table.Built.add Table.Built.empty hadd
  have hmem : belowUser ∈ Table.entries { buckets := [("/users", [belowUser])], size := 1 } := by
    simp [Table.entries]
  exact ⟨_, hbuilt, hmem,
    lookup_finds_pattern hbuilt hmem rfl (by decide) (by decide) (by decide)⟩

end Lookup

end Route
end SidecarProxy
