import SidecarProxy.Proofs.Route.Filing
import SidecarProxy.Proofs.Route.ProbeKeys

/-!
# The entry that a lookup chooses

A request can be taken by any declared entry whose key its path leads to.  Of
these the one with the longest key is chosen, and the first declared one among
equals.  Main statement: a lookup in the compiled table makes this choice, and
it fails only where there is nothing to choose from.
-/

namespace SidecarProxy
namespace Route

open Catalog

section Choice

/-- An entry with this key that a request can be given to. -/
structure Candidate
    (m : Matcher) (q : Query) (e : Entry) (key : String) : Prop where
  key_eq : e.key? = some key
  leadsTo : LeadsTo q.path.toList key.toList
  takes : e.takes m q = true

/--
The choice among declared entries: a candidate with a longer key than all
candidates that are declared before it, and with no shorter key than those after it.
-/
def Chosen
    (m : Matcher) (q : Query) (es : List Entry) (e : Entry) :
    Prop :=
  ∃ before after key,
    es = before ++ e :: after ∧
    Candidate m q e key ∧
    (∀ a ∈ before, ∀ k, Candidate m q a k → k.toList.length < key.toList.length) ∧
    (∀ a ∈ after, ∀ k, Candidate m q a k → k.toList.length ≤ key.toList.length)

/-- There is at most one choice. -/
theorem Chosen.unique
    {m : Matcher} {q : Query} {es : List Entry} {e e' : Entry}
    (h : Chosen m q es e)
    (h' : Chosen m q es e') :
    e = e' := by
  obtain ⟨before, after, key, hes, hkey, hbefore, hafter⟩ := h
  obtain ⟨before', after', key', hes', hkey', hbefore', hafter'⟩ := h'
  rw [hes, List.append_eq_append_iff] at hes'
  rcases hes' with ⟨gap, hgap, htail⟩ | ⟨gap, hgap, htail⟩
  · cases gap with
    | nil =>
        exact (List.cons.inj htail).1
    | cons x gap =>
        -- The first one is declared before the second one, so neither key is the longer one.
        obtain ⟨hx, hrest⟩ := List.cons.inj htail
        have hlt := hbefore' e (by simp [hgap, hx]) key hkey
        have hle := hafter e' (by simp [hrest]) key' hkey'
        omega
  · cases gap with
    | nil =>
        exact (List.cons.inj htail).1.symm
    | cons x gap =>
        obtain ⟨hx, hrest⟩ := List.cons.inj htail
        have hlt := hbefore e' (by simp [hgap, hx]) key' hkey'
        have hle := hafter' e (by simp [hrest]) key hkey
        omega

end Choice

section Search

/-- The first of some entries that has a key and takes a request. -/
def firstUnder
    (m : Matcher) (q : Query) (es : List Entry) (key : String) :
    Option Entry :=
  es.find? fun e => e.key? == some key && e.takes m q

theorem candidate_of_firstUnder
    {m : Matcher} {q : Query} {es : List Entry} {key : String} {e : Entry}
    (hkey : key ∈ probes q.path)
    (h : firstUnder m q es key = some e) :
    Candidate m q e key := by
  have hfound := List.find?_some h
  rw [Bool.and_eq_true, beq_iff_eq] at hfound
  exact ⟨hfound.1, (mem_probes_iff _ _).1 hkey, hfound.2⟩

/-- No entry under a key without a first one is a candidate. -/
theorem not_candidate_of_firstUnder_eq_none
    {m : Matcher} {q : Query} {es : List Entry} {key : String}
    (h : firstUnder m q es key = none)
    {e : Entry} (he : e ∈ es) :
    ¬Candidate m q e key := by
  rintro ⟨hkey, -, htakes⟩
  have hnot := List.find?_eq_none.1 h e he
  simp [hkey, htakes] at hnot

/-- The first one of some entries under the longest probed key that has any. -/
structure FirstUnderLongest
    (m : Matcher) (q : Query) (es : List Entry) (key : String) (e : Entry) : Prop where
  probed : key ∈ probes q.path
  first : firstUnder m q es key = some e
  longest :
    ∀ k ∈ probes q.path, key.toList.length < k.toList.length → firstUnder m q es k = none

theorem findSome?_eq_some_iff_firstUnderLongest
    (m : Matcher) (q : Query) (es : List Entry) (e : Entry) :
    (probes q.path).findSome? (firstUnder m q es) = some e
      ↔
    ∃ key, FirstUnderLongest m q es key e := by
  constructor
  · intro h
    obtain ⟨longer, key, shorter, hprobes, hfirst, hnone⟩ := List.findSome?_eq_some_iff.1 h
    obtain ⟨-, hshorter⟩ := lengths_of_probes_eq hprobes
    refine ⟨key, hprobes ▸ by simp, hfirst, fun k hk hlt => ?_⟩
    rw [hprobes, List.mem_append, List.mem_cons] at hk
    rcases hk with hk | rfl | hk
    · exact hnone k hk
    · exact absurd hlt (Nat.lt_irrefl _)
    · exact absurd hlt (Nat.lt_asymm (hshorter k hk))
  · rintro ⟨key, hprobed, hfirst, hlongest⟩
    obtain ⟨longer, shorter, hprobes⟩ := List.append_of_mem hprobed
    obtain ⟨hlonger, -⟩ := lengths_of_probes_eq hprobes
    refine List.findSome?_eq_some_iff.2 ⟨longer, key, shorter, hprobes, hfirst, fun k hk => ?_⟩
    exact hlongest k (hprobes ▸ by simp [hk]) (hlonger k hk)

theorem findSome?_firstUnder_eq_none_iff
    (m : Matcher) (q : Query) (es : List Entry) :
    (probes q.path).findSome? (firstUnder m q es) = none
      ↔
    ∀ e ∈ es, ∀ key, ¬Candidate m q e key := by
  rw [List.findSome?_eq_none_iff]
  constructor
  · intro h e he key hcandidate
    have hprobed := (mem_probes_iff _ _).2 hcandidate.leadsTo
    exact not_candidate_of_firstUnder_eq_none (h key hprobed) he hcandidate
  · intro h key hkey
    cases hfirst : firstUnder m q es key with
    | none =>
        rfl
    | some e =>
        exact absurd (candidate_of_firstUnder hkey hfirst)
          (h e (List.mem_of_find?_eq_some hfirst) key)

/-- What the search through the probed keys finds is the choice. -/
theorem chosen_of_findSome?_firstUnder
    {m : Matcher} {q : Query} {es : List Entry} {e : Entry}
    (h : (probes q.path).findSome? (firstUnder m q es) = some e) :
    Chosen m q es e := by
  obtain ⟨key, hprobed, hfirst, hlongest⟩ :=
    (findSome?_eq_some_iff_firstUnderLongest m q es e).1 h
  have hcandidate := candidate_of_firstUnder hprobed hfirst
  -- A longer key that is probed has no candidates.
  have hlength : ∀ a ∈ es, ∀ k, Candidate m q a k →
      k = key ∨ k.toList.length < key.toList.length := by
    intro a ha k hk
    have hmem := (mem_probes_iff _ _).2 hk.leadsTo
    rcases probed_cases hprobed hmem with heq | hlonger | hshorter
    · exact Or.inl heq
    · exact absurd hk (not_candidate_of_firstUnder_eq_none (hlongest k hmem hlonger) ha)
    · exact Or.inr hshorter
  obtain ⟨-, before, after, hes, hbefore⟩ := List.find?_eq_some_iff_append.1 hfirst
  refine ⟨before, after, key, hes, hcandidate, ?_, ?_⟩
  · intro a ha k hk
    rcases hlength a (by simp [hes, ha]) k hk with rfl | hlt
    · have hnot := hbefore a ha
      simp [hk.key_eq, hk.takes] at hnot
    · exact hlt
  · intro a ha k hk
    rcases hlength a (by simp [hes, ha]) k hk with rfl | hlt
    · exact Nat.le_refl _
    · exact Nat.le_of_lt hlt

theorem findSome?_firstUnder_eq_some_iff
    (m : Matcher) (q : Query) (es : List Entry) (e : Entry) :
    (probes q.path).findSome? (firstUnder m q es) = some e ↔ Chosen m q es e := by
  constructor
  · exact chosen_of_findSome?_firstUnder
  · intro hchosen
    cases hfound : (probes q.path).findSome? (firstUnder m q es) with
    | none =>
        obtain ⟨before, after, key, hes, hkey, -⟩ := hchosen
        exact absurd hkey
          ((findSome?_firstUnder_eq_none_iff m q es).1 hfound e (by simp [hes]) key)
    | some e' =>
        rw [(chosen_of_findSome?_firstUnder hfound).unique hchosen]

end Search

section Compiled

/-- The declared entries of several modules, in order. -/
def declaredAll
    (ds : List ModuleDescription) :
    List Entry :=
  ds.flatMap (declared · none)

/-- Accepted modules are filed entry by entry, in the order of declaration. -/
theorem addModules_eq_ok
    {ds : List ModuleDescription} {t t' : Table}
    (h : ds.foldlM (fun t d => t.addModule d none) t = .ok t') :
    ∃ keyed : List (String × Entry),
      keyed.map filedPair = (declaredAll ds).map Entry.withKey ∧
      t' = keyed.foldl Table.file t := by
  induction ds generalizing t with
  | nil =>
      cases h
      exact ⟨[], rfl, rfl⟩
  | cons d ds ih =>
      rw [List.foldlM_cons] at h
      obtain ⟨next, hd, h⟩ := bind_eq_ok h
      obtain ⟨first, hfirst, rfl⟩ := addModule_eq_ok hd
      obtain ⟨rest, hrest, rfl⟩ := ih h
      refine ⟨first ++ rest, ?_, ?_⟩
      · rw [List.map_append, hfirst, hrest]
        simp [declaredAll]
      · rw [List.foldl_append]

/-- Among pairs that are entries with their keys, a search by key is one among the entries. -/
theorem find?_of_filedPair
    {keyed : List (String × Entry)} {es : List Entry}
    (h : keyed.map filedPair = es.map Entry.withKey)
    (p : Entry → Bool) (key : String) :
    (keyed.find? fun x => x.1 == key && p x.2).map (·.2) =
      es.find? fun e => e.key? == some key && p e := by
  have hfind :=
    congrArg (fun xs => (xs.find? fun x => x.1 == some key && p x.2).map (·.2)) h
  simpa [List.find?_map, Function.comp_def, filedPair, Entry.withKey] using hfind

theorem lookup_eq_findSome?_firstUnder
    {ds : List ModuleDescription} {t : Table}
    (h : Table.ofModules ds = .ok t)
    (q : Query) :
    t.lookup q = (probes q.path).findSome? (firstUnder {} q (declaredAll ds)) := by
  obtain ⟨keyed, hkeyed, rfl⟩ := addModules_eq_ok h
  have hbucket : ∀ key,
      ((keyed.foldl Table.file Table.empty).buckets.get key).find? (·.takes {} q) =
        firstUnder {} q (declaredAll ds) key := by
    intro key
    rw [find?_get_foldl_file, find?_of_filedPair hkeyed (·.takes {} q) key]
    rfl
  rw [Table.lookup, foldl_file_matcher]
  exact congrArg (List.findSome? · (probes q.path)) (funext hbucket)

/--
A lookup in the table of several modules returns the choice among all entries
that the modules declare, and it returns nothing when no declared entry is a candidate.
-/
theorem lookup_iff_chosen
    {ds : List ModuleDescription} {t : Table}
    (h : Table.ofModules ds = .ok t)
    (q : Query) :
    (∀ e, t.lookup q = some e ↔ Chosen {} q (declaredAll ds) e) ∧
      (t.lookup q = none ↔
        ∀ e ∈ declaredAll ds, ∀ key, ¬Candidate {} q e key) := by
  rw [lookup_eq_findSome?_firstUnder h q]
  exact ⟨findSome?_firstUnder_eq_some_iff {} q (declaredAll ds),
    findSome?_firstUnder_eq_none_iff {} q (declaredAll ds)⟩

/-- Two modules, of which the second declares the longer key and repeats an endpoint. -/
def rivals : List ModuleDescription :=
  let all : Endpoint := { pathPattern := some "/users/*", methods := ["GET"] }
  let posts : Endpoint := { pathPattern := some "/users/7/{posts}", methods := ["*"] }
  [{ moduleId := "users", interfaces := [{ id := "users", endpoints := [all] }] },
    { moduleId := "posts", interfaces := [{ id := "posts", endpoints := [posts, all, posts] }] }]

theorem lookup_iff_chosen_rivals :
    ∃ t,
      Table.ofModules rivals = .ok t ∧
        (∀ e, t.lookup { method := "GET", path := "/users/7/x" } = some e ↔
          Chosen {} { method := "GET", path := "/users/7/x" } (declaredAll rivals) e) ∧
        (t.lookup { method := "GET", path := "/users/7/x" } = none ↔
          ∀ e ∈ declaredAll rivals, ∀ key,
            ¬Candidate {} { method := "GET", path := "/users/7/x" } e key) := by
  have haccepted : (Table.ofModules rivals).toOption.isSome = true := by
    decide
  cases h : Table.ofModules rivals with
  | error rejection =>
      rw [h] at haccepted
      cases haccepted
  | ok t =>
      exact ⟨t, rfl, lookup_iff_chosen h _⟩

end Compiled

end Route
end SidecarProxy
