import Mathlib.Data.List.Basic
import SidecarProxy.Proofs.Route.Built
import SidecarProxy.Proofs.Route.ProbeKeys
import SidecarProxy.Proofs.Text.Bytes

/-!
# The keys that a lookup in vain goes through

A lookup goes from its path to the parent of each key until there is none.  Main
statement: this ends, every key has fewer bytes than the one before it, the keys
are exactly those to which the path leads, and a lookup that finds nothing has
looked at the buckets of these keys and at no others.
-/

namespace SidecarProxy
namespace Route

open Catalog Text

section Ancestors

/-- The key that is probed behind another one, if there is one. -/
def parentKey? (key : String) : Option String :=
  (parentKeyChars key.toList).map String.ofList

/-- The key to which so many steps from a key to its parent lead, if there are so many. -/
def ancestor? (key : String) : Nat → Option String
  | 0 => some key
  | n + 1 => (parentKey? key).bind (ancestor? · n)

theorem probes_of_no_parent
    {path : String}
    (h : parentKey? path = none) :
    probes path = [path] := by
  rw [parentKey?, Option.map_eq_none_iff] at h
  rw [probes, probesFrom_of_no_parent h, List.map_singleton, String.ofList_toList]

theorem probes_of_parent
    {path parent : String}
    (h : parentKey? path = some parent) :
    probes path = path :: probes parent := by
  obtain ⟨cs, hcs, rfl⟩ := Option.map_eq_some_iff.1 h
  rw [probes, probesFrom_of_parent hcs, List.map_cons, String.ofList_toList, probes,
    String.toList_ofList]

/-- The probed keys are the path, its parent, the parent of that, and so on. -/
theorem probes_getElem?
    (path : String) (n : Nat) :
    (probes path)[n]? = ancestor? path n := by
  induction n generalizing path with
  | zero =>
      cases hparent : parentKey? path with
      | none => rw [probes_of_no_parent hparent]; rfl
      | some parent => rw [probes_of_parent hparent]; rfl
  | succ n ih =>
      rw [ancestor?]
      cases hparent : parentKey? path with
      | none => rw [probes_of_no_parent hparent]; rfl
      | some parent => rw [probes_of_parent hparent]; exact ih parent

end Ancestors

section Lengths

/-- What is probed is a prefix of the path. -/
theorem LeadsTo.isPrefix
    {path key : List Char}
    (h : LeadsTo path key) :
    key <+: path := by
  rcases h with rfl | ⟨-, h⟩ | ⟨rfl, h⟩
  · exact List.prefix_refl _
  · exact (List.prefix_append key ['/']).trans h
  · cases path with
    | nil =>
        cases h
    | cons c path =>
        cases h
        exact ⟨path, rfl⟩

theorem length_utf8Chars_lt
    {a b : List Char}
    (h : a <+: b)
    (hlength : a.length < b.length) :
    (utf8Chars a).length < (utf8Chars b).length := by
  obtain ⟨back, rfl⟩ := h
  cases back with
  | nil =>
      simp at hlength
  | cons c back =>
      have hpos := List.length_pos_iff.2 (String.utf8EncodeChar_ne_nil (c := c))
      rw [utf8Chars_append, utf8Chars_cons, List.length_append, List.length_append]
      omega

/-- Of two probed keys the later one has fewer bytes. -/
theorem probes_pairwise_utf8
    (path : String) :
    (probes path).Pairwise fun a b => (utf8 b).length < (utf8 a).length := by
  refine (probes_pairwise path).imp_of_mem ?_
  intro a b ha hb hlength
  have hprefix := List.prefix_of_prefix_length_le ((mem_probes_iff path b).1 hb).isPrefix
    ((mem_probes_iff path a).1 ha).isPrefix (Nat.le_of_lt hlength)
  exact length_utf8Chars_lt hprefix hlength

theorem nodup_probes
    (path : String) :
    (probes path).Nodup :=
  (probes_pairwise path).imp fun hlength heq => by
    rw [heq] at hlength
    exact Nat.lt_irrefl _ hlength

end Lengths

section Lookups

variable {t t' : Table} {q : Query} {key : String}

/-- A table that differs from another one at most in the bucket of one key. -/
structure AgreesBut (t t' : Table) (key : String) : Prop where
  matcher : t'.matcher = t.matcher
  buckets : ∀ other, other ≠ key → t'.buckets.get other = t.buckets.get other

/-- A lookup looks at the bucket of a key: what it finds depends on it. -/
def LooksAt (t : Table) (q : Query) (key : String) : Prop :=
  ∃ t', AgreesBut t t' key ∧ t'.lookup q ≠ t.lookup q

theorem lookup_eq_of_agreesBut
    (h : AgreesBut t t' key)
    (hkey : key ∉ probes q.path) :
    t'.lookup q = t.lookup q := by
  unfold Table.lookup
  rw [h.matcher, ← List.head?_filterMap, ← List.head?_filterMap]
  refine congrArg List.head? (List.filterMap_congr fun other hother => ?_)
  rw [h.buckets other (ne_of_mem_of_not_mem hother hkey)]

/-- The entry that takes every request for a path. -/
def takingEntry (path : String) : Entry :=
  singleEntry { path := some path, methods := ["*"] }

theorem takes_takingEntry
    (m : Matcher) (q : Query) :
    (takingEntry q.path).takes m q = true := by
  simp [takingEntry, singleEntry, Entry.takes, Endpoint.allows, coversPath, Entry.isMultiple]

/-- A lookup finds something once an entry that takes its request is filed under a probed key. -/
theorem lookup_push_ne_none
    (t : Table)
    (hkey : key ∈ probes q.path) :
    ({ t with buckets := t.buckets.push key (takingEntry q.path) } : Table).lookup q ≠ none := by
  intro hnone
  have hbucket := List.findSome?_eq_none_iff.1 hnone key hkey
  rw [Buckets.get_push, if_pos rfl] at hbucket
  have hnot := List.find?_eq_none.1 hbucket (takingEntry q.path) (by simp)
  exact hnot (takes_takingEntry _ q)

/-- A lookup that finds nothing has looked at the buckets of the probed keys. -/
theorem looksAt_iff
    (hnone : t.lookup q = none)
    (key : String) :
    LooksAt t q key ↔ key ∈ probes q.path := by
  constructor
  · rintro ⟨t', hagrees, hne⟩
    by_contra hkey
    exact hne (lookup_eq_of_agreesBut hagrees hkey)
  · intro hkey
    refine ⟨{ t with buckets := t.buckets.push key (takingEntry q.path) }, ⟨rfl, ?_⟩, ?_⟩
    · intro other hother
      rw [Buckets.get_push, if_neg (Ne.symm hother)]
    · rw [hnone]
      exact lookup_push_ne_none t hkey

end Lookups

section Main

/-- The keys that a path is looked up under. -/
structure ProbeSequence (path : String) : Prop where
  /-- The path is followed by its parent, and so on, until there is none. -/
  steps : ∀ n, (probes path)[n]? = ancestor? path n
  ends : ancestor? path (probes path).length = none
  shorter : (probes path).Pairwise fun a b => (utf8 b).length < (utf8 a).length
  nodup : (probes path).Nodup
  mem_iff :
    ∀ key, key ∈ probes path
        ↔
      key = path ∨
        (key ≠ "" ∧ key.toList ++ ['/'] <+: path.toList) ∨
        (key = "/" ∧ path.toList.head? = some '/')
  looksAt_iff :
    ∀ (t : Table) (q : Query), q.path = path → t.lookup q = none →
      ∀ key, LooksAt t q key ↔ key ∈ probes path

/-- A lookup in vain goes through the keys to which its path leads, from the longest to the
shortest one. -/
theorem probes_descend
    (path : String) :
    ProbeSequence path where
  steps := probes_getElem? path
  ends := by
    rw [← probes_getElem?, List.getElem?_eq_none_iff]
  shorter := probes_pairwise_utf8 path
  nodup := nodup_probes path
  mem_iff key := by
    have hroot : key.toList = "/".toList ↔ key = "/" := String.toList_inj
    rw [mem_probes_iff, LeadsTo, String.toList_inj, ne_eq, String.toList_eq_nil_iff,
      ← hroot]
    rfl
  looksAt_iff t q hpath hnone key := by
    subst hpath
    exact looksAt_iff hnone key

/-- A path with a doubled slash and one at its end. -/
theorem probes_descend_doubledSlash :
    let q : Query := { method := "GET", path := "/a//b/" }
    Table.empty.lookup q = none ∧
      LooksAt .empty q "/a/" ∧
      ¬LooksAt .empty q "/a//" ∧
      (probes q.path)[4]? = some "/" ∧
      (probes q.path)[5]? = none := by
  intro q
  have hprobes := probes_descend q.path
  have hnone : Table.empty.lookup q = none := List.findSome?_eq_none_iff.2 fun _ _ => rfl
  have hlooks := hprobes.looksAt_iff .empty q rfl hnone
  refine ⟨hnone, ?_, ?_, ?_, ?_⟩
  · rw [hlooks, hprobes.mem_iff]
    decide
  · rw [hlooks, hprobes.mem_iff]
    decide
  · rw [hprobes.steps]
    decide
  · rw [hprobes.steps]
    decide

end Main

end Route
end SidecarProxy
