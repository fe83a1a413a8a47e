import SidecarProxy.Proofs.Route.Declared

/-!
# Filing entries in buckets

What one filed entry does to the buckets of a table, and from that what a whole
list of them does.  An entry that stands in its bucket already is not filed
again; a search for the first entry of some kind cannot tell the difference.
-/

namespace SidecarProxy
namespace Route

open Catalog

section Buckets

theorem Buckets.get_cons
    (key other : String) (es : List Entry) (bs : Buckets) :
    Buckets.get ((key, es) :: bs) other =
      if key = other then es else Buckets.get bs other := by
  by_cases h : key = other
  · simp [Buckets.get, h]
  · have hne : (other == key) = false :=
      beq_false_of_ne (Ne.symm h)
    simp [Buckets.get, List.lookup_cons, hne, h]

/-- A filed entry goes to the end of its bucket, and the other buckets stay. -/
theorem Buckets.get_push
    (key other : String) (e : Entry) (bs : Buckets) :
    (Buckets.push key e bs).get other =
      if key = other then bs.get other ++ [e] else bs.get other := by
  induction bs with
  | nil =>
      simp only [Buckets.push, Buckets.get_cons]
      by_cases h : key = other <;> simp [h, Buckets.get]
  | cons b bs ih =>
      obtain ⟨first, es⟩ := b
      simp only [Buckets.push]
      by_cases hfirst : first = key
      · simp only [hfirst, if_true, Buckets.get_cons]
        by_cases h : key = other <;> simp [h]
      · simp only [hfirst, if_false, Buckets.get_cons, ih]
        by_cases hother : first = other
        · have hkey : key ≠ other := fun h => hfirst (hother.trans h.symm)
          simp [hother, hkey]
        · simp [hother]

/-- The keys of buckets, in the order of their first use. -/
def Buckets.keys
    (bs : Buckets) :
    List String :=
  bs.map (·.1)

theorem Buckets.keys_push
    (key : String) (e : Entry) (bs : Buckets) :
    (Buckets.push key e bs).keys =
      if key ∈ bs.keys then bs.keys else bs.keys ++ [key] := by
  induction bs with
  | nil =>
      rfl
  | cons b bs ih =>
      obtain ⟨first, es⟩ := b
      simp only [Buckets.push]
      by_cases hfirst : first = key
      · simp [hfirst, Buckets.keys]
      · have hne : key ≠ first := Ne.symm hfirst
        simp only [Buckets.keys] at ih
        simp only [hfirst, if_false, Buckets.keys, List.map_cons, ih,
          List.mem_cons, hne, false_or]
        by_cases hmem : key ∈ bs.map (·.1) <;> simp [hmem]

theorem Buckets.nodup_keys_push
    {bs : Buckets}
    (h : bs.keys.Nodup)
    (key : String) (e : Entry) :
    (Buckets.push key e bs).keys.Nodup := by
  rw [Buckets.keys_push]
  split
  · exact h
  · next hkey =>
      rw [List.nodup_append]
      refine ⟨h, by simp, ?_⟩
      intro a ha b hb hab
      rw [List.mem_singleton] at hb
      exact hkey (hb ▸ hab ▸ ha)

/-- With every key used once, a bucket is what is filed under its key. -/
theorem Buckets.get_of_mem
    {bs : Buckets}
    (h : bs.keys.Nodup)
    {key : String} {es : List Entry}
    (hmem : (key, es) ∈ bs) :
    bs.get key = es := by
  induction bs with
  | nil =>
      cases hmem
  | cons b bs ih =>
      obtain ⟨first, es'⟩ := b
      have hkeys : (first :: Buckets.keys bs).Nodup := h
      rw [Buckets.get_cons]
      rcases List.mem_cons.1 hmem with heq | hmem
      · cases heq
        simp
      · have hne : first ≠ key := by
          rintro rfl
          exact (List.nodup_cons.1 hkeys).1 (List.mem_map_of_mem (f := (·.1)) hmem)
        rw [if_neg hne]
        exact ih (List.nodup_cons.1 hkeys).2 hmem

end Buckets

section File

theorem file_matcher
    (t : Table) (x : String × Entry) :
    (t.file x).matcher = t.matcher := by
  unfold Table.file
  split <;> rfl

theorem foldl_file_matcher
    (t : Table) (xs : List (String × Entry)) :
    (xs.foldl Table.file t).matcher = t.matcher := by
  induction xs generalizing t with
  | nil => rfl
  | cons x xs ih => rw [List.foldl_cons, ih, file_matcher]

theorem get_file
    (t : Table) (x : String × Entry) (key : String) :
    (t.file x).buckets.get key =
      if x.1 = key ∧ x.2 ∉ t.buckets.get key then t.buckets.get key ++ [x.2]
      else t.buckets.get key := by
  obtain ⟨k, e⟩ := x
  unfold Table.file
  by_cases hkey : k = key
  · subst hkey
    by_cases hmem : e ∈ t.buckets.get k <;> simp [hmem, Buckets.get_push]
  · by_cases hmem : e ∈ t.buckets.get k <;> simp [hmem, hkey, Buckets.get_push]

/-- A search in a bucket finds what was there before, and else the filed entry. -/
theorem find?_get_file
    (t : Table) (x : String × Entry) (key : String)
    (p : Entry → Bool) :
    ((t.file x).buckets.get key).find? p =
      ((t.buckets.get key).find? p).or
        (if x.1 == key && p x.2 then some x.2 else none) := by
  rw [get_file]
  by_cases hkey : x.1 = key
  · by_cases hmem : x.2 ∈ t.buckets.get key
    · by_cases hp : p x.2 = true
      · have hfound : ((t.buckets.get key).find? p).isSome :=
          List.find?_isSome.2 ⟨x.2, hmem, hp⟩
        obtain ⟨e, he⟩ := Option.isSome_iff_exists.1 hfound
        simp [hmem, he]
      · simp [hmem, hp]
    · simp [hkey, hmem, List.find?_append, List.find?_singleton]
  · simp [hkey]

/-- A search in a bucket of a table that was filed from a list finds the first match of the list. -/
theorem find?_get_foldl_file
    (t : Table) (xs : List (String × Entry)) (key : String)
    (p : Entry → Bool) :
    ((xs.foldl Table.file t).buckets.get key).find? p =
      ((t.buckets.get key).find? p).or
        ((xs.find? fun x => x.1 == key && p x.2).map (·.2)) := by
  induction xs generalizing t with
  | nil =>
      simp
  | cons x xs ih =>
      rw [List.foldl_cons, ih, find?_get_file, Option.or_assoc, List.find?_cons]
      cases hx : x.1 == key && p x.2 <;> simp

end File

end Route
end SidecarProxy
