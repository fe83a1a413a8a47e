import SidecarProxy.Proofs.Text.Cut
import SidecarProxy.Route.Key

/-!
# The keys that a path leads to

A lookup probes its path and then one parent after the other.  `LeadsTo` says
without this iteration which keys a path leads to.  Main statements: the probed
keys are exactly these, and they get shorter from one to the next.
-/

namespace SidecarProxy
namespace Route

open Text

section LastSlash

/-- The last slash stands between the part in front of it and a part without slashes. -/
theorem eq_of_beforeLastSlash_eq_some
    {cs before : List Char}
    (h : beforeLastSlash cs = some before) :
    ∃ after, '/' ∉ after ∧ cs = before ++ '/' :: after := by
  unfold beforeLastSlash at h
  split at h
  · cases h
  · next c rest hdrop =>
      cases h
      have hc : (c != '/') = false :=
        of_head?_dropWhile (p := (· != '/')) (l := cs.reverse) (by simp [hdrop])
      rw [bne_eq_false_iff_eq] at hc
      refine ⟨(cs.reverse.takeWhile (· != '/')).reverse, ?_, ?_⟩
      · intro hmem
        simpa using List.mem_takeWhile_imp (List.mem_reverse.1 hmem)
      · have hcut :=
          List.takeWhile_append_dropWhile (p := (· != '/')) (l := cs.reverse)
        rw [hdrop, hc] at hcut
        simpa using (congrArg List.reverse hcut).symm

theorem notMem_of_beforeLastSlash_eq_none
    {cs : List Char}
    (h : beforeLastSlash cs = none) :
    '/' ∉ cs := by
  unfold beforeLastSlash at h
  split at h
  · next hdrop =>
      intro hmem
      have hall := List.dropWhile_eq_nil_iff.1 hdrop '/' (List.mem_reverse.2 hmem)
      simp at hall
  · cases h

end LastSlash

section LeadsTo

/--
The keys to which a path leads: the path itself, every prefix that is not empty
and ends just before a slash of the path, and the root of a path that has one.
-/
def LeadsTo
    (path key : List Char) :
    Prop :=
  key = path ∨
    (key ≠ [] ∧ key ++ ['/'] <+: path) ∨
    (key = ['/'] ∧ path.head? = some '/')

/-- A prefix that ends before a slash ends before the last slash or further in front. -/
theorem prefix_cut_iff
    {key before after : List Char}
    (hafter : '/' ∉ after) :
    key ++ ['/'] <+: before ++ '/' :: after
      ↔
    key = before ∨ key ++ ['/'] <+: before := by
  constructor
  · rintro ⟨rest, hrest⟩
    rw [List.append_assoc, List.singleton_append,
      List.append_eq_append_iff] at hrest
    rcases hrest with ⟨gap, rfl, hgap⟩ | ⟨gap, rfl, hgap⟩
    · cases gap with
      | nil => simp
      | cons c gap =>
          obtain ⟨rfl, -⟩ := List.cons.inj hgap
          exact Or.inr ⟨gap, by simp⟩
    · cases gap with
      | nil => simp
      | cons c gap =>
          obtain ⟨-, rfl⟩ := List.cons.inj hgap
          exact absurd (by simp) hafter
  · rintro (rfl | h)
    · exact ⟨after, by simp⟩
    · exact h.trans (List.prefix_append _ _)

theorem leadsTo_root_iff
    (key : List Char) :
    LeadsTo ['/'] key ↔ key = ['/'] := by
  constructor
  · rintro (h | ⟨hne, h⟩ | ⟨h, -⟩)
    · exact h
    · have hlength := h.length_le
      cases key with
      | nil => exact absurd rfl hne
      | cons c key => simp at hlength
    · exact h
  · exact Or.inl

theorem leadsTo_iff_of_notMem
    {path : List Char}
    (hslash : '/' ∉ path)
    (key : List Char) :
    LeadsTo path key ↔ key = path := by
  constructor
  · rintro (h | ⟨-, h⟩ | ⟨-, h⟩)
    · exact h
    · exact absurd (h.subset (by simp)) hslash
    · exact absurd (List.mem_of_mem_head? h) hslash
  · exact Or.inl

/-- A path leads to itself, and then to what the part before its last slash leads to. -/
theorem leadsTo_cut_iff
    {before after : List Char}
    (hbefore : before ≠ [])
    (hafter : '/' ∉ after)
    (key : List Char) :
    LeadsTo (before ++ '/' :: after) key
      ↔
    key = before ++ '/' :: after ∨ LeadsTo before key := by
  have hhead : (before ++ '/' :: after).head? = before.head? := by
    cases before with
    | nil => exact absurd rfl hbefore
    | cons c before => rfl
  simp only [LeadsTo, prefix_cut_iff hafter, hhead]
  constructor
  · rintro (h | ⟨hne, h | h⟩ | h)
    · exact Or.inl h
    · exact Or.inr (Or.inl h)
    · exact Or.inr (Or.inr (Or.inl ⟨hne, h⟩))
    · exact Or.inr (Or.inr (Or.inr h))
  · rintro (h | h | ⟨hne, h⟩ | h)
    · exact Or.inl h
    · exact Or.inr (Or.inl ⟨h ▸ hbefore, Or.inl h⟩)
    · exact Or.inr (Or.inl ⟨hne, Or.inr h⟩)
    · exact Or.inr (Or.inr h)

/-- A path with one slash in front leads to itself and to the root. -/
theorem leadsTo_top_iff
    {after : List Char}
    (hafter : '/' ∉ after)
    (key : List Char) :
    LeadsTo ('/' :: after) key
      ↔
    key = '/' :: after ∨ key = ['/'] := by
  have hcut : key ++ ['/'] <+: '/' :: after ↔ key = [] ∨ key ++ ['/'] <+: [] :=
    @prefix_cut_iff key [] after hafter
  simp only [LeadsTo, hcut, List.head?_cons, and_true]
  constructor
  · rintro (h | ⟨hne, h | h⟩ | h)
    · exact Or.inl h
    · exact absurd h hne
    · simp at h
    · exact Or.inr h
  · rintro (h | h)
    · exact Or.inl h
    · exact Or.inr (Or.inr h)

end LeadsTo

section Probes

theorem leadsTo_iff_of_no_parent
    {path : List Char}
    (h : parentKeyChars path = none)
    (key : List Char) :
    LeadsTo path key ↔ key = path := by
  unfold parentKeyChars at h
  split at h
  · next hroot =>
      rw [hroot]
      exact leadsTo_root_iff key
  · split at h
    · next hnone =>
        exact leadsTo_iff_of_notMem (notMem_of_beforeLastSlash_eq_none hnone) key
    · cases h
    · cases h

theorem leadsTo_iff_of_parent
    {path parent : List Char}
    (h : parentKeyChars path = some parent)
    (key : List Char) :
    LeadsTo path key ↔ key = path ∨ LeadsTo parent key := by
  unfold parentKeyChars at h
  split at h
  · cases h
  · split at h
    · cases h
    · next hnil =>
        cases h
        obtain ⟨after, hafter, rfl⟩ := eq_of_beforeLastSlash_eq_some hnil
        rw [leadsTo_root_iff]
        exact leadsTo_top_iff hafter key
    · next hnonempty hsome =>
        cases h
        obtain ⟨after, hafter, rfl⟩ := eq_of_beforeLastSlash_eq_some hsome
        exact leadsTo_cut_iff hnonempty hafter key

theorem probesFrom_of_no_parent
    {path : List Char}
    (h : parentKeyChars path = none) :
    probesFrom path = [path] := by
  rw [probesFrom]
  split
  · rfl
  · next hsome =>
      rw [h] at hsome
      cases hsome

theorem probesFrom_of_parent
    {path parent : List Char}
    (h : parentKeyChars path = some parent) :
    probesFrom path = path :: probesFrom parent := by
  rw [probesFrom]
  split
  · next hnone =>
      rw [h] at hnone
      cases hnone
  · next hsome =>
      rw [h] at hsome
      cases hsome
      rfl

/-- The probed keys are those to which the path leads. -/
theorem mem_probesFrom_iff
    (path key : List Char) :
    key ∈ probesFrom path ↔ LeadsTo path key := by
  induction path using probesFrom.induct with
  | case1 path hnone =>
      rw [probesFrom_of_no_parent hnone, leadsTo_iff_of_no_parent hnone,
        List.mem_singleton]
  | case2 path parent hsome ih =>
      rw [probesFrom_of_parent hsome, leadsTo_iff_of_parent hsome,
        List.mem_cons, ih]

/-- No key is longer than the path that leads to it. -/
theorem LeadsTo.length_le
    {path key : List Char}
    (h : LeadsTo path key) :
    key.length ≤ path.length := by
  rcases h with rfl | ⟨-, h⟩ | ⟨rfl, h⟩
  · exact Nat.le_refl _
  · exact ((List.prefix_append key ['/']).trans h).length_le
  · cases path with
    | nil => cases h
    | cons c path => simp

/-- The probed keys get shorter from one to the next. -/
theorem probesFrom_pairwise
    (path : List Char) :
    (probesFrom path).Pairwise fun a b => b.length < a.length := by
  induction path using probesFrom.induct with
  | case1 path hnone =>
      rw [probesFrom_of_no_parent hnone]
      exact List.pairwise_singleton _ _
  | case2 path parent hsome ih =>
      rw [probesFrom_of_parent hsome]
      refine List.Pairwise.cons ?_ ih
      intro key hkey
      have hle := ((mem_probesFrom_iff parent key).1 hkey).length_le
      have hlt := length_parentKeyChars_lt hsome
      omega

theorem mem_probes_iff
    (path key : String) :
    key ∈ probes path ↔ LeadsTo path.toList key.toList := by
  rw [← mem_probesFrom_iff, probes, List.mem_map]
  constructor
  · rintro ⟨cs, hcs, rfl⟩
    rwa [String.toList_ofList]
  · intro h
    exact ⟨key.toList, h, String.ofList_toList⟩

theorem probes_pairwise
    (path : String) :
    (probes path).Pairwise fun a b => b.toList.length < a.toList.length := by
  rw [probes, List.pairwise_map]
  simpa only [String.toList_ofList] using probesFrom_pairwise path.toList

/-- The keys that are probed before a key are longer, and those after it are shorter. -/
theorem lengths_of_probes_eq
    {path key : String} {longer shorter : List String}
    (h : probes path = longer ++ key :: shorter) :
    (∀ k ∈ longer, key.toList.length < k.toList.length) ∧
      ∀ k ∈ shorter, k.toList.length < key.toList.length := by
  have hsorted := probes_pairwise path
  rw [h] at hsorted
  obtain ⟨-, hrest, hlonger⟩ := List.pairwise_append.1 hsorted
  exact ⟨fun k hk => hlonger k hk key List.mem_cons_self, (List.pairwise_cons.1 hrest).1⟩

/-- Two probed keys are the same, or one of them is longer. -/
theorem probed_cases
    {path key other : String}
    (hkey : key ∈ probes path)
    (hother : other ∈ probes path) :
    other = key ∨ key.toList.length < other.toList.length ∨
      other.toList.length < key.toList.length := by
  obtain ⟨longer, shorter, hprobes⟩ := List.append_of_mem hkey
  obtain ⟨hlonger, hshorter⟩ := lengths_of_probes_eq hprobes
  rw [hprobes, List.mem_append, List.mem_cons] at hother
  rcases hother with hmem | heq | hmem
  · exact Or.inr (Or.inl (hlonger other hmem))
  · exact Or.inl heq
  · exact Or.inr (Or.inr (hshorter other hmem))

end Probes

end Route
end SidecarProxy
