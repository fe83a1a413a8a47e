import SidecarProxy.Proofs.Text.Cut
import SidecarProxy.WebUrl.Numeric

/-!
# Addresses in brackets

What an address of groups is written with.  Every colon is paid for by a group
behind it or by the one gap, and there are at most eight of these together.
Main statement: an address that is read consists of digits, dots and at most
eight colons.
-/

namespace SidecarProxy
namespace WebUrl

open Text

section Characters

/-- A hexadecimal digit. -/
def isHexDigit (c : Char) : Bool :=
  (hexValue? c).isSome

/-- A character of an address: a hexadecimal digit, a colon or a dot. -/
def isGroupChar (c : Char) : Bool :=
  isHexDigit c || c == ':' || c == '.'

theorem isHexDigit_of_isDigit
    {c : Char}
    (h : c.isDigit = true) :
    isHexDigit c = true := by
  rw [Char.isDigit, Bool.and_eq_true, decide_eq_true_eq, decide_eq_true_eq] at h
  have hrange : '0' ≤ c ∧ c ≤ '9' := h
  simp [isHexDigit, hexValue?, hrange.1, hrange.2]

/-- A character stands in a field, unless it is a separator. -/
theorem mem_fieldsWhere
    {cuts : Char → Bool}
    {c : Char}
    (hc : cuts c = false)
    {cs : List Char}
    (h : c ∈ cs) :
    ∃ field ∈ fieldsWhere cuts cs, c ∈ field := by
  induction cs with
  | nil =>
      cases h
  | cons d cs ih =>
      unfold fieldsWhere
      by_cases hd : cuts d = true
      · have hcs : c ∈ cs := by
          rcases List.mem_cons.1 h with rfl | h
          · rw [hc] at hd
            cases hd
          · exact h
        obtain ⟨field, hfield, hmem⟩ := ih hcs
        rw [if_pos hd]
        exact ⟨field, List.mem_cons_of_mem _ hfield, hmem⟩
      · rw [if_neg hd]
        cases hfields : fieldsWhere cuts cs with
        | nil =>
            exact absurd hfields (fieldsWhere_ne_nil cuts cs)
        | cons first more =>
            rw [hfields] at ih
            rcases List.mem_cons.1 h with rfl | h
            · exact ⟨c :: first, by simp, by simp⟩
            · obtain ⟨field, hfield, hmem⟩ := ih h
              rcases List.mem_cons.1 hfield with rfl | hfield
              · exact ⟨d :: field, by simp, by simp [hmem]⟩
              · exact ⟨field, List.mem_cons_of_mem _ hfield, hmem⟩

theorem isDigit_of_decimalByte?
    {cs : List Char} {n : Nat}
    (h : decimalByte? cs = some n) :
    ∀ c ∈ cs, c.isDigit = true := by
  unfold decimalByte? at h
  split at h
  · cases h
  · obtain ⟨hdecimal, -⟩ := Option.filter_eq_some_iff.1 h
    unfold decimal? at hdecimal
    split at hdecimal
    · cases hdecimal
    · next hall =>
        simp only [Bool.or_eq_true, Bool.not_eq_true', not_or, Bool.not_eq_false] at hall
        exact List.all_eq_true.1 hall.2

theorem exists_of_mapM_eq_some
    {α β : Type}
    {f : α → Option β}
    {xs : List α} {ys : List β}
    (h : xs.mapM f = some ys) :
    ∀ x ∈ xs, ∃ y, f x = some y := by
  induction xs generalizing ys with
  | nil =>
      intro x hx
      cases hx
  | cons a xs ih =>
      rw [List.mapM_cons] at h
      simp only [Option.bind_eq_bind, Option.bind_eq_some_iff] at h
      obtain ⟨y, hy, rest, hrest, -⟩ := h
      intro x hx
      rcases List.mem_cons.1 hx with rfl | hx
      · exact ⟨y, hy⟩
      · exact ih hrest x hx

/-- Two groups in decimal digits are written with digits and dots. -/
theorem dottedGroups?_eq_some
    {cs : List Char} {gs : List Nat}
    (h : dottedGroups? cs = some gs) :
    gs.length = 2 ∧ ∀ c ∈ cs, c = '.' ∨ c.isDigit = true := by
  unfold dottedGroups? at h
  simp only [Option.bind_eq_bind, Option.bind_eq_some_iff] at h
  obtain ⟨bytes, hbytes, hgroups⟩ := h
  constructor
  · split at hgroups
    · cases hgroups
      rfl
    · cases hgroups
  · intro c hc
    by_cases hdot : c = '.'
    · exact Or.inl hdot
    · have hcuts : (c == '.') = false := beq_false_of_ne hdot
      obtain ⟨field, hfield, hmem⟩ := @mem_fieldsWhere (· == '.') c hcuts cs hc
      obtain ⟨byte, hbyte⟩ := exists_of_mapM_eq_some hbytes field hfield
      exact Or.inr (isDigit_of_decimalByte? hbyte c hmem)

end Characters

section Scan

/-- A group and what follows it make up what was read. -/
theorem hexGroup_eq
    (cs : List Char) :
    ∃ ds, cs = ds ++ (hexGroup cs).2.2 ∧ ∀ c ∈ ds, isHexDigit c = true := by
  refine ⟨(cs.take 4).takeWhile isHexDigit, ?_, fun c hc => List.mem_takeWhile_imp hc⟩
  have hprefix : (cs.take 4).takeWhile isHexDigit <+: cs :=
    (List.takeWhile_prefix _).trans (List.take_prefix 4 cs)
  exact (List.prefix_iff_eq_append.1 hprefix).symm

/-- What one step of reading groups can do. -/
theorem scanGroups_cases
    {n : Nat} {s s' : GroupScan} {cs : List Char}
    (h : scanGroups (n + 1) s cs = some s') :
    (cs = [] ∧ s' = s) ∨
      (∃ rest, cs = ':' :: rest ∧ s.gap = none ∧
        scanGroups n { s with gap := some s.groups.length } rest = some s') ∨
      (∃ ds rest value, cs = ds ++ ':' :: rest ∧ rest ≠ [] ∧ (∀ c ∈ ds, isHexDigit c = true) ∧
        scanGroups n { s with groups := s.groups ++ [value] } rest = some s') ∨
      (∃ value, (∀ c ∈ cs, isHexDigit c = true) ∧
        s' = { s with groups := s.groups ++ [value] }) ∨
      (∃ gs, dottedGroups? cs = some gs ∧ s' = { s with groups := s.groups ++ gs }) := by
  by_cases hnil : cs = []
  · subst hnil
    simp only [scanGroups, Option.some.injEq] at h
    exact Or.inl ⟨rfl, h.symm⟩
  by_cases hcolon : ∃ rest, cs = ':' :: rest
  · obtain ⟨rest, rfl⟩ := hcolon
    rw [scanGroups] at h
    split at h
    · cases h
    · split at h
      · cases h
      · next hgap =>
          exact Or.inr (Or.inl ⟨rest, rfl, by simpa using hgap, h⟩)
  · have hother : ∀ rest, cs = ':' :: rest → False :=
      fun rest hrest => hcolon ⟨rest, hrest⟩
    obtain ⟨ds, hcs, hds⟩ := hexGroup_eq cs
    rw [scanGroups.eq_4 s cs n hnil hother] at h
    split at h
    · cases h
    · split at h
      next value length rest hgroup =>
        rw [hgroup] at hcs
        split at h
        · split at h
          · cases h
          · obtain ⟨gs, hgs, rfl⟩ := Option.map_eq_some_iff.1 h
            exact Or.inr (Or.inr (Or.inr (Or.inr ⟨gs, hgs, rfl⟩)))
        · cases h
        · next rest hmore =>
            exact Or.inr (Or.inr (Or.inl ⟨ds, rest, value, hcs, hmore, hds, h⟩))
        · cases h
          rw [List.append_nil] at hcs
          exact Or.inr (Or.inr (Or.inr (Or.inl ⟨value, hcs ▸ hds, rfl⟩)))
        · cases h

/-- The groups of a scan, its gap counted as one of them. -/
def GroupScan.size
    (s : GroupScan) :
    Nat :=
  s.groups.length + if s.gap.isSome then 1 else 0

@[simp] theorem GroupScan.size_append
    (s : GroupScan) (gs : List Nat) :
    GroupScan.size { s with groups := s.groups ++ gs } = s.size + gs.length := by
  simp only [GroupScan.size, List.length_append]
  omega

theorem GroupScan.size_gap
    {s : GroupScan}
    (h : s.gap = none)
    (place : Nat) :
    GroupScan.size { s with gap := some place } = s.size + 1 := by
  simp [GroupScan.size, h]

/-- The group without a colon that has to end the rest of an address behind its gap. -/
def GroupScan.owed
    (s : GroupScan) (cs : List Char) :
    Nat :=
  if s.gap.isSome && !cs.isEmpty then 1 else 0

theorem GroupScan.owed_le
    (s : GroupScan) (cs : List Char) :
    s.owed cs ≤ 1 := by
  unfold GroupScan.owed
  split <;> omega

theorem count_colon_eq_zero
    {ds : List Char}
    (h : ∀ c ∈ ds, c ≠ ':') :
    ds.count ':' = 0 :=
  List.count_eq_zero.2 fun hmem => h ':' hmem rfl

theorem ne_colon_of_isHexDigit
    {c : Char}
    (h : isHexDigit c = true) :
    c ≠ ':' := by
  rintro rfl
  revert h
  decide

theorem ne_colon_of_dotted
    {c : Char}
    (h : c = '.' ∨ c.isDigit = true) :
    c ≠ ':' := by
  rintro rfl
  revert h
  decide

/-- Each colon that is read leads to a group or to the gap. -/
theorem count_colon_le_of_scanGroups
    {n : Nat} {s s' : GroupScan} {cs : List Char}
    (h : scanGroups n s cs = some s') :
    cs.count ':' + s.size + s.owed cs ≤ s'.size := by
  induction n generalizing s cs with
  | zero =>
      simp [scanGroups] at h
  | succ n ih =>
      have howed := s.owed_le cs
      rcases scanGroups_cases h with
        ⟨rfl, rfl⟩ | ⟨rest, rfl, hgap, h⟩ | ⟨ds, rest, value, rfl, hrest, hds, h⟩ |
          ⟨value, hcs, rfl⟩ | ⟨gs, hgs, rfl⟩
      · simp [GroupScan.owed]
      · have hnext := ih h
        rw [GroupScan.size_gap hgap] at hnext
        have hnone : s.owed (':' :: rest) = 0 := by
          simp [GroupScan.owed, hgap]
        rw [List.count_cons_self, hnone]
        omega
      · have hnext := ih h
        have hsame :
            GroupScan.owed { s with groups := s.groups ++ [value] } rest =
              s.owed (ds ++ ':' :: rest) := by
          simp [GroupScan.owed, hrest]
        have hzero := count_colon_eq_zero fun c hc => ne_colon_of_isHexDigit (hds c hc)
        rw [GroupScan.size_append, hsame, List.length_singleton] at hnext
        rw [List.count_append, List.count_cons_self, hzero]
        omega
      · have hzero := count_colon_eq_zero fun c hc => ne_colon_of_isHexDigit (hcs c hc)
        rw [GroupScan.size_append, List.length_singleton, hzero]
        omega
      · obtain ⟨hlength, hchars⟩ := dottedGroups?_eq_some hgs
        have hzero := count_colon_eq_zero fun c hc => ne_colon_of_dotted (hchars c hc)
        rw [GroupScan.size_append, hlength, hzero]
        omega

theorem isGroupChar_of_scanGroups
    {n : Nat} {s s' : GroupScan} {cs : List Char}
    (h : scanGroups n s cs = some s') :
    ∀ c ∈ cs, isGroupChar c = true := by
  have hdigit : ∀ c, isHexDigit c = true → isGroupChar c = true := by
    intro c hc
    simp [isGroupChar, hc]
  induction n generalizing s cs with
  | zero =>
      simp [scanGroups] at h
  | succ n ih =>
      rcases scanGroups_cases h with
        ⟨rfl, -⟩ | ⟨rest, rfl, -, h⟩ | ⟨ds, rest, value, rfl, -, hds, h⟩ |
          ⟨value, hcs, -⟩ | ⟨gs, hgs, -⟩
      · simp
      · intro c hc
        rcases List.mem_cons.1 hc with rfl | hc
        · decide
        · exact ih h c hc
      · intro c hc
        rcases List.mem_append.1 hc with hc | hc
        · exact hdigit c (hds c hc)
        · rcases List.mem_cons.1 hc with rfl | hc
          · decide
          · exact ih h c hc
      · exact fun c hc => hdigit c (hcs c hc)
      · intro c hc
        rcases (dottedGroups?_eq_some hgs).2 c hc with rfl | hc
        · decide
        · exact hdigit c (isHexDigit_of_isDigit hc)

end Scan

section Address

theorem GroupScan.size_le_of_finish?
    {s : GroupScan} {groups : List Nat}
    (h : s.finish? = some groups) :
    s.size ≤ 8 := by
  unfold GroupScan.finish? at h
  split at h
  · next place hgap =>
      split at h
      · cases h
      · simp [GroupScan.size, hgap]
        omega
  · next hgap =>
      split at h
      · simp [GroupScan.size, hgap]
        omega
      · cases h

/-- An address in brackets is written with digits, dots and at most eight colons. -/
theorem parseIpv6?_eq_some
    {cs : List Char} {groups : List Nat}
    (h : parseIpv6? cs = some groups) :
    (∀ c ∈ cs, isGroupChar c = true) ∧ cs.count ':' ≤ 8 := by
  unfold parseIpv6? at h
  obtain ⟨s, hscan, hfinish⟩ := Option.bind_eq_some_iff.1 h
  have hsize := GroupScan.size_le_of_finish? hfinish
  split at hscan
  · next rest =>
      have hcount := count_colon_le_of_scanGroups hscan
      have hchars := isGroupChar_of_scanGroups hscan
      constructor
      · intro c hc
        have hc' : c = ':' ∨ c ∈ rest := by
          simpa using hc
        rcases hc' with rfl | hc
        · decide
        · exact hchars c hc
      · cases rest with
        | nil =>
            decide
        | cons c rest =>
            have hgap : GroupScan.size { gap := some 0 } = 1 := rfl
            have howed : GroupScan.owed { gap := some 0 } (c :: rest) = 1 := rfl
            rw [hgap, howed] at hcount
            rw [List.count_cons_self, List.count_cons_self]
            omega
  · cases hscan
  · have hcount := count_colon_le_of_scanGroups hscan
    exact ⟨isGroupChar_of_scanGroups hscan, by omega⟩

end Address

end WebUrl
end SidecarProxy
