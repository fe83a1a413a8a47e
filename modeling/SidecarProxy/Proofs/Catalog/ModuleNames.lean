import Mathlib.Data.List.Basic
import SidecarProxy.Catalog.ModuleId
import SidecarProxy.Proofs.Text.Cut
import SidecarProxy.Proofs.Text.Split

/-!
# Names and versions in module ids

Both the name and the end of a version may hold hyphens, so an id may be cut into
a name and a version in several places.  Main statements: the name that is read
is the shortest one, it is itself no id, and a version behind a name adds nothing
to what the name alone is read as.
-/

namespace SidecarProxy
namespace Catalog
namespace ModuleId

open Text

section Versions

/-- A non-empty run of ASCII digits. -/
def Number (cs : List Char) : Prop :=
  cs ≠ [] ∧ ∀ c ∈ cs, '0' ≤ c ∧ c ≤ '9'

/-- A character that ends the release part of a version. -/
def EndsRelease (c : Char) : Prop :=
  c = '-' ∨ c = '+'

/-- Three numbers joined by dots, and then whatever a `-` or a `+` begins. -/
def Version (cs : List Char) : Prop :=
  ∃ major minor patch rest,
    Number major ∧ Number minor ∧ Number patch ∧
      cs = (major ++ '.' :: minor ++ '.' :: patch) ++ rest ∧
      ∀ c, rest.head? = some c → EndsRelease c

variable {cs version : List Char}

theorem isNumber_iff :
    isNumber cs = true ↔ Number cs := by
  simp only [isNumber, Bool.and_eq_true, Bool.not_eq_true', List.isEmpty_eq_false_iff,
    List.all_eq_true, Char.isDigit, decide_eq_true_eq]
  rfl

/-- A number holds neither the characters between numbers nor those behind them. -/
theorem Number.notMem
    (h : Number cs)
    {c : Char}
    (hc : c ∈ ['.', '-', '+']) :
    c ∉ cs := by
  intro hmem
  have hrange := h.2 c hmem
  simp only [List.mem_cons, List.not_mem_nil, or_false] at hc
  rcases hc with rfl | rfl | rfl <;> revert hrange <;> decide

/-- The release part of a version ends at the first `-` or `+`. -/
theorem exists_append_release
    (version : List Char) :
    ∃ rest, version = release version ++ rest ∧ ∀ c, rest.head? = some c → EndsRelease c := by
  refine ⟨_, (List.takeWhile_append_dropWhile).symm, fun c hc => ?_⟩
  have hends := of_head?_dropWhile hc
  simpa [EndsRelease, or_iff_not_imp_left] using hends

theorem release_append
    {core rest : List Char}
    (hcore : ∀ c ∈ core, ¬ EndsRelease c)
    (hrest : ∀ c, rest.head? = some c → EndsRelease c) :
    release (core ++ rest) = core := by
  refine takeWhile_append_eq (fun c hc => ?_) (fun c hc => ?_)
  · have hnot := hcore c hc
    simp only [EndsRelease, not_or] at hnot
    simp [hnot.1, hnot.2]
  · rcases hrest c hc with rfl | rfl <;> decide

/-- The checks of a version accept exactly what the grammar of versions produces. -/
theorem isVersion_iff :
    isVersion version = true ↔ Version version := by
  simp only [isVersion, Bool.and_eq_true, beq_iff_eq, List.all_eq_true]
  constructor
  · rintro ⟨hlength, hnumbers⟩
    obtain ⟨major, minor, patch, hfields⟩ := List.length_eq_three.1 hlength
    rw [hfields] at hnumbers
    simp only [List.mem_cons, List.not_mem_nil, or_false, forall_eq_or_imp, forall_eq,
      isNumber_iff] at hnumbers
    have hjoined := ((fields_eq_iff '.' (by simp)).1 hfields).1
    obtain ⟨rest, hcut, hrest⟩ := exists_append_release version
    refine ⟨major, minor, patch, rest, hnumbers.1, hnumbers.2.1, hnumbers.2.2, ?_, hrest⟩
    rw [hjoined] at hcut
    simpa [List.intercalate_cons_cons] using hcut
  · rintro ⟨major, minor, patch, rest, hmajor, hminor, hpatch, rfl, hrest⟩
    have hcore : ∀ c ∈ major ++ '.' :: minor ++ '.' :: patch, ¬ EndsRelease c := by
      intro c hc hends
      have hmark : c ∈ ['.', '-', '+'] := by
        rcases hends with rfl | rfl <;> simp
      simp only [List.mem_append, List.mem_cons, hmajor.notMem hmark, hminor.notMem hmark,
        hpatch.notMem hmark, false_or, or_false, or_self] at hc
      subst hc
      revert hends
      simp [EndsRelease]
    have hfields : fields '.' (major ++ '.' :: minor ++ '.' :: patch) = [major, minor, patch] := by
      refine (fields_eq_iff '.' (by simp)).2 ⟨by simp [List.intercalate_cons_cons], ?_⟩
      simp [hmajor.notMem, hminor.notMem, hpatch.notMem]
    rw [release_append hcore hrest, hfields]
    simp [isNumber_iff, hmajor, hminor, hpatch]

/-- What follows a version behind a hyphen still belongs to it. -/
theorem version_append_iff
    (more : List Char) :
    Version (version ++ '-' :: more) ↔ Version version := by
  have hrelease : release (version ++ '-' :: more) = release version := by
    rw [release, List.takeWhile_append]
    split
    · next hlength =>
        simpa [release] using ((List.takeWhile_prefix _).eq_of_length hlength).symm
    · rfl
  rw [← isVersion_iff, ← isVersion_iff, isVersion, isVersion, hrelease]

end Versions

section Names

/-- A name that leaves a version behind the next hyphen. -/
def Splits (cs name : List Char) : Prop :=
  name ≠ [] ∧ ∃ version, Version version ∧ cs = name ++ '-' :: version

variable {started : Bool} {cs name other version : List Char}

theorem splits_of_nameFrom
    (h : nameFrom started cs = some name) :
    (started = true ∨ name ≠ []) ∧
      ∃ version, Version version ∧ cs = name ++ '-' :: version := by
  induction cs generalizing started name with
  | nil =>
      cases h
  | cons c rest ih =>
      rw [nameFrom] at h
      split at h
      · next hcut =>
          cases h
          simp only [Bool.and_eq_true, beq_iff_eq, isVersion_iff] at hcut
          obtain ⟨⟨rfl, hstarted⟩, hversion⟩ := hcut
          exact ⟨.inl hstarted, rest, hversion, rfl⟩
      · obtain ⟨name, hname, rfl⟩ := Option.map_eq_some_iff.1 h
        obtain ⟨-, version, hversion, rfl⟩ := ih hname
        exact ⟨.inr (List.cons_ne_nil _ _), version, hversion, rfl⟩

/-- Where there is a name in front of a version, one is read that is no longer. -/
theorem exists_nameFrom_le
    (hversion : Version version)
    (hname : started = true ∨ name ≠ []) :
    ∃ read, nameFrom started (name ++ '-' :: version) = some read ∧ read.length ≤ name.length := by
  induction name generalizing started with
  | nil =>
      have hstarted := hname.resolve_right (fun hne => hne rfl)
      refine ⟨[], ?_, Nat.le_refl _⟩
      simp [nameFrom, hstarted, isVersion_iff.2 hversion]
  | cons c name ih =>
      rw [List.cons_append, nameFrom]
      split
      · exact ⟨[], rfl, Nat.zero_le _⟩
      · obtain ⟨read, hread, hle⟩ := ih (.inl rfl)
        exact ⟨c :: read, by rw [hread, Option.map_some], Nat.succ_le_succ hle⟩

/-- The name that is read is the shortest one that leaves a version. -/
theorem nameFrom_eq_some_iff :
    nameFrom false cs = some name
      ↔
    Splits cs name ∧ ∀ other, Splits cs other → name.length ≤ other.length := by
  have hread {other : List Char} (hsplits : Splits cs other) :
      ∃ read, nameFrom false cs = some read ∧ read.length ≤ other.length := by
    obtain ⟨hne, version, hversion, rfl⟩ := hsplits
    exact exists_nameFrom_le hversion (.inr hne)
  have hsplits {read : List Char} (h : nameFrom false cs = some read) : Splits cs read := by
    obtain ⟨hne, hcut⟩ := splits_of_nameFrom h
    exact ⟨hne.resolve_left Bool.false_ne_true, hcut⟩
  constructor
  · intro h
    refine ⟨hsplits h, fun other hother => ?_⟩
    obtain ⟨read, hsome, hle⟩ := hread hother
    cases h.symm.trans hsome
    exact hle
  · rintro ⟨hname, hshortest⟩
    obtain ⟨read, hsome, hle⟩ := hread hname
    obtain ⟨-, version, -, hcut⟩ := hsplits hsome
    obtain ⟨-, version', -, hcut'⟩ := hname
    have hlength := Nat.le_antisymm hle (hshortest read (hsplits hsome))
    rw [hsome, (List.append_inj (hcut.symm.trans hcut') hlength).1]

theorem nameFrom_eq_none_iff :
    nameFrom false cs = none ↔ ∀ name, ¬ Splits cs name := by
  constructor
  · rintro hnone name ⟨hne, version, hversion, rfl⟩
    obtain ⟨read, hread, -⟩ := exists_nameFrom_le hversion (.inr hne)
    rw [hnone] at hread
    cases hread
  · intro hno
    rw [Option.eq_none_iff_forall_not_mem]
    exact fun name hname => hno name (nameFrom_eq_some_iff.1 hname).1

/-- A cut within a name is a cut of what the name is followed by, too. -/
theorem Splits.append
    (h : Splits name other)
    (version : List Char) :
    Splits (name ++ '-' :: version) other := by
  obtain ⟨hne, inner, hinner, rfl⟩ := h
  exact ⟨hne, inner ++ '-' :: version, (version_append_iff version).2 hinner, by simp⟩

theorem Splits.length_lt
    (h : Splits cs name) :
    name.length < cs.length := by
  obtain ⟨-, version, -, rfl⟩ := h
  simp

/-- A cut in front of the end of a name is a cut within it. -/
theorem Splits.of_append
    (h : Splits (name ++ '-' :: version) other)
    (hlength : other.length < name.length) :
    Splits name other := by
  obtain ⟨hne, whole, hwhole, hcut⟩ := h
  rcases List.append_eq_append_iff.1 hcut with ⟨more, rfl, -⟩ | ⟨inner, rfl, hrest⟩
  · rw [List.length_append] at hlength
    omega
  · cases inner with
    | nil =>
        simp at hlength
    | cons c inner =>
        obtain ⟨rfl, rfl⟩ := List.cons.inj hrest
        exact ⟨hne, inner, (version_append_iff version).1 hwhole, rfl⟩

/-- The name of an id is no id. -/
theorem nameFrom_name
    (h : nameFrom false cs = some name) :
    nameFrom false name = none := by
  obtain ⟨⟨-, version, -, rfl⟩, hshortest⟩ := nameFrom_eq_some_iff.1 h
  rw [nameFrom_eq_none_iff]
  intro other hother
  have hle := hshortest other (hother.append version)
  have hlt := hother.length_lt
  omega

/-- A version behind a name is no part of the name that is read. -/
theorem nameFrom_append
    (hname : name ≠ [])
    (hversion : Version version) :
    nameFrom false (name ++ '-' :: version) = (nameFrom false name).or (some name) := by
  have hself : Splits (name ++ '-' :: version) name := ⟨hname, version, hversion, rfl⟩
  cases hread : nameFrom false name with
  | some read =>
      obtain ⟨hsplits, hshortest⟩ := nameFrom_eq_some_iff.1 hread
      refine nameFrom_eq_some_iff.2 ⟨hsplits.append version, fun other hother => ?_⟩
      have hlt := hsplits.length_lt
      rcases Nat.lt_or_ge other.length name.length with hshort | hlong
      · exact hshortest other (hother.of_append hshort)
      · omega
  | none =>
      refine nameFrom_eq_some_iff.2 ⟨hself, fun other hother => ?_⟩
      by_contra hshort
      exact nameFrom_eq_none_iff.1 hread other (hother.of_append (Nat.not_le.1 hshort))

end Names

end ModuleId

section Texts

open ModuleId

/-- Text that is a name, a hyphen and a version. -/
def VersionOf (name id : String) : Prop :=
  name ≠ "" ∧ ∃ version : String, Version version.toList ∧ id = name ++ "-" ++ version

variable {id name version : String}

theorem versionOf_iff_splits :
    VersionOf name id ↔ Splits id.toList name.toList := by
  unfold VersionOf Splits
  rw [ne_eq, ne_eq, String.toList_eq_nil_iff]
  refine and_congr_right fun _ => ?_
  constructor
  · rintro ⟨version, hversion, rfl⟩
    exact ⟨version.toList, hversion, by simp⟩
  · rintro ⟨version, hversion, hid⟩
    refine ⟨String.ofList version, by rwa [String.toList_ofList], ?_⟩
    rw [← String.toList_inj, hid]
    simp

theorem name?_eq_some_iff_nameFrom :
    name? id = some name ↔ nameFrom false id.toList = some name.toList := by
  rw [name?, Option.map_eq_some_iff]
  constructor
  · rintro ⟨cs, hcs, rfl⟩
    rw [hcs, String.toList_ofList]
  · intro h
    exact ⟨name.toList, h, String.ofList_toList⟩

/-- The name of an id is the shortest text that leaves a version. -/
theorem name?_eq_some_iff :
    name? id = some name
      ↔
    VersionOf name id ∧ ∀ other, VersionOf other id → name.length ≤ other.length := by
  rw [name?_eq_some_iff_nameFrom, nameFrom_eq_some_iff, versionOf_iff_splits]
  refine and_congr_right fun _ => ?_
  constructor
  · intro hshortest other hother
    exact hshortest other.toList (versionOf_iff_splits.1 hother)
  · intro hshortest other hother
    have hle := hshortest (String.ofList other)
      (versionOf_iff_splits.2 (by rwa [String.toList_ofList]))
    rwa [String.length_ofList] at hle

theorem isModuleId_eq_false_iff :
    isModuleId id = false ↔ nameFrom false id.toList = none := by
  simp [isModuleId, name?]

theorem isModuleId_name
    (h : name? id = some name) :
    isModuleId name = false :=
  isModuleId_eq_false_iff.2 (nameFrom_name (name?_eq_some_iff_nameFrom.1 h))

/-- An id that is continued by a version keeps its name, and any other text becomes the name. -/
theorem name?_append
    (hname : name ≠ "")
    (hversion : Version version.toList) :
    name? (name ++ "-" ++ version) = if isModuleId name then name? name else some name := by
  have hne : name.toList ≠ [] := by
    rwa [ne_eq, String.toList_eq_nil_iff]
  have htext : (name ++ "-" ++ version).toList = name.toList ++ '-' :: version.toList := by
    simp
  rw [name?, htext, nameFrom_append hne hversion, isModuleId, name?]
  cases nameFrom false name.toList with
  | none =>
      simp
  | some read =>
      rfl

/-- The versions of a name that is no id are the ids with that name. -/
theorem versionOf_iff_name?
    (hid : isModuleId name = false) :
    VersionOf name id ↔ name? id = some name := by
  constructor
  · rintro ⟨hne, version, hversion, rfl⟩
    rw [name?_append hne hversion, hid, if_neg Bool.false_ne_true]
  · exact fun h => (name?_eq_some_iff.1 h).1

end Texts

end Catalog
end SidecarProxy
