import SidecarProxy.Text.Fields

/-!
# Text cut at separators

The fields of text that is put together around a separator.  Main statements: a
separator between two texts cuts them apart and adds no field of its own, text
is its own only field exactly when it holds no separator, and no field holds one.
So fields are those of text exactly when they make it up around separators.
-/

namespace SidecarProxy
namespace Text

section Fields

variable {cuts : Char → Bool}

/-- A separator ends the fields in front of it and begins the fields behind it. -/
theorem fieldsWhere_append
    {separator : Char}
    (hcuts : cuts separator = true)
    (front back : List Char) :
    fieldsWhere cuts (front ++ separator :: back) =
      fieldsWhere cuts front ++ fieldsWhere cuts back := by
  induction front with
  | nil =>
      simp [fieldsWhere, hcuts]
  | cons c front ih =>
      by_cases hc : cuts c = true
      · simp [fieldsWhere, hc, ih]
      · obtain ⟨field, more, hfront⟩ := List.exists_cons_of_ne_nil (fieldsWhere_ne_nil cuts front)
        rw [hfront, List.cons_append] at ih
        rw [List.cons_append, fieldsWhere, if_neg hc, ih, fieldsWhere, if_neg hc, hfront]
        rfl

theorem fieldsWhere_eq_singleton
    {cs : List Char}
    (hcs : ∀ c ∈ cs, cuts c = false) :
    fieldsWhere cuts cs = [cs] := by
  induction cs with
  | nil =>
      rfl
  | cons c cs ih =>
      have hc : ¬cuts c = true := Bool.not_eq_true _ ▸ hcs c List.mem_cons_self
      rw [fieldsWhere, if_neg hc, ih fun d hd => hcs d (List.mem_cons_of_mem _ hd)]

/-- A field holds no separator. -/
theorem not_cuts_of_mem_fieldsWhere
    {cs field : List Char}
    (hfield : field ∈ fieldsWhere cuts cs) :
    ∀ c ∈ field, cuts c = false := by
  induction cs generalizing field with
  | nil =>
      rw [List.mem_singleton.1 hfield]
      exact List.forall_mem_nil _
  | cons d cs ih =>
      by_cases hd : cuts d = true
      · rw [fieldsWhere, if_pos hd] at hfield
        rcases List.mem_cons.1 hfield with rfl | hrest
        · exact List.forall_mem_nil _
        · exact ih hrest
      · obtain ⟨first, more, hcs⟩ := List.exists_cons_of_ne_nil (fieldsWhere_ne_nil cuts cs)
        rw [fieldsWhere, if_neg hd, hcs] at hfield
        rw [hcs] at ih
        rcases List.mem_cons.1 hfield with rfl | hrest
        · exact List.forall_mem_cons.2 ⟨Bool.eq_false_iff.2 hd, ih List.mem_cons_self⟩
        · exact ih (List.mem_cons_of_mem _ hrest)

end Fields

section Joined

variable (separator : Char)

theorem fieldsWhere_eq_splitOnP
    (cuts : Char → Bool) (cs : List Char) :
    fieldsWhere cuts cs = cs.splitOnP cuts := by
  induction cs with
  | nil =>
      rfl
  | cons c cs ih =>
      rw [fieldsWhere, List.splitOnP_cons_eq_if_modifyHead, ← ih]
      obtain ⟨field, more, hcs⟩ := List.exists_cons_of_ne_nil (fieldsWhere_ne_nil cuts cs)
      rw [hcs]
      rfl

/-- Text is made up of its fields around separators. -/
theorem intercalate_fields
    (cs : List Char) :
    [separator].intercalate (fields separator cs) = cs := by
  rw [fields, fieldsWhere_eq_splitOnP]
  exact List.intercalate_splitOn separator

theorem fields_inj
    {cs ds : List Char}
    (h : fields separator cs = fields separator ds) :
    cs = ds := by
  rw [← intercalate_fields separator cs, h, intercalate_fields]

theorem notMem_of_mem_fields
    {cs field : List Char}
    (hfield : field ∈ fields separator cs) :
    separator ∉ field := by
  intro hmem
  have hno := not_cuts_of_mem_fieldsWhere hfield separator hmem
  rw [beq_self_eq_true] at hno
  cases hno

theorem fields_eq_iff
    {cs : List Char} {parts : List (List Char)}
    (hparts : parts ≠ []) :
    fields separator cs = parts
      ↔
    cs = [separator].intercalate parts ∧ ∀ part ∈ parts, separator ∉ part := by
  constructor
  · rintro rfl
    exact ⟨(intercalate_fields separator cs).symm, fun _ => notMem_of_mem_fields separator⟩
  · rintro ⟨rfl, hno⟩
    rw [fields, fieldsWhere_eq_splitOnP]
    exact List.splitOn_intercalate separator hno hparts

theorem fields_append
    (front back : List Char) :
    fields separator (front ++ separator :: back) =
      fields separator front ++ fields separator back := by
  refine fieldsWhere_append ?_ front back
  exact beq_self_eq_true separator

/-- The fields of one text begin those of another one when it ends at a separator in there. -/
theorem fields_prefix_iff
    (front cs : List Char) :
    fields separator front <+: fields separator cs
      ↔
    cs = front ∨ ∃ back, cs = front ++ separator :: back := by
  constructor
  · rintro ⟨more, hmore⟩
    by_cases hnil : more = []
    · rw [hnil, List.append_nil] at hmore
      exact .inl (fields_inj separator hmore).symm
    · have hno : ∀ part ∈ more, separator ∉ part := by
        intro part hpart
        have hfield := List.mem_append_right (fields separator front) hpart
        rw [hmore] at hfield
        exact notMem_of_mem_fields separator hfield
      have hback := (fields_eq_iff separator hnil).2 ⟨rfl, hno⟩
      rw [← hback, ← fields_append] at hmore
      exact .inr ⟨_, (fields_inj separator hmore).symm⟩
  · rintro (rfl | ⟨back, rfl⟩)
    · exact List.prefix_refl _
    · rw [fields_append]
      exact List.prefix_append _ _

end Joined

section Split

variable (separator : Char)

theorem split_ne_nil
    (s : String) :
    split separator s ≠ [] := by
  rw [split, ne_eq, List.map_eq_nil_iff]
  exact fieldsWhere_ne_nil _ _

/-- Text around a separator has the fields of both sides. -/
theorem split_append
    (front back : String) :
    split separator (front ++ String.singleton separator ++ back) =
      split separator front ++ split separator back := by
  have htext :
      (front ++ String.singleton separator ++ back).toList =
        front.toList ++ separator :: back.toList := by
    simp
  rw [split, htext, fields_append, List.map_append]
  rfl

theorem split_eq_singleton
    {s : String}
    (hs : separator ∉ s.toList) :
    split separator s = [s] := by
  have hcuts : ∀ c ∈ s.toList, (c == separator) = false := by
    intro c hc
    rw [beq_eq_false_iff_ne]
    rintro rfl
    exact hs hc
  rw [split, fields, fieldsWhere_eq_singleton hcuts, List.map_singleton, String.ofList_toList]

theorem notMem_of_mem_split
    {s field : String}
    (hfield : field ∈ split separator s) :
    separator ∉ field.toList := by
  obtain ⟨cs, hcs, rfl⟩ := List.mem_map.1 hfield
  rw [String.toList_ofList]
  exact notMem_of_mem_fields separator hcs

end Split

end Text
end SidecarProxy
