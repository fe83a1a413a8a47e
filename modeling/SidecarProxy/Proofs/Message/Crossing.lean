import SidecarProxy.Message.Boundary

/-!
# What crosses the proxy

The values of one name in a header whose fields are filtered or replaced.  Main
statements: a value that is put in place is the only one of its name and leaves
the other names as they are, and a field crosses with all its values in their
order or with none of them.
-/

namespace SidecarProxy
namespace Message

open Text

section Values

/-- A filter on names keeps all the values of a name or none. -/
theorem valuesOf_filter
    (hs : Headers) (passes : String → Bool) (name : String) :
    Headers.valuesOf (hs.filter fun f => passes f.1) name =
      if passes name = true then hs.valuesOf name else [] := by
  have hsame : ∀ f : String × String,
      (f.1 == name && passes f.1) = (f.1 == name && passes name) := by
    intro f
    by_cases hname : f.1 = name
    · rw [hname]
    · rw [beq_eq_false_iff_ne.2 hname, Bool.false_and, Bool.false_and]
  simp only [Headers.valuesOf, List.filter_filter, hsame]
  split
  · next hpasses =>
      simp [hpasses]
  · next hstops =>
      simp [hstops]

theorem valuesOf_put_self
    (hs : Headers) (name value : String) :
    (hs.put name value).valuesOf name = [value] := by
  simp [Headers.put, Headers.valuesOf, List.filter_filter]

theorem valuesOf_put_of_ne
    (hs : Headers) {name other : String} (value : String)
    (hne : other ≠ name) :
    (hs.put name value).valuesOf other = hs.valuesOf other := by
  have hold := valuesOf_filter hs (· != name) other
  rw [if_pos (bne_iff_ne.2 hne)] at hold
  rw [← hold]
  simp [Headers.put, Headers.valuesOf, hne.symm]

end Values

section Room

theorem length_eraseDups_le
    (l : List String) :
    l.eraseDups.length ≤ l.length := by
  cases l with
  | nil =>
      simp
  | cons a l =>
      have hrest := length_eraseDups_le (l.filter fun b => !b == a)
      have hfilter := List.length_filter_le (fun b => !b == a) l
      rw [List.eraseDups_cons, List.length_cons, List.length_cons]
      omega
termination_by l.length
decreasing_by
  have hfilter := List.length_filter_le (fun b => !b == a) l
  simp only [List.length_cons]
  omega

/-- There are no more names than fields. -/
theorem length_names_le
    (hs : Headers) :
    hs.names.length ≤ hs.length := by
  have hle := length_eraseDups_le (hs.map (·.1))
  rwa [List.length_map] at hle

theorem length_put_le
    (hs : Headers) (name value : String) :
    (hs.put name value).length ≤ hs.length + 1 := by
  have hfilter := List.length_filter_le (fun f : String × String => f.1 != name) hs
  simp only [Headers.put, List.length_append, List.length_singleton]
  omega

theorem length_crossing_le
    (hs : Headers) (stops : String → Bool) :
    (crossing hs stops).length ≤ hs.length :=
  List.length_filter_le _ _

end Room

section Crossing

/--
Whether a field describes the connection that it came over: it goes from hop to hop,
or some value of `Connection` that can be read as text lists it.
-/
def BoundToConnection (hs : Headers) (name : String) : Prop :=
  name ∈ hopByHopNames ∨
    name ≠ "" ∧
      ∃ value ∈ hs.valuesOf "connection",
        isReadable value = true ∧ ∃ token ∈ split ',' value, lowerAscii (trim token) = name

instance (hs : Headers) (name : String) : Decidable (BoundToConnection hs name) :=
  inferInstanceAs (Decidable (_ ∨ _))

theorem mem_listedNames
    (hs : Headers) (name : String) :
    name ∈ listedNames hs
      ↔
    name ≠ "" ∧
      ∃ value ∈ hs.valuesOf "connection",
        isReadable value = true ∧ ∃ token ∈ split ',' value, lowerAscii (trim token) = name := by
  simp only [listedNames, List.mem_filter, List.mem_map, List.mem_flatMap, bne_iff_ne]
  constructor
  · rintro ⟨⟨token, ⟨value, ⟨hvalue, hreadable⟩, htoken⟩, hname⟩, hne⟩
    exact ⟨hne, value, hvalue, hreadable, token, htoken, hname⟩
  · rintro ⟨hne, value, hvalue, hreadable, token, htoken, hname⟩
    exact ⟨⟨token, ⟨value, ⟨hvalue, hreadable⟩, htoken⟩, hname⟩, hne⟩

theorem boundToConnection_iff
    (hs : Headers) (name : String) :
    BoundToConnection hs name
      ↔
    (isHopByHop name || (listedNames hs).contains name) = true := by
  rw [Bool.or_eq_true, isHopByHop, List.contains_iff_mem, List.contains_iff_mem, mem_listedNames]
  exact Iff.rfl

/-- A field crosses with all its values, unless it is bound to the connection or stopped by name. -/
theorem valuesOf_crossing
    (hs : Headers) (stops : String → Bool) (name : String) :
    (crossing hs stops).valuesOf name =
      if BoundToConnection hs name ∨ stops name = true then [] else hs.valuesOf name := by
  have hpasses :
      (!(isHopByHop name || (listedNames hs).contains name || stops name)) = true
        ↔
      ¬(BoundToConnection hs name ∨ stops name = true) := by
    rw [boundToConnection_iff, ← Bool.or_eq_true, Bool.not_eq_true', Bool.not_eq_true]
  rw [crossing, valuesOf_filter hs
    (fun name => !(isHopByHop name || (listedNames hs).contains name || stops name))]
  by_cases hstops : BoundToConnection hs name ∨ stops name = true
  · rw [if_pos hstops, if_neg fun hall => hpasses.1 hall hstops]
  · rw [if_neg hstops, if_pos (hpasses.2 hstops)]

theorem copied?_eq_some_iff
    {hs out : Headers} {stops : String → Bool} :
    copied? hs stops = some out
      ↔
    hs.length ≤ Headers.mostNames ∧ crossing hs stops = out := by
  unfold copied?
  split
  · next hroom => simp [hroom]
  · next hroom => simp [hroom]

end Crossing

end Message
end SidecarProxy
