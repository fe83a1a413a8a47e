import Mathlib.Data.List.Nodup
import Mathlib.Logic.Relation
import SidecarProxy.Json.Record

/-!
# Rewriting records

One and the same record can be written as many objects: the members may stand in
any order, those at their default may be left out, others that the record does
not have may be put in, and the same holds inside of the members.  Main statement:
none of these changes makes a difference to whoever reads the members.
-/

namespace SidecarProxy
namespace Json
namespace Record

open Relation

section Changes

/-- The shape of a member of a record. -/
structure MemberShape where
  name : String
  /-- What is written for the default. -/
  default : Value
  /-- A change inside of what is written. -/
  Within : Value → Value → Prop

/-- A value that is written for the default of a member, or a rewriting of it. -/
def MemberShape.IsDefault (m : MemberShape) (v : Value) : Prop :=
  ReflTransGen m.Within m.default v

/-- A change of the object that a record is written as. -/
inductive Change (record : List MemberShape) : Value → Value → Prop
  | permute
      {ms ms' : List (Option String × Value)}
      (h : ms.Perm ms') :
      Change record (.object ms) (.object ms')
  | drop
      {m : MemberShape} {v : Value}
      (hm : m ∈ record)
      (hv : m.IsDefault v)
      (before after : List (Option String × Value)) :
      Change record (.object (before ++ (some m.name, v) :: after)) (.object (before ++ after))
  | add
      {name : String}
      (hname : name ∉ record.map (·.name))
      (v : Value)
      (before after : List (Option String × Value)) :
      Change record (.object (before ++ after)) (.object (before ++ (some name, v) :: after))
  | within
      {m : MemberShape} {v v' : Value}
      (hm : m ∈ record)
      (h : m.Within v v')
      (before after : List (Option String × Value)) :
      Change record (.object (before ++ (some m.name, v) :: after))
        (.object (before ++ (some m.name, v') :: after))

/-- A change of one item of an array. -/
inductive InItems (Within : Value → Value → Prop) : Value → Value → Prop
  | item
      {v v' : Value}
      (h : Within v v')
      (before after : List Value) :
      InItems Within (.array (before ++ v :: after)) (.array (before ++ v' :: after))

end Changes

section Found

variable {names : List String} {ms ms' before after : List (Option String × Value)}

/-- What is written under a name. -/
def valuesUnder (ms : List (Option String × Value)) (name : String) : List Value :=
  (ms.filter (·.1 == some name)).map (·.2)

theorem valuesUnder_append
    (before after : List (Option String × Value)) (name : String) :
    valuesUnder (before ++ after) name = valuesUnder before name ++ valuesUnder after name := by
  simp [valuesUnder]

theorem valuesUnder_cons_self
    (name : String) (v : Value) (after : List (Option String × Value)) :
    valuesUnder ((some name, v) :: after) name = v :: valuesUnder after name := by
  simp [valuesUnder]

theorem valuesUnder_cons_of_ne
    {name other : String}
    (h : other ≠ name)
    (v : Value) (after : List (Option String × Value)) :
    valuesUnder ((some other, v) :: after) name = valuesUnder after name := by
  simp [valuesUnder, h]

theorem lookup_eq_head?
    (ms : List (Option String × Value)) (name : String) :
    ms.lookup (some name) = (valuesUnder ms name).head? := by
  induction ms with
  | nil =>
      rfl
  | cons x ms ih =>
      obtain ⟨key, v⟩ := x
      by_cases hkey : key = some name
      · subst hkey
        simp [valuesUnder]
      · have hne : (some name == key) = false := beq_eq_false_iff_ne.2 (Ne.symm hkey)
        have hne' : (key == some name) = false := beq_eq_false_iff_ne.2 hkey
        rw [List.lookup_cons, hne]
        simpa [valuesUnder, hne'] using ih

/-- Every member has a name, and none of the known names occurs twice. -/
structure Proper (names : List String) (ms : List (Option String × Value)) : Prop where
  named : ∀ m ∈ ms, m.1 ≠ none
  once : ∀ name ∈ names, (valuesUnder ms name).length ≤ 1

theorem ofObject_eq_some_iff
    {found : Members} :
    ofObject names ms = some found
      ↔
    Proper names ms ∧ found = fun name => (valuesUnder ms name).head? := by
  have hproper : Proper names ms ↔
      ¬(ms.any (·.1.isNone) || names.any fun n => (ms.filter (·.1 == some n)).length > 1) := by
    constructor
    · rintro ⟨hnamed, honce⟩
      simp only [Bool.or_eq_true, List.any_eq_true, Option.isNone_iff_eq_none, decide_eq_true_eq,
        not_or, not_exists, not_and]
      refine ⟨fun m hm => hnamed m hm, fun name hname => ?_⟩
      have hone := honce name hname
      rw [valuesUnder, List.length_map] at hone
      omega
    · intro h
      simp only [Bool.or_eq_true, List.any_eq_true, Option.isNone_iff_eq_none, decide_eq_true_eq,
        not_or, not_exists, not_and] at h
      refine ⟨fun m hm => h.1 m hm, fun name hname => ?_⟩
      have hone := h.2 name hname
      rw [valuesUnder, List.length_map]
      omega
  unfold ofObject
  split
  · next hnot =>
      simp [hproper, hnot]
  · next hyes =>
      simp only [hproper.2 hyes, true_and, Option.some.injEq, eq_comm (a := found)]
      simp only [lookup_eq_head?]

end Found

section Follows

variable {record : List MemberShape} {ms ms' : List (Option String × Value)}

/-- What may be found under the name of a member behind a change. -/
inductive MemberShape.Follows (m : MemberShape) : List Value → List Value → Prop
  | same (vs : List Value) : m.Follows vs vs
  | dropped {v : Value} (hv : m.IsDefault v) : m.Follows [v] []
  | within {v v' : Value} (h : m.Within v v') : m.Follows [v] [v']

theorem MemberShape.Follows.length_le
    {m : MemberShape} {vs vs' : List Value}
    (h : m.Follows vs vs')
    (hle : vs.length ≤ 1) :
    vs'.length ≤ 1 := by
  cases h with
  | same _ => exact hle
  | dropped _ => exact Nat.zero_le _
  | within _ => exact Nat.le_refl _

theorem eq_of_name_eq
    (hnames : (record.map (·.name)).Nodup)
    {m other : MemberShape}
    (hm : m ∈ record)
    (hother : other ∈ record)
    (h : m.name = other.name) :
    m = other :=
  List.inj_on_of_nodup_map hnames hm hother h

/-- Around a value that occurs once, no other value is written under its name. -/
theorem valuesUnder_around
    {name : String} {v : Value} {before after : List (Option String × Value)}
    (honce : (valuesUnder (before ++ (some name, v) :: after) name).length ≤ 1) :
    valuesUnder before name = [] ∧ valuesUnder after name = [] := by
  rw [valuesUnder_append, valuesUnder_cons_self, List.length_append, List.length_cons] at honce
  exact ⟨List.length_eq_zero_iff.1 (by omega), List.length_eq_zero_iff.1 (by omega)⟩

theorem Change.follows
    (hnames : (record.map (·.name)).Nodup)
    (hproper : Proper (record.map (·.name)) ms)
    (h : Change record (.object ms) (.object ms')) :
    (∀ m ∈ ms', m.1 ≠ none) ∧
      ∀ m ∈ record, m.Follows (valuesUnder ms m.name) (valuesUnder ms' m.name) := by
  cases h with
  | permute h =>
      refine ⟨fun m hm => hproper.named m (h.mem_iff.2 hm), fun m hm => ?_⟩
      have hperm : (valuesUnder ms m.name).Perm (valuesUnder ms' m.name) := (h.filter _).map _
      have honce := hproper.once m.name (List.mem_map_of_mem hm)
      have hsame : valuesUnder ms' m.name = valuesUnder ms m.name := by
        match hvalues : valuesUnder ms m.name, honce with
        | [], _ => exact List.Perm.eq_nil (hvalues ▸ hperm).symm
        | [v], _ => exact List.perm_singleton.1 (hvalues ▸ hperm).symm
      rw [hsame]
      exact .same _
  | @drop dropped v hdropped hv before after =>
      refine ⟨fun m hm => hproper.named m (by simp at hm ⊢; tauto), fun m hm => ?_⟩
      rw [valuesUnder_append before after]
      by_cases hname : dropped.name = m.name
      · obtain rfl := eq_of_name_eq hnames hdropped hm hname
        have honce := hproper.once dropped.name (List.mem_map_of_mem hm)
        obtain ⟨hbefore, hafter⟩ := valuesUnder_around honce
        rw [valuesUnder_append, valuesUnder_cons_self, hbefore, hafter]
        exact .dropped hv
      · rw [valuesUnder_append, valuesUnder_cons_of_ne hname]
        exact .same _
  | @add name hname v before after =>
      refine ⟨?_, fun m hm => ?_⟩
      · intro m hm
        simp only [List.mem_append, List.mem_cons] at hm
        rcases hm with hm | rfl | hm
        · exact hproper.named m (by simp [hm])
        · exact Option.some_ne_none name
        · exact hproper.named m (by simp [hm])
      · have hne : name ≠ m.name := by
          rintro rfl
          exact hname (List.mem_map_of_mem hm)
        rw [valuesUnder_append, valuesUnder_append, valuesUnder_cons_of_ne hne]
        exact .same _
  | @within changed v v' hchanged h before after =>
      refine ⟨?_, fun m hm => ?_⟩
      · intro m hm
        simp only [List.mem_append, List.mem_cons] at hm
        rcases hm with hm | rfl | hm
        · exact hproper.named m (by simp [hm])
        · exact Option.some_ne_none changed.name
        · exact hproper.named m (by simp [hm])
      · rw [valuesUnder_append, valuesUnder_append]
        by_cases hname : changed.name = m.name
        · obtain rfl := eq_of_name_eq hnames hchanged hm hname
          have honce := hproper.once changed.name (List.mem_map_of_mem hm)
          obtain ⟨hbefore, hafter⟩ := valuesUnder_around honce
          rw [valuesUnder_cons_self, valuesUnder_cons_self, hbefore, hafter]
          exact .within h
        · rw [valuesUnder_cons_of_ne hname, valuesUnder_cons_of_ne hname]
          exact .same _

end Follows

section Reading

variable {α : Type} {record : List MemberShape} {read : Value → Option α} {default : α}

/-- A reader of a member reads the default, and does not notice changes inside of the value. -/
structure MemberShape.ReadBy (m : MemberShape) (read : Value → Option α) (default : α) :
    Prop where
  default : read m.default = some default
  within : ∀ {v v' a}, m.Within v v' → read v = some a → read v' = some a

theorem MemberShape.ReadBy.isDefault
    {m : MemberShape}
    (h : m.ReadBy read default)
    {v : Value}
    (hv : m.IsDefault v) :
    read v = some default := by
  induction hv with
  | refl =>
      exact h.default
  | tail _ hwithin ih =>
      exact h.within hwithin ih

/-- Behind a change, a reader finds what was there before. -/
theorem MemberShape.ReadBy.member
    {m : MemberShape}
    (h : m.ReadBy read default)
    {vs vs' : List Value}
    (hfollows : m.Follows vs vs')
    {found found' : Members}
    (hfound : found m.name = vs.head?)
    (hfound' : found' m.name = vs'.head?)
    {a : α}
    (hread : Record.member found m.name read default = some a) :
    Record.member found' m.name read default = some a := by
  unfold Record.member at hread ⊢
  rw [hfound] at hread
  rw [hfound']
  cases hfollows with
  | same vs =>
      exact hread
  | dropped hv =>
      exact (h.isDefault hv).symm.trans hread
  | within hwithin =>
      exact h.within hwithin hread

/-- Whoever reads the members of a record reads the same behind a change. -/
theorem Change.members
    (hnames : (record.map (·.name)).Nodup)
    {v v' : Value}
    (h : Change record v v')
    {surplus : Surplus} {found : Members}
    (hfound : members surplus (record.map (·.name)) v = some found) :
    ∃ found', Record.members surplus (record.map (·.name)) v' = some found' ∧
      ∀ m ∈ record, ∀ {α : Type} {read : Value → Option α} {default a : α},
        m.ReadBy read default →
          member found m.name read default = some a → member found' m.name read default = some a := by
  obtain ⟨ms, ms', rfl, rfl⟩ : ∃ ms ms', v = .object ms ∧ v' = .object ms' := by
    cases h <;> exact ⟨_, _, rfl, rfl⟩
  obtain ⟨hproper, rfl⟩ := ofObject_eq_some_iff.1 hfound
  obtain ⟨hnamed, hfollows⟩ := h.follows hnames hproper
  have honce : ∀ name ∈ record.map (·.name), (valuesUnder ms' name).length ≤ 1 := by
    intro name hname
    obtain ⟨m, hm, rfl⟩ := List.mem_map.1 hname
    exact (hfollows m hm).length_le (hproper.once m.name hname)
  refine ⟨_, ofObject_eq_some_iff.2 ⟨⟨hnamed, honce⟩, rfl⟩, ?_⟩
  intro m hm α read default a hread
  exact hread.member (hfollows m hm) rfl rfl

theorem mapM_append_cons_eq_some
    {before after : List Value} {v : Value} {as : List α} :
    (before ++ v :: after).mapM read = some as
      ↔
    ∃ as₁ a as₂, before.mapM read = some as₁ ∧ read v = some a ∧ after.mapM read = some as₂ ∧
      as = as₁ ++ a :: as₂ := by
  simp only [List.mapM_append, List.mapM_cons, Option.bind_eq_bind, Option.bind_eq_some_iff,
    Option.pure_def, Option.some.injEq]
  constructor
  · rintro ⟨as₁, h₁, _, ⟨a, ha, as₂, h₂, rfl⟩, rfl⟩
    exact ⟨as₁, a, as₂, h₁, ha, h₂, rfl⟩
  · rintro ⟨as₁, a, as₂, h₁, ha, h₂, rfl⟩
    exact ⟨as₁, h₁, _, ⟨a, ha, as₂, h₂, rfl⟩, rfl⟩

/-- Whoever reads the items of an array reads the same behind a change inside of an item. -/
theorem InItems.list
    {Within : Value → Value → Prop} {v v' : Value} {as : List α}
    (hread : ∀ {v v' a}, Within v v' → read v = some a → read v' = some a)
    (h : InItems Within v v')
    (hv : Record.list read v = some as) :
    Record.list read v' = some as := by
  obtain ⟨hwithin, before, after⟩ := h
  obtain ⟨as₁, a, as₂, h₁, ha, h₂, rfl⟩ := mapM_append_cons_eq_some.1 hv
  exact mapM_append_cons_eq_some.2 ⟨as₁, a, as₂, h₁, hread hwithin ha, h₂, rfl⟩

end Reading
end Record
end Json
end SidecarProxy
