import SidecarProxy.ModuleCache.Slots
import Mathlib.Data.List.Nodup

/-!
# Room for a slot

A key without a fresh slot gets a new one.  If it had none at all, room is made
for it when the cache is full.  Main statements: the slot that a call takes and
the slots that there are afterwards, and which fresh slots stay when room is
made.
-/

namespace SidecarProxy
namespace ModuleCache

section Lookup

variable {slots : Slots} {key : String} {s : Slot}

theorem find?_eq_none_iff
    (slots : Slots) (key : String) :
    slots.find? key = none ↔ key ∉ slots.map Slot.key := by
  simp [Slots.find?]

theorem find?_eq_some
    (h : slots.find? key = some s) :
    s ∈ slots ∧ s.key = key :=
  ⟨List.mem_of_find?_eq_some h, by simpa using List.find?_some h⟩

theorem find?_eq_some_iff
    (hnodup : (slots.map Slot.key).Nodup) :
    slots.find? key = some s ↔ s ∈ slots ∧ s.key = key := by
  refine ⟨find?_eq_some, ?_⟩
  rintro ⟨hs, rfl⟩
  cases hfind : slots.find? s.key with
  | none =>
      exact absurd (List.mem_map_of_mem hs) ((find?_eq_none_iff slots s.key).1 hfind)
  | some t =>
      obtain ⟨ht, hkey⟩ := find?_eq_some hfind
      rw [List.inj_on_of_nodup_map hnodup ht hs hkey]

end Lookup

section Oldest

variable {slots : Slots} {s : Slot}

theorem mem_of_oldest?
    (h : Slots.oldest? slots = some s) :
    s ∈ slots := by
  induction slots generalizing s with
  | nil =>
      cases h
  | cons t slots ih =>
      rw [Slots.oldest?] at h
      cases hrest : Slots.oldest? slots with
      | none =>
          rw [hrest] at h
          cases h
          exact List.mem_cons_self
      | some u =>
          rw [hrest] at h
          dsimp only at h
          split at h
          · cases h
            exact List.mem_cons_self
          · cases h
            exact List.mem_cons_of_mem _ (ih hrest)

theorem oldest?_cons
    (h : ∀ t ∈ slots, s.created ≤ t.created) :
    Slots.oldest? (s :: slots) = some s := by
  rw [Slots.oldest?]
  cases hrest : Slots.oldest? slots with
  | none =>
      rfl
  | some t =>
      exact if_pos (h t (mem_of_oldest? hrest))

theorem exists_oldest?
    (h : slots ≠ []) :
    ∃ s, Slots.oldest? slots = some s := by
  cases slots with
  | nil =>
      exact absurd rfl h
  | cons t slots =>
      rw [Slots.oldest?]
      split
      · exact ⟨t, rfl⟩
      · split <;> exact ⟨_, rfl⟩

/-- No slot is older than the oldest one. -/
theorem created_le_of_oldest?
    (h : Slots.oldest? slots = some s) :
    ∀ t ∈ slots, s.created ≤ t.created := by
  induction slots generalizing s with
  | nil =>
      cases h
  | cons u slots ih =>
      rw [Slots.oldest?] at h
      cases hrest : Slots.oldest? slots with
      | none =>
          have hnil : slots = [] := by
            by_contra hne
            obtain ⟨t, ht⟩ := exists_oldest? hne
            rw [ht] at hrest
            cases hrest
          rw [hrest] at h
          cases h
          simp [hnil]
      | some v =>
          have hv := ih hrest
          rw [hrest] at h
          dsimp only at h
          split at h
          · next hle =>
              cases h
              refine List.forall_mem_cons.2 ⟨Nat.le_refl _, fun t ht => ?_⟩
              exact Nat.le_trans hle (hv t ht)
          · next hlt =>
              cases h
              exact List.forall_mem_cons.2 ⟨Nat.le_of_lt (Nat.not_le.1 hlt), hv⟩

theorem dropOldest_sublist
    (n : Nat) (slots : Slots) :
    (Slots.dropOldest n slots).Sublist slots := by
  induction n generalizing slots with
  | zero =>
      exact .refl slots
  | succ n ih =>
      rw [Slots.dropOldest]
      split
      · exact .refl slots
      · exact (ih _).trans List.erase_sublist

theorem length_dropOldest
    (n : Nat) (slots : Slots) :
    (Slots.dropOldest n slots).length = slots.length - n := by
  induction n generalizing slots with
  | zero =>
      rfl
  | succ n ih =>
      rw [Slots.dropOldest]
      split
      · next hnone =>
          by_cases hslots : slots = []
          · simp [hslots]
          · obtain ⟨s, hs⟩ := exists_oldest? hslots
            rw [hs] at hnone
            cases hnone
      · next s hs =>
          rw [ih, List.length_erase_of_mem (mem_of_oldest? hs)]
          omega

end Oldest

section Room

variable {l : Limits} {now : Nat} {slots : Slots}

/-- The slots that stay when a key without a slot comes in. -/
def Slots.room (l : Limits) (now : Nat) (slots : Slots) : Slots :=
  if l.capacity ≤ slots.length then slots.evict l now else slots

theorem room_sublist
    (l : Limits) (now : Nat) (slots : Slots) :
    (slots.room l now).Sublist slots := by
  unfold Slots.room
  split
  · exact (dropOldest_sublist _ _).trans List.filter_sublist
  · exact .refl slots

theorem room_of_lt
    (now : Nat)
    (h : slots.length < l.capacity) :
    slots.room l now = slots :=
  if_neg (by omega)

theorem length_room_lt
    (now : Nat) (slots : Slots)
    (h : 0 < l.capacity) :
    (slots.room l now).length < l.capacity := by
  unfold Slots.room
  split
  · rw [Slots.evict, length_dropOldest]
    omega
  · omega

/-- A fresh slot stays unless the cache is full of fresh slots and it is the oldest one. -/
theorem mem_room_iff
    {s : Slot}
    (hnodup : (slots.map Slot.key).Nodup)
    (hcapacity : slots.length ≤ l.capacity)
    (hs : s ∈ slots)
    (hfresh : s.isFresh l now = true) :
    s ∈ slots.room l now ↔
      slots.length < l.capacity ∨ (∃ t ∈ slots, t.isFresh l now = false) ∨
        Slots.oldest? slots ≠ some s := by
  by_cases hlt : slots.length < l.capacity
  · simp [room_of_lt now hlt, hs, hlt]
  rw [Slots.room, if_pos (Nat.not_lt.1 hlt), Slots.evict]
  by_cases hexpired : ∃ t ∈ slots, t.isFresh l now = false
  · -- The expired slot alone makes enough room.
    have hfewer : (slots.filter (·.isFresh l now)).length < slots.length := by
      rw [List.length_filter_lt_length_iff_exists]
      simpa using hexpired
    have hzero : (slots.filter (·.isFresh l now)).length + 1 - l.capacity = 0 := by
      omega
    rw [hzero, Slots.dropOldest]
    simp [hs, hfresh, hexpired]
  · have hall : ∀ t ∈ slots, t.isFresh l now = true := by
      simpa using hexpired
    have hone : slots.length + 1 - l.capacity = 1 := by
      omega
    obtain ⟨t, ht⟩ := exists_oldest? (List.ne_nil_of_mem hs)
    have hdrop : Slots.dropOldest 1 slots = slots.erase t := by
      simp only [Slots.dropOldest, ht]
    rw [List.filter_eq_self.2 hall, hone, hdrop, (List.Nodup.of_map _ hnodup).mem_erase_iff, ht]
    simp only [hs, hlt, hexpired, and_true, false_or, ne_eq, Option.some.injEq]
    exact not_congr eq_comm

end Room

section SlotFor

variable {l : Limits} {now newCell : Nat} {key : String} {slots : Slots} {slot : Slot}

theorem slotFor_of_absent
    (l : Limits) (now newCell : Nat)
    (habsent : slots.find? key = none) :
    slots.slotFor l now newCell key =
      (⟨key, now, newCell⟩, slots.room l now ++ [⟨key, now, newCell⟩]) := by
  simp only [Slots.slotFor, habsent, Slots.room]

theorem slotFor_of_fresh
    (newCell : Nat)
    (hfind : slots.find? key = some slot)
    (hfresh : slot.isFresh l now = true) :
    slots.slotFor l now newCell key = (slot, slots) := by
  simp only [Slots.slotFor, hfind, hfresh, if_true]

theorem map_key_replace
    (slot : Slot) (slots : Slots) :
    (slots.replace slot).map Slot.key = slots.map Slot.key := by
  rw [Slots.replace, List.map_map]
  refine List.map_congr_left ?_
  intro s hs
  dsimp only [Function.comp]
  split
  · next hkey => exact hkey.symm
  · rfl

/-- A call finds no slot of its key, or a fresh one, or an expired one. -/
theorem slotFor_cases
    (l : Limits) (now newCell : Nat) (key : String) (slots : Slots) :
    (slots.find? key = none ∧
      slots.slotFor l now newCell key =
        (⟨key, now, newCell⟩, slots.room l now ++ [⟨key, now, newCell⟩])) ∨
    (∃ slot, slots.find? key = some slot ∧ slot.isFresh l now = true ∧
      slots.slotFor l now newCell key = (slot, slots)) ∨
    (∃ slot, slots.find? key = some slot ∧ slot.isFresh l now = false ∧
      slots.slotFor l now newCell key =
        (⟨key, now, newCell⟩, slots.replace ⟨key, now, newCell⟩)) := by
  cases hfind : slots.find? key with
  | none =>
      exact Or.inl ⟨rfl, slotFor_of_absent l now newCell hfind⟩
  | some slot =>
      cases hfresh : slot.isFresh l now with
      | true =>
          exact Or.inr (Or.inl ⟨slot, rfl, hfresh, slotFor_of_fresh newCell hfind hfresh⟩)
      | false =>
          refine Or.inr (Or.inr ⟨slot, rfl, hfresh, ?_⟩)
          simp [Slots.slotFor, hfind, hfresh]

theorem slotFor_fst
    (l : Limits) (now newCell : Nat) (key : String) (slots : Slots) :
    (slots.slotFor l now newCell key).1 ∈ slots ∨
      (slots.slotFor l now newCell key).1 = ⟨key, now, newCell⟩ := by
  rcases slotFor_cases l now newCell key slots with
    ⟨-, hmade⟩ | ⟨slot, hfind, -, hmade⟩ | ⟨slot, -, -, hmade⟩
  · exact Or.inr (congrArg Prod.fst hmade)
  · rw [hmade]
    exact Or.inl (find?_eq_some hfind).1
  · exact Or.inr (congrArg Prod.fst hmade)

theorem mem_slotFor_snd
    {s : Slot}
    (h : s ∈ (slots.slotFor l now newCell key).2) :
    s ∈ slots ∨ s = (slots.slotFor l now newCell key).1 := by
  rcases slotFor_cases l now newCell key slots with
    ⟨-, hmade⟩ | ⟨slot, -, -, hmade⟩ | ⟨slot, -, -, hmade⟩ <;>
    rw [hmade] at h ⊢
  · rcases List.mem_append.1 h with h | h
    · exact Or.inl ((room_sublist l now slots).subset h)
    · exact Or.inr (List.mem_singleton.1 h)
  · exact Or.inl h
  · obtain ⟨t, ht, rfl⟩ := List.mem_map.1 h
    split
    · exact Or.inr rfl
    · exact Or.inl ht

end SlotFor

section Bounds

variable {l : Limits} {slots : Slots}

/-- What holds of the slots of every cache: keys are distinct, and the bound is kept. -/
structure Bounded (l : Limits) (slots : Slots) : Prop where
  nodup : (slots.map Slot.key).Nodup
  length_le : slots.length ≤ l.capacity
  capacity_pos : 0 < l.capacity

theorem Bounded.room
    (h : Bounded l slots)
    (now newCell : Nat)
    {key : String}
    (habsent : slots.find? key = none) :
    Bounded l (slots.room l now ++ [⟨key, now, newCell⟩]) where
  nodup := by
    have hsub := (room_sublist l now slots).map Slot.key
    rw [List.map_append, List.map_singleton, List.nodup_append_comm]
    refine List.nodup_cons.2 ⟨?_, h.nodup.sublist hsub⟩
    exact fun hmem => (find?_eq_none_iff slots key).1 habsent (hsub.subset hmem)
  length_le := by
    rw [List.length_append, List.length_singleton]
    exact length_room_lt now slots h.capacity_pos
  capacity_pos := h.capacity_pos

theorem Bounded.slotFor
    (h : Bounded l slots)
    (now newCell : Nat) (key : String) :
    Bounded l (slots.slotFor l now newCell key).2 := by
  rcases slotFor_cases l now newCell key slots with
    ⟨hfind, hmade⟩ | ⟨slot, -, -, hmade⟩ | ⟨slot, -, -, hmade⟩ <;>
    rw [hmade]
  · exact h.room now newCell hfind
  · exact h
  · refine ⟨?_, ?_, h.capacity_pos⟩
    · rw [map_key_replace]
      exact h.nodup
    · rw [Slots.replace, List.length_map]
      exact h.length_le

theorem Bounded.remove
    (h : Bounded l slots)
    (key : String) :
    Bounded l (slots.remove key) where
  nodup := h.nodup.sublist (List.filter_sublist.map Slot.key)
  length_le := Nat.le_trans (List.length_filter_le _ slots) h.length_le
  capacity_pos := h.capacity_pos

end Bounds

end ModuleCache
end SidecarProxy
