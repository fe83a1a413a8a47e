import Mathlib.Logic.Relation
import SidecarProxy.Proofs.ModuleCache.Room

/-!
# Eviction by age

Room is made in rounds: as long as the cache is full, a slot goes that is no
younger than any other.  Main statement: a call drops no other slot when its key
has one or when there is room; else all expired slots go, and then fresh ones
from the oldest on, until there is room for one.  Where several slots are equally
old it does not matter which of them goes first.
-/

namespace SidecarProxy
namespace ModuleCache

section Rounds

variable {l : Limits} {slots kept next : Slots}

/-- One round of making room: the cache is full, and a slot goes that no other is older than. -/
inductive Round (l : Limits) : Slots → Slots → Prop
  | drop
      {slots : Slots} {s : Slot}
      (hfull : l.capacity ≤ slots.length)
      (hs : s ∈ slots)
      (holdest : ∀ t ∈ slots, s.created ≤ t.created) :
      Round l slots (slots.erase s)

/-- Rounds that leave room for one slot. -/
structure Rounds (l : Limits) (slots kept : Slots) : Prop where
  made : Relation.ReflTransGen (Round l) slots kept
  done : ∀ next, ¬ Round l kept next

theorem length_of_round
    (h : Round l slots next) :
    next.length + 1 = slots.length := by
  cases h with
  | drop hfull hs holdest =>
      have hpos := List.length_pos_of_mem hs
      rw [List.length_erase_of_mem hs]
      omega

/-- There is no endless sequence of rounds. -/
theorem wellFounded_round
    (l : Limits) :
    WellFounded fun next slots => Round l slots next := by
  refine Subrelation.wf ?_ (measure List.length).wf
  intro next slots h
  have hlength := length_of_round h
  exact show next.length < slots.length by omega

/-- No round is left exactly when there is room. -/
theorem not_round_iff
    (hcapacity : 0 < l.capacity) :
    (∀ next, ¬ Round l kept next) ↔ kept.length < l.capacity := by
  refine ⟨?_, ?_⟩
  · intro hdone
    by_contra hfull
    have hne : kept ≠ [] := List.ne_nil_of_length_pos (by omega)
    obtain ⟨s, hs⟩ := exists_oldest? hne
    exact hdone _ (.drop (Nat.not_lt.1 hfull) (mem_of_oldest? hs) (created_le_of_oldest? hs))
  · intro hroom next hround
    cases hround with
    | drop hfull hs holdest =>
        omega

/-- What rounds leave of the slots that they began with. -/
structure LeftOver (l : Limits) (slots kept : Slots) : Prop where
  sublist : kept.Sublist slots
  /-- Whatever went is no younger than what is left. -/
  by_age : ∀ s ∈ slots, s ∉ kept → ∀ t ∈ kept, s.created ≤ t.created
  /-- Nothing went unless room for one was missing. -/
  needed : kept = slots ∨ l.capacity ≤ kept.length + 1

theorem LeftOver.refl
    (l : Limits) (slots : Slots) :
    LeftOver l slots slots where
  sublist := .refl slots
  by_age _ hs hgone := absurd hs hgone
  needed := .inl rfl

theorem LeftOver.round
    (h : LeftOver l slots kept)
    (hround : Round l kept next) :
    LeftOver l slots next := by
  have hlength := length_of_round hround
  cases hround with
  | @drop dropped hfull hdropped holdest =>
      refine ⟨List.erase_sublist.trans h.sublist, ?_, Or.inr (by omega)⟩
      intro s hs hgone t ht
      by_cases hkept : s ∈ kept
      · -- What was kept so far and is gone now is the slot of this round.
        have hsame : s = dropped := by
          by_contra hne
          exact hgone ((List.mem_erase_of_ne hne).2 hkept)
        rw [hsame]
        exact holdest t (List.mem_of_mem_erase ht)
      · exact h.by_age s hs hkept t (List.mem_of_mem_erase ht)

theorem leftOver_of_rounds
    (h : Relation.ReflTransGen (Round l) slots kept) :
    LeftOver l slots kept := by
  induction h with
  | refl =>
      exact .refl l slots
  | tail _ hround ih =>
      exact ih.round hround

end Rounds

section Evict

variable {l : Limits} {now : Nat} {slots kept : Slots}

/-- Dropping the oldest slots is a number of rounds, as long as the cache is full before each. -/
theorem reflTransGen_dropOldest
    {n : Nat}
    (hfull : n = 0 ∨ n + l.capacity ≤ slots.length + 1) :
    Relation.ReflTransGen (Round l) slots (Slots.dropOldest n slots) := by
  induction n generalizing slots with
  | zero =>
      exact .refl
  | succ n ih =>
      rw [Slots.dropOldest]
      cases holdest : Slots.oldest? slots with
      | none =>
          exact .refl
      | some s =>
          have hs := mem_of_oldest? holdest
          have hround : Round l slots (slots.erase s) :=
            .drop (by omega) hs (created_le_of_oldest? holdest)
          have hlength := length_of_round hround
          exact .head hround (ih (by omega))

/-- The slots that are left by eviction are left by rounds among the fresh ones. -/
theorem rounds_evict
    (now : Nat) (slots : Slots)
    (hcapacity : 0 < l.capacity) :
    Rounds l (slots.filter (·.isFresh l now)) (slots.evict l now) := by
  refine ⟨reflTransGen_dropOldest (by omega), (not_round_iff hcapacity).2 ?_⟩
  rw [Slots.evict, length_dropOldest]
  omega

/-- What is left of the slots when room was made for one. -/
structure RoomMade (l : Limits) (now : Nat) (slots kept : Slots) : Prop where
  mem : ∀ s ∈ kept, s ∈ slots
  expired : ∀ s ∈ slots, s.isFresh l now = false → s ∉ kept
  /-- Fresh slots only go when they alone fill the cache. -/
  spared :
    (slots.filter (·.isFresh l now)).length < l.capacity →
      ∀ s ∈ slots, s.isFresh l now = true → s ∈ kept
  /-- They go until there is room for one slot, and not for more. -/
  exact :
    l.capacity ≤ (slots.filter (·.isFresh l now)).length → kept.length + 1 = l.capacity
  by_age :
    ∀ s ∈ slots, s.isFresh l now = true → s ∉ kept → ∀ t ∈ kept, s.created ≤ t.created

/-- Whichever of the oldest slots goes in each round, room is made in the same way. -/
theorem roomMade_of_rounds
    (hcapacity : 0 < l.capacity)
    (h : Rounds l (slots.filter (·.isFresh l now)) kept) :
    RoomMade l now slots kept := by
  have hleft := leftOver_of_rounds h.made
  have hroom := (not_round_iff hcapacity).1 h.done
  have hmem : ∀ s ∈ kept, s ∈ slots ∧ s.isFresh l now = true :=
    fun s hs => List.mem_filter.1 (hleft.sublist.subset hs)
  refine {
    mem := fun s hs => (hmem s hs).1
    expired := fun s _ hexpired hs => ?_
    spared := fun hfew s hs hfresh => ?_
    exact := fun hmany => ?_
    by_age := fun s hs hfresh => hleft.by_age s (List.mem_filter.2 ⟨hs, hfresh⟩) }
  · rw [(hmem s hs).2] at hexpired
    cases hexpired
  · have hall : kept = slots.filter (·.isFresh l now) := by
      rcases hleft.needed with hsame | hneeded
      · exact hsame
      · exact hleft.sublist.eq_of_length_le (by omega)
    rw [hall]
    exact List.mem_filter.2 ⟨hs, hfresh⟩
  · rcases hleft.needed with hsame | hneeded
    · rw [hsame] at hroom
      omega
    · omega

end Evict

section Main

variable {l : Limits} {now newCell : Nat} {key : String} {slots : Slots}

/-- What looking up a key does to the slots of a cache, and the slot that it is looked up in. -/
structure LooksUp
    (l : Limits) (now : Nat) (key : String) (slots : Slots) (slot : Slot) (after : Slots) :
    Prop where
  /-- A key that has a slot costs no other one, and neither does a key for which there is room. -/
  undisturbed :
    key ∈ slots.map Slot.key ∨ slots.length < l.capacity →
      ∀ s ∈ slots, s.key ≠ key → s ∈ after
  crowded :
    key ∉ slots.map Slot.key → l.capacity ≤ slots.length →
      ∃ kept, Rounds l (slots.filter (·.isFresh l now)) kept ∧ RoomMade l now slots kept ∧
        after = kept ++ [slot]
  others : ∀ s ∈ after, s ∈ slots ∨ s = slot
  found : after.find? key = some slot
  fresh : 0 < l.ttl.nanos → slot.isFresh l now = true

theorem isFresh_new
    (key : String) (now newCell : Nat)
    (httl : 0 < l.ttl.nanos) :
    (⟨key, now, newCell⟩ : Slot).isFresh l now = true := by
  simpa [Slot.isFresh] using httl

theorem looksUp_of_absent
    (now newCell : Nat)
    (hcapacity : 0 < l.capacity)
    (habsent : slots.find? key = none) :
    LooksUp l now key slots ⟨key, now, newCell⟩
      (slots.room l now ++ [⟨key, now, newCell⟩]) := by
  have hkey := (find?_eq_none_iff slots key).1 habsent
  refine {
    undisturbed := fun hcases s hs _ => ?_
    crowded := fun _ hfull => ?_
    others := fun s hs => ?_
    found := ?_
    fresh := isFresh_new key now newCell }
  · rw [room_of_lt now (hcases.resolve_left hkey)]
    exact List.mem_append_left _ hs
  · have hrounds := rounds_evict now slots hcapacity
    refine ⟨_, hrounds, roomMade_of_rounds hcapacity hrounds, ?_⟩
    rw [Slots.room, if_pos hfull]
  · rcases List.mem_append.1 hs with hs | hs
    · exact .inl ((room_sublist l now slots).subset hs)
    · exact .inr (List.mem_singleton.1 hs)
  · have hnone : (slots.room l now).find? key = none := by
      rw [find?_eq_none_iff]
      exact fun hmem => hkey (((room_sublist l now slots).map Slot.key).subset hmem)
    rw [Slots.find?] at hnone ⊢
    simp [List.find?_append, hnone]

theorem looksUp_of_fresh
    {slot : Slot}
    (hfind : slots.find? key = some slot)
    (hfresh : slot.isFresh l now = true) :
    LooksUp l now key slots slot slots where
  undisturbed _ _ hs _ := hs
  crowded hkey := absurd hfind (by simp [(find?_eq_none_iff slots key).2 hkey])
  others _ hs := .inl hs
  found := hfind
  fresh _ := hfresh

/-- A slot that was put in place of another one is found in its stead. -/
theorem find?_replace
    {slot : Slot}
    (new : Slot)
    (hfind : slots.find? new.key = some slot) :
    (slots.replace new).find? new.key = some new := by
  have hsame :
      ((fun s : Slot => s.key == new.key) ∘ fun s => if s.key = new.key then new else s) =
        fun s => s.key == new.key := by
    funext s
    dsimp only [Function.comp]
    split
    · next hkey => rw [hkey]
    · rfl
  have hkey := (find?_eq_some hfind).2
  rw [Slots.find?] at hfind
  rw [Slots.find?, Slots.replace, List.find?_map, hsame, hfind, Option.map_some, if_pos hkey]

theorem looksUp_of_expired
    {slot : Slot}
    (now newCell : Nat)
    (hfind : slots.find? key = some slot) :
    LooksUp l now key slots ⟨key, now, newCell⟩ (slots.replace ⟨key, now, newCell⟩) := by
  refine {
    undisturbed := fun _ s hs hne => ?_
    crowded := fun hkey => absurd hfind (by simp [(find?_eq_none_iff slots key).2 hkey])
    others := fun s hs => ?_
    found := ?_
    fresh := isFresh_new key now newCell }
  · exact List.mem_map.2 ⟨s, hs, if_neg hne⟩
  · obtain ⟨t, ht, rfl⟩ := List.mem_map.1 hs
    split
    · exact .inr rfl
    · exact .inl ht
  · exact find?_replace ⟨key, now, newCell⟩ hfind

/--
Looking up a key drops other slots only when the key has none and the cache is
full.  Then rounds make room, which come to an end: all expired slots go, and
fresh ones, the oldest first, as far as room for one slot takes it.
-/
theorem slotFor_looksUp
    (now newCell : Nat) (key : String) (slots : Slots)
    (hcapacity : 0 < l.capacity) :
    (WellFounded fun next slots => Round l slots next) ∧
      (∀ kept, Rounds l (slots.filter (·.isFresh l now)) kept → RoomMade l now slots kept) ∧
      LooksUp l now key slots (slots.slotFor l now newCell key).1
        (slots.slotFor l now newCell key).2 := by
  refine ⟨wellFounded_round l, fun _ => roomMade_of_rounds hcapacity, ?_⟩
  rcases slotFor_cases l now newCell key slots with
    ⟨hfind, hmade⟩ | ⟨slot, hfind, hfresh, hmade⟩ | ⟨slot, hfind, -, hmade⟩ <;>
    rw [hmade]
  · exact looksUp_of_absent now newCell hcapacity hfind
  · exact looksUp_of_fresh hfind hfresh
  · exact looksUp_of_expired now newCell hfind

/-- The slots of a full cache for three modules, all of them fresh and the first two equally old. -/
def fullSlots : Slots :=
  [⟨"mod-a-1.0.0", 5, 0⟩, ⟨"mod-b-1.0.0", 5, 1⟩, ⟨"mod-c-1.0.0", 9, 2⟩]

/-- One of the two oldest slots goes, and both other slots stay. -/
theorem slotFor_looksUp_fullSlots :
    0 < (⟨3, ⟨10⟩⟩ : Limits).capacity ∧
      fullSlots.slotFor ⟨3, ⟨10⟩⟩ 12 3 "mod-d-1.0.0" =
        (⟨"mod-d-1.0.0", 12, 3⟩,
          [⟨"mod-b-1.0.0", 5, 1⟩, ⟨"mod-c-1.0.0", 9, 2⟩, ⟨"mod-d-1.0.0", 12, 3⟩]) ∧
      LooksUp ⟨3, ⟨10⟩⟩ 12 "mod-d-1.0.0" fullSlots ⟨"mod-d-1.0.0", 12, 3⟩
        [⟨"mod-b-1.0.0", 5, 1⟩, ⟨"mod-c-1.0.0", 9, 2⟩, ⟨"mod-d-1.0.0", 12, 3⟩] :=
  ⟨by decide, by decide, (slotFor_looksUp 12 3 "mod-d-1.0.0" fullSlots (by decide)).2.2⟩

end Main

end ModuleCache
end SidecarProxy
