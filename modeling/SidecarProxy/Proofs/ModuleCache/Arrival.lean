import SidecarProxy.Proofs.ModuleCache.Room
import SidecarProxy.Proofs.ModuleCache.Steps

/-!
# Calls that come in

A call takes the slot of its key, or makes one with an empty cell of its own.
Slots that were there are affected only by making room.  Main statements: which
slots and cells there are when a call has come in, and, in closed form, the
cache in which the first call for a key has gone on to its fetch.
-/

namespace SidecarProxy
namespace ModuleCache

open Catalog Route

section Entry

variable {c : Cache}

/-- The slot that a call for a key takes. -/
def Cache.slotOf (c : Cache) (key : String) : Slot :=
  (c.slots.slotFor c.limits c.now c.cells.length key).1

theorem enter_of_absent
    {key : String}
    (habsent : c.slots.find? key = none) :
    c.enter key =
      { c with
        slots := c.slots.room c.limits c.now ++ [⟨key, c.now, c.cells.length⟩]
        cells := c.cells ++ [{}]
        calls := c.calls ++ [{ key := key, cell := c.cells.length, since := c.now }] } := by
  simp [Cache.enter, slotFor_of_absent _ _ _ habsent]

theorem calls_enter_eq_some
    {key : String} {n : Nat} {call : Call}
    (h : (c.enter key).calls[n]? = some call) :
    c.calls[n]? = some call ∨ call = { key := key, cell := (c.slotOf key).cell, since := c.now } := by
  change (c.calls ++ [_])[n]? = some call at h
  rw [List.getElem?_append] at h
  split at h
  · exact Or.inl h
  · exact Or.inr (List.mem_singleton.1 (List.mem_of_getElem? h))

theorem calls_enter_of_eq_some
    {n : Nat} {call : Call}
    (key : String)
    (h : c.calls[n]? = some call) :
    (c.enter key).calls[n]? = some call :=
  (List.getElem?_append_left (List.getElem?_eq_some_iff.1 h).1).trans h

theorem mem_slots_enter
    {key : String} {s : Slot}
    (h : s ∈ (c.enter key).slots) :
    s ∈ c.slots ∨ s = c.slotOf key :=
  mem_slotFor_snd h

theorem cells_enter
    (c : Cache) (key : String) :
    (c.enter key).cells =
      if (c.slotOf key).cell = c.cells.length then c.cells ++ [({} : Cell)] else c.cells :=
  rfl

theorem length_cells_le_enter
    (c : Cache) (key : String) :
    c.cells.length ≤ (c.enter key).cells.length := by
  rw [cells_enter]
  split <;> simp

/-- No cell changes when a call comes in: one that is added is empty. -/
theorem cell_enter
    (c : Cache) (key : String) (k : Nat) :
    (c.enter key).cell k = c.cell k := by
  unfold Cache.cell
  rw [cells_enter]
  split
  · rw [List.getD_eq_getElem?_getD, List.getD_eq_getElem?_getD, List.getElem?_append]
    split
    · rfl
    · next hk =>
        rw [List.getElem?_eq_none (Nat.not_lt.1 hk)]
        cases k - c.cells.length <;> rfl
  · rfl

theorem slotOf_cell_lt
    (key : String)
    (hslots : ∀ s ∈ c.slots, s.cell < c.cells.length) :
    (c.slotOf key).cell < (c.enter key).cells.length := by
  rcases slotFor_fst c.limits c.now c.cells.length key c.slots with hslot | hslot
  · exact Nat.lt_of_lt_of_le (hslots _ hslot) (length_cells_le_enter c key)
  · have hcell : (c.slotOf key).cell = c.cells.length := congrArg Slot.cell hslot
    rw [cells_enter, if_pos hcell, hcell]
    simp

theorem bounded_step
    {c' : Cache} {m : Move}
    (h : Bounded c.limits c.slots)
    (hstep : Step c m c') :
    Bounded c'.limits c'.slots := by
  cases hstep with
  | enter key =>
      exact h.slotFor c.now c.cells.length key
  | invalidate key =>
      exact h.remove key
  | _ =>
      exact h

theorem bounded_initial
    {l : Limits}
    (hcapacity : 0 < l.capacity) :
    Bounded l [] where
  nodup := List.nodup_nil
  length_le := Nat.zero_le _
  capacity_pos := hcapacity

theorem bounded_run?
    {l : Limits} {ms : List Move}
    (hcapacity : 0 < l.capacity)
    (hrun : ({ limits := l } : Cache).run? ms = some c) :
    Bounded c.limits c.slots :=
  run?_keeps (P := fun c => Bounded c.limits c.slots)
    (fun _ _ _ _ => bounded_step) (bounded_initial hcapacity) hrun

end Entry

section FirstLoad

variable {c : Cache} {key : String}

/-- The cache in which the first call for a key stands in line at its empty cell. -/
def Cache.queued (c : Cache) (key : String) : Cache :=
  { c with
    slots := c.slots.room c.limits c.now ++ [⟨key, c.now, c.cells.length⟩]
    cells := c.cells ++ [{ line := [c.calls.length] }]
    calls := c.calls ++
      [{ key := key, cell := c.cells.length, since := c.now, phase := .waiting }] }

/-- The cache in which the first call for a key has sent its fetch. -/
def Cache.opened (c : Cache) (key : String) : Cache where
  limits := c.limits
  now := c.now
  slots := c.slots.room c.limits c.now ++ [⟨key, c.now, c.cells.length⟩]
  cells := c.cells ++ [{ loader := some c.calls.length }]
  calls := c.calls ++
    [{ key := key, cell := c.cells.length, since := c.now, phase := .loading c.fetches.length }]
  fetches := c.fetches ++ [{ key := key, call := c.calls.length, since := c.now }]
  events := c.events ++ [Cache.counted .miss]

theorem modify_append_last
    {α : Type} (xs : List α) (x : α) (f : α → α) :
    (xs ++ [x]).modify xs.length f = xs ++ [f x] := by
  induction xs with
  | nil =>
      rfl
  | cons y xs ih =>
      simp [List.modify_succ_cons, ih]

theorem look_of_absent
    (habsent : c.slots.find? key = none) :
    (c.enter key).move? (.look c.calls.length) = some (c.queued key) := by
  simp [enter_of_absent habsent, Cache.move?, Cache.look, Cache.setPhase, Cache.setCell,
    Cache.cell, modify_append_last, Cache.queued]

theorem begin_queued
    (c : Cache) (key : String) :
    (c.queued key).move? (.begin c.calls.length) = some (c.opened key) := by
  simp [Cache.queued, Cache.move?, Cache.load, Cache.setPhase, Cache.setCell, Cache.cell,
    Cache.openFetch, Cache.count, modify_append_last, Cache.opened]

/-- A key without a slot is looked up, and its call goes on to the fetch. -/
theorem run?_of_absent
    (habsent : c.slots.find? key = none) :
    c.run? [.enter key, .look c.calls.length, .begin c.calls.length] = some (c.opened key) := by
  rw [run?_cons, Cache.move?, Option.bind_some, run?_cons, look_of_absent habsent,
    Option.bind_some, run?_cons, begin_queued]
  rfl

end FirstLoad

end ModuleCache
end SidecarProxy
