import SidecarProxy.Settings.Basic

/-!
# Slots of the module cache

The cache holds a bounded number of slots, one for each module id.  A slot is
fresh for a fixed time after it was made.  When a new slot needs room, expired
slots go first and then the oldest ones.
-/

namespace SidecarProxy
namespace ModuleCache

/-- The bounds of a cache. -/
structure Limits where
  /-- The most slots. -/
  capacity : Nat
  /-- How long a slot stays fresh. -/
  ttl : Span
  deriving DecidableEq, Repr, Inhabited

/-- The bounds that settings describe; there is always room for one slot. -/
def Limits.ofSettings (s : CacheSettings) : Limits where
  capacity := max 1 s.maxEntries
  ttl := .ofSecs s.ttlSecs

/-- A place in the cache. -/
structure Slot where
  /-- The id of the module. -/
  key : String
  /-- When the slot was made, in nanoseconds. -/
  created : Nat
  /-- The number of the cell that holds the table. -/
  cell : Nat
  deriving DecidableEq, Repr, Inhabited

/-- Whether a slot is still fresh. -/
def Slot.isFresh (l : Limits) (now : Nat) (s : Slot) : Bool :=
  now - s.created < l.ttl.nanos

/-- The slots of a cache, in the order in which their keys came in. -/
abbrev Slots := List Slot

namespace Slots

/-- The slot of a key. -/
def find? (slots : Slots) (key : String) : Option Slot :=
  List.find? (fun s => s.key == key) slots

/-- The oldest slot; of several, the one whose key came in first. -/
def oldest? : Slots → Option Slot
  | [] => none
  | s :: rest =>
    match oldest? rest with
    | none => some s
    | some t => if s.created ≤ t.created then some s else some t

/-- Drops the oldest slots, so many of them. -/
def dropOldest : Nat → Slots → Slots
  | 0, slots => slots
  | n + 1, slots =>
    match oldest? slots with
    | none => slots
    | some s => dropOldest n (slots.erase s)

/-- Makes room for one slot: expired slots are dropped, and then the oldest as long as needed. -/
def evict (l : Limits) (now : Nat) (slots : Slots) : Slots :=
  let fresh := slots.filter (·.isFresh l now)
  dropOldest (fresh.length + 1 - l.capacity) fresh

/-- Puts a slot in place of the one with the same key. -/
def replace (slot : Slot) (slots : Slots) : Slots :=
  slots.map fun s => if s.key = slot.key then slot else s

/-- Removes the slot of a key. -/
def remove (key : String) (slots : Slots) : Slots :=
  slots.filter (·.key != key)

/--
The slot in which a key is looked up, and the slots afterwards.  A key without a
fresh slot gets a new one, which refers to the cell `newCell`.
-/
def slotFor (l : Limits) (now : Nat) (newCell : Nat) (key : String) (slots : Slots) :
    Slot × Slots :=
  let slot : Slot := ⟨key, now, newCell⟩
  match slots.find? key with
  | some old => if old.isFresh l now then (old, slots) else (slot, slots.replace slot)
  | none =>
    let kept := if l.capacity ≤ slots.length then slots.evict l now else slots
    (slot, kept ++ [slot])

end Slots
end ModuleCache
end SidecarProxy
