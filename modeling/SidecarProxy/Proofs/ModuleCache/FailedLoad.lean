import SidecarProxy.Proofs.ModuleCache.Served

/-!
# Loads that fail

The first load of a key makes its slot before the control plane is asked.  When
it fails, its caller gets the failure, but the slot stays, empty, and so does
the room that was made for it.  Main statement: the slots after a first load
that has failed, and when all keys that were served still are.
-/

namespace SidecarProxy
namespace ModuleCache

open Catalog Route

section Failure

variable {c : Cache} {σ : Type} {ask : Source σ} {key : String} {s : σ}

/-- The cache after the first load of a key has failed. -/
def Cache.unloaded (c : Cache) (key : String)
    (document : Except ControlPlane.Failure ModuleDescription) (e : ControlPlane.Failure) :
    Cache where
  limits := c.limits
  now := c.now
  slots := c.slots.room c.limits c.now ++ [⟨key, c.now, c.cells.length⟩]
  cells := c.cells ++ [{}]
  calls := c.calls ++
    [{ key := key, cell := c.cells.length, since := c.now, phase := .failed e }]
  fetches := c.fetches ++
    [{ key := key, call := c.calls.length, since := c.now, document := document.toOption
       pending := false }]
  events := c.events ++ [Cache.counted .miss, Cache.counted .error]

theorem start_of_absent
    (habsent : c.slots.find? key = none) :
    (⟨c, s, []⟩ : Running σ).start ask key =
      ⟨c.opened key, (ask key s).2, [(c.calls.length, (ask key s).1)]⟩ := by
  have hcalls : (c.queued key).calls[c.calls.length]? = _ := List.getElem?_concat_length
  rw [start_eq ask s (look_of_absent habsent), Running.tryBegin, hcalls, begin_queued]
  rfl

theorem answer_opened
    {document : Except ControlPlane.Failure ModuleDescription} {e : ControlPlane.Failure}
    (hfail : Cache.compile document = .error e) :
    (c.opened key).move? (.answer c.calls.length document) =
      some (c.unloaded key document e) := by
  simp [Cache.opened, Cache.move?, Cache.finish, hfail, Cache.setPhase, Cache.setCell, Cache.cell,
    Cache.closeFetch, Cache.count, modify_append_last, Cache.unloaded]

theorem deliver_opened
    {document : Except ControlPlane.Failure ModuleDescription} {e : ControlPlane.Failure}
    (hfail : Cache.compile document = .error e) :
    (⟨c.opened key, s, [(c.calls.length, document)]⟩ : Running σ).deliver ask =
      ⟨c.unloaded key document e, s, []⟩ := by
  have hcall : (c.opened key).calls[c.calls.length]? = _ := List.getElem?_concat_length
  have hcell : (c.unloaded key document e).cell c.cells.length = {} := by
    simp [Cache.unloaded, Cache.cell]
  simp only [Running.deliver, Running.move, hcall, answer_opened hfail, Option.map_some,
    Option.getD_some, Running.wake, hcell]

/-- The failure of a first load is the answer to its call. -/
theorem get_of_absent
    {e : ControlPlane.Failure}
    (habsent : c.slots.find? key = none)
    (hfail : Cache.compile (ask key s).1 = .error e) :
    c.get ask key s = (.error e, c.unloaded key (ask key s).1 e, (ask key s).2) := by
  have hresult : resultOf (c.unloaded key (ask key s).1 e) c.calls.length = some (.error e) := by
    simp [resultOf, Cache.unloaded]
  rw [get_eq, start_of_absent habsent, deliver_opened hfail]
  simp only [hresult, Option.getD_some]

end Failure

section Live

variable {c : Cache} {key : String}
variable {document : Except ControlPlane.Failure ModuleDescription} {e : ControlPlane.Failure}

/-- A slot that is fresh and has a table in its cell. -/
def Cache.Live (c : Cache) (slot : Slot) : Prop :=
  slot.isFresh c.limits c.now = true ∧ (c.cell slot.cell).content ≠ none

theorem serves_iff_exists_live
    (hnodup : (c.slots.map Slot.key).Nodup) :
    c.Serves key ↔ ∃ slot ∈ c.slots, slot.key = key ∧ c.Live slot := by
  rw [serves_iff]
  refine ⟨?_, ?_⟩
  · rintro ⟨slot, loaded, hfind, hfresh, hcontent⟩
    obtain ⟨hslot, hkey⟩ := find?_eq_some hfind
    exact ⟨slot, hslot, hkey, hfresh, by simp [hcontent]⟩
  · rintro ⟨slot, hslot, hkey, hfresh, hcontent⟩
    obtain ⟨loaded, hloaded⟩ := Option.ne_none_iff_exists'.1 hcontent
    exact ⟨slot, loaded, (find?_eq_some_iff hnodup).2 ⟨hslot, hkey⟩, hfresh, hloaded⟩

/-- A first load that fails leaves every cell as it was. -/
theorem cell_unloaded
    (habsent : c.slots.find? key = none)
    (k : Nat) :
    (c.unloaded key document e).cell k = c.cell k := by
  rw [← cell_enter c key k, enter_of_absent habsent]
  rfl

theorem live_unloaded_iff
    (habsent : c.slots.find? key = none)
    (slot : Slot) :
    (c.unloaded key document e).Live slot ↔ c.Live slot := by
  unfold Cache.Live
  rw [cell_unloaded habsent]
  rfl

/-- Behind a failure, the keys of the slots that stayed are served, and no others. -/
theorem serves_unloaded_iff
    (hbounded : Bounded c.limits c.slots)
    (habsent : c.slots.find? key = none)
    (other : String) :
    (c.unloaded key document e).Serves other ↔
      ∃ slot ∈ c.slots.room c.limits c.now, slot.key = other ∧ c.Live slot := by
  rw [serves_iff_exists_live (hbounded.room c.now c.cells.length habsent).nodup]
  simp only [live_unloaded_iff habsent]
  refine ⟨?_, ?_⟩
  · rintro ⟨slot, hslot, hrest⟩
    rcases List.mem_append.1 hslot with hslot | hslot
    · exact ⟨slot, hslot, hrest⟩
    · cases List.mem_singleton.1 hslot
      exact absurd (congrArg Cell.content (cell_length c)) hrest.2.2
  · rintro ⟨slot, hslot, hrest⟩
    exact ⟨slot, List.mem_append_left _ hslot, hrest⟩

/-- What is served stays served when every live slot stays. -/
theorem serves_kept_iff
    (hbounded : Bounded c.limits c.slots)
    (habsent : c.slots.find? key = none) :
    (∀ other, c.Serves other → (c.unloaded key document e).Serves other) ↔
      ∀ slot ∈ c.slots, c.Live slot → slot ∈ c.slots.room c.limits c.now := by
  simp only [serves_unloaded_iff hbounded habsent, serves_iff_exists_live hbounded.nodup]
  refine ⟨?_, ?_⟩
  · intro hkept slot hslot hlive
    obtain ⟨kept, hmem, hkey, -⟩ := hkept slot.key ⟨slot, hslot, rfl, hlive⟩
    have hsame : kept = slot :=
      List.inj_on_of_nodup_map hbounded.nodup ((room_sublist _ _ _).subset hmem) hslot hkey
    exact hsame ▸ hmem
  · rintro hkept other ⟨slot, hslot, hkey, hlive⟩
    exact ⟨slot, hkept slot hslot hlive, hkey, hlive⟩

/-- Live slots all stay unless the oldest slot of a cache full of fresh slots is live. -/
theorem live_room_iff
    (hbounded : Bounded c.limits c.slots) :
    (∀ slot ∈ c.slots, c.Live slot → slot ∈ c.slots.room c.limits c.now) ↔
      c.slots.length < c.limits.capacity ∨
        (∃ t ∈ c.slots, t.isFresh c.limits c.now = false) ∨
          ∃ t, Slots.oldest? c.slots = some t ∧ (c.cell t.cell).content = none := by
  have hroom := fun {slot : Slot} (hslot : slot ∈ c.slots) (hlive : c.Live slot) =>
    mem_room_iff hbounded.nodup hbounded.length_le hslot hlive.1
  refine ⟨?_, ?_⟩
  · intro hkept
    by_cases hlt : c.slots.length < c.limits.capacity
    · exact Or.inl hlt
    by_cases hexpired : ∃ t ∈ c.slots, t.isFresh c.limits c.now = false
    · exact Or.inr (Or.inl hexpired)
    have hpos := hbounded.capacity_pos
    obtain ⟨t, ht⟩ := exists_oldest? (List.ne_nil_of_length_pos (l := c.slots) (by omega))
    refine Or.inr (Or.inr ⟨t, ht, ?_⟩)
    -- Were the oldest slot live, it would have to stay, but it is the one that goes.
    by_contra hcontent
    have hmem := mem_of_oldest? ht
    have hfresh : t.isFresh c.limits c.now = true := by
      simpa using fun hfalse => hexpired ⟨t, hmem, hfalse⟩
    rcases (hroom hmem ⟨hfresh, hcontent⟩).1 (hkept t hmem ⟨hfresh, hcontent⟩) with h | h | h
    · exact hlt h
    · exact hexpired h
    · exact h ht
  · intro hcases slot hslot hlive
    rw [hroom hslot hlive]
    rcases hcases with h | h | ⟨t, ht, hempty⟩
    · exact Or.inl h
    · exact Or.inr (Or.inl h)
    · refine Or.inr (Or.inr ?_)
      intro holdest
      cases ht.symm.trans holdest
      exact hlive.2 hempty

end Live

section Main

/--
A first load that fails answers its caller and is not cached, but its empty slot
stays.  All that was served is still served unless a served key was the oldest
one in a cache full of fresh slots.
-/
theorem get_of_failure
    {c : Cache} {σ : Type} {ask : Source σ} {key : String} {s : σ} {e : ControlPlane.Failure}
    (hbounded : Bounded c.limits c.slots)
    (habsent : c.slots.find? key = none)
    (hfail : Cache.compile (ask key s).1 = .error e) :
    ∃ after : Cache,
      c.get ask key s = (.error e, after, (ask key s).2) ∧
        after.slots = c.slots.room c.limits c.now ++ [⟨key, c.now, c.cells.length⟩] ∧
        ¬ after.Serves key ∧
        ((∀ other, c.Serves other → after.Serves other) ↔
          c.slots.length < c.limits.capacity ∨
            (∃ t ∈ c.slots, t.isFresh c.limits c.now = false) ∨
              ∃ t, Slots.oldest? c.slots = some t ∧ (c.cell t.cell).content = none) := by
  refine ⟨c.unloaded key (ask key s).1 e, get_of_absent habsent hfail, rfl, ?_, ?_⟩
  · rw [serves_unloaded_iff hbounded habsent]
    rintro ⟨slot, hslot, hkey, -⟩
    have hmem := List.mem_map_of_mem (f := Slot.key) ((room_sublist _ _ _).subset hslot)
    exact (find?_eq_none_iff c.slots key).1 habsent (hkey ▸ hmem)
  · rw [serves_kept_iff hbounded habsent, live_room_iff hbounded]

/-- A cache with room for one module, which has been loaded. -/
def fullCache : Cache where
  limits := .ofSettings { maxEntries := 1 }
  slots := [⟨"mod-a-1.0.0", 0, 0⟩]
  cells := [{ content := some ⟨.empty, 0⟩ }]
  calls := [{ key := "mod-a-1.0.0", cell := 0, since := 0, phase := .returned ⟨.empty, 0⟩ }]
  fetches := [{ key := "mod-a-1.0.0", call := 0, since := 0, pending := false
                document := some { moduleId := "mod-a-1.0.0" } }]
  events := [Cache.counted .miss]

/-- The failed load of an unknown module takes the only room: something is served no more. -/
theorem get_of_failure_full :
    Bounded fullCache.limits fullCache.slots ∧
      fullCache.slots.find? "ghost-1.0.0" = none ∧
      Cache.compile (refuse "ghost-1.0.0" ()).1 = .error (.transport "") ∧
      ¬ ∀ other, fullCache.Serves other →
        (fullCache.get refuse "ghost-1.0.0" ()).2.1.Serves other := by
  have hbounded : Bounded fullCache.limits fullCache.slots := ⟨by decide, by decide, by decide⟩
  have hfail : Cache.compile (refuse "ghost-1.0.0" ()).1 = .error (.transport "") := rfl
  obtain ⟨after, hget, -, -, hkept⟩ := get_of_failure hbounded (by decide) hfail
  refine ⟨hbounded, by decide, hfail, ?_⟩
  rw [hget, hkept]
  decide

/-- A failed load changes the slots, and the module that was loaded before is gone. -/
theorem not_serves_of_failure_full :
    ({ limits := .ofSettings { maxEntries := 1 } } : Cache).run?
        [.enter "mod-a-1.0.0", .look 0, .begin 0,
          .answer 0 (.ok { moduleId := "mod-a-1.0.0" })] = some fullCache ∧
      (fullCache.get refuse "ghost-1.0.0" ()).1 = .error (.transport "") ∧
      (fullCache.get refuse "ghost-1.0.0" ()).2.1.slots ≠ fullCache.slots ∧
      fullCache.Serves "mod-a-1.0.0" ∧
      ¬ (fullCache.get refuse "ghost-1.0.0" ()).2.1.Serves "mod-a-1.0.0" := by
  refine ⟨by decide, by decide, by decide, serves_of_loaded rfl rfl rfl, ?_⟩
  rw [serves_iff]
  rintro ⟨slot, loaded, hfind, -⟩
  have hgone : (fullCache.get refuse "ghost-1.0.0" ()).2.1.slots.find? "mod-a-1.0.0" = none := by
    decide
  rw [hgone] at hfind
  cases hfind

end Main

end ModuleCache
end SidecarProxy
