import SidecarProxy.Proofs.ModuleCache.Cells

/-!
# How old a table may be

A call takes a fresh slot or makes one, and later it returns what stands in the
cell of this slot, even if the slot is gone by then.  Main statement: the table
comes from a fetch that is not older than the slots of that moment may be, and
never from one that was sent before the key was last invalidated.
-/

namespace SidecarProxy
namespace ModuleCache

open Catalog Route

section Freshness

variable {c c' : Cache} {key : String}

/-- The call that comes in has the cell of the slot that it takes for good. -/
theorem arrival_of_run?
    {ms : List Move} {call : Call}
    (h : Coherent c)
    (hrun : c.run? (.enter key :: ms) = some c')
    (hcall : c'.calls[c.calls.length]? = some call) :
    call.key = key ∧ call.cell = (c.slotOf key).cell := by
  obtain ⟨next, hnext, hrun⟩ := (run?_cons_eq_some_iff c c' _ ms).1 hrun
  have hlater := (coherent_step h hnext).later hrun
  cases hnext
  obtain ⟨after, hafter, hstays⟩ := hlater.calls c.calls.length _ List.getElem?_concat_length
  cases hafter.symm.trans hcall
  exact ⟨hstays.key, hstays.cell⟩

/-- A fetch for the slot of a call is sent later, or the slot was fresh and so is the fetch. -/
theorem fetch_of_slotOf
    (h : Coherent c)
    (hlater : Later c c')
    {i : Nat} {f : Fetch} {call : Call}
    (hf : c'.fetches[i]? = some f)
    (hcall : c'.calls[f.call]? = some call)
    (hcell : call.cell = (c.slotOf key).cell) :
    c.fetches.length ≤ i ∨ c.now < f.since + c.limits.ttl.nanos := by
  by_cases hnew : c.slotOf key = ⟨key, c.now, c.cells.length⟩
  · rw [hnew] at hcell
    exact Or.inl (hlater.length_fetches_le h hf hcall (Nat.le_of_eq hcell.symm))
  by_cases hi : c.fetches.length ≤ i
  · exact Or.inl hi
  have hslot := (slotOf_cases c key).resolve_right hnew
  obtain ⟨before, sender, hbefore, hstays, hsender, hsame⟩ :=
    hlater.sender h (Nat.lt_of_not_le hi) hf hcall
  have hsince := h.timely.le_since _ hslot i before sender hbefore hsender
    (hsame.cell.symm.trans hcell)
  have hfresh := of_decide_eq_true (slotOf_isFresh hnew)
  rw [← hstays.since] at hsince
  exact Or.inr (by omega)

/-- Behind an invalidation the slot of the key has a cell of its own. -/
theorem length_cells_le_slotOf
    (hlater : Later { c with slots := c.slots.remove key } c') :
    c.cells.length ≤ (c'.slotOf key).cell := by
  rcases slotOf_cases c' key with hslot | hslot
  · rcases hlater.slots _ hslot with hold | hcell
    · have hkey := (List.mem_filter.1 hold).2
      rw [slotOf_key] at hkey
      simp at hkey
    · exact hcell
  · rw [hslot]
    exact hlater.cells_le

theorem length_fetches_le_of_invalidate
    {back ms : List Move} {mid : Cache}
    (h : Coherent c)
    (hback : c.run? (.invalidate key :: back) = some mid)
    (hrun : mid.run? ms = some c')
    {i : Nat} {f : Fetch} {call : Call}
    (hf : c'.fetches[i]? = some f)
    (hcall : c'.calls[f.call]? = some call)
    (hcell : call.cell = (mid.slotOf key).cell) :
    c.fetches.length ≤ i := by
  obtain ⟨next, hnext, hback⟩ := (run?_cons_eq_some_iff c mid _ back).1 hback
  have hdropped := coherent_step h hnext
  have hlater := hdropped.later hback
  have hwhole := hlater.trans ((hdropped.run? hback).later hrun)
  cases hnext
  refine hwhole.length_fetches_le hdropped hf hcall ?_
  rw [hcell]
  exact length_cells_le_slotOf (c := c) hlater

end Freshness

section Main

/--
The table that a call returns was asked for during the call (its fetch is none of
those sent before) or while a slot made then would still be fresh, and in any case
since the key was last invalidated.
-/
theorem origin_of_returned
    {l : Limits} {before after : List Move} {c c' : Cache} {key : String}
    {call : Call} {loaded : Loaded}
    (hbefore : ({ limits := l } : Cache).run? before = some c)
    (hafter : c.run? (.enter key :: after) = some c')
    (hcall : c'.calls[c.calls.length]? = some call)
    (hreturned : call.phase = .returned loaded) :
    ∃ f, c'.Origin key loaded f ∧
      (c.fetches.length ≤ loaded.fetch ∨ c.now < f.since + l.ttl.nanos) ∧
        ∀ (front back : List Move) (mid : Cache),
          before = front ++ .invalidate key :: back →
            ({ limits := l } : Cache).run? front = some mid →
              mid.fetches.length ≤ loaded.fetch := by
  have h := coherent_run? hbefore
  have hlater := h.later hafter
  have hlimits := ((coherent_initial l).later hbefore).limits
  obtain ⟨hkey, hcell⟩ := arrival_of_run? h hafter hcall
  have h' := h.run? hafter
  obtain ⟨f, sender, horigin, hsender, -, hsame⟩ :=
    h'.origin (h'.records.returned hcall hreturned)
  have hsenderKey := h'.keyed.call_key_eq hsender hcall hsame
  rw [hsenderKey, hkey] at horigin
  rw [hcell] at hsame
  refine ⟨f, horigin, ?_, ?_⟩
  · have hfetch := fetch_of_slotOf h hlater horigin.1 hsender hsame
    rwa [hlimits] at hfetch
  · rintro front back mid rfl hfront
    rw [run?_append, hfront] at hbefore
    exact length_fetches_le_of_invalidate (coherent_run? hfront) hbefore hafter horigin.1
      hsender hsame

/-- A module that has come to offer an interface. -/
def grownModule : ModuleDescription where
  moduleId := "mod-a-1.0.0"
  interfaces :=
    [{ id := "entities", endpoints := [{ path := some "/entities", methods := ["GET"] }] }]

/-- The table of the module that has come to offer an interface. -/
def grownTable : Table where
  buckets :=
    [("/entities",
      [{ moduleId := "mod-a-1.0.0", location := none, interfaceId := "entities", kind := .regular
         endpoint := { path := some "/entities", methods := ["GET"] } }])]
  size := 1

/-- A cache from which a module was dropped while it was loaded. -/
def droppedCache : Cache where
  limits := .ofSettings {}
  cells := [{ loader := some 0 }]
  calls := [{ key := "mod-a-1.0.0", cell := 0, since := 0, phase := .loading 0 }]
  fetches := [{ key := "mod-a-1.0.0", call := 0, since := 0 }]
  events := [Cache.counted .miss]

/-- The cache in which this load and the next one of the module have come to their ends. -/
def reloadedCache : Cache where
  limits := .ofSettings {}
  slots := [⟨"mod-a-1.0.0", 0, 1⟩]
  cells := [{ content := some ⟨.empty, 0⟩ }, { content := some ⟨grownTable, 1⟩ }]
  calls :=
    [{ key := "mod-a-1.0.0", cell := 0, since := 0, phase := .returned ⟨.empty, 0⟩ },
      { key := "mod-a-1.0.0", cell := 1, since := 0, phase := .returned ⟨grownTable, 1⟩ }]
  fetches :=
    [{ key := "mod-a-1.0.0", call := 0, since := 0, pending := false
       document := some { moduleId := "mod-a-1.0.0" } },
      { key := "mod-a-1.0.0", call := 1, since := 0, pending := false
        document := some grownModule }]
  events := [Cache.counted .miss, Cache.counted .miss]

/-- A load that was under way when its key was invalidated is not what a later call returns. -/
theorem origin_of_returned_reloaded :
    ({ limits := .ofSettings {} } : Cache).run?
        [.enter "mod-a-1.0.0", .look 0, .begin 0, .invalidate "mod-a-1.0.0"] =
          some droppedCache ∧
      droppedCache.run?
          [.enter "mod-a-1.0.0", .look 1, .begin 1, .answer 0 (.ok { moduleId := "mod-a-1.0.0" }),
            .answer 1 (.ok grownModule)] =
          some reloadedCache ∧
        (reloadedCache.calls[1]?).map Call.phase = some (.returned ⟨grownTable, 1⟩) ∧
          ∃ f, reloadedCache.Origin "mod-a-1.0.0" ⟨grownTable, 1⟩ f ∧
            droppedCache.fetches.length ≤ 1 := by
  have hbefore : ({ limits := .ofSettings {} } : Cache).run?
      ([.enter "mod-a-1.0.0", .look 0, .begin 0] ++ [.invalidate "mod-a-1.0.0"]) =
        some droppedCache := by
    decide +kernel
  have hafter : droppedCache.run?
      [.enter "mod-a-1.0.0", .look 1, .begin 1, .answer 0 (.ok { moduleId := "mod-a-1.0.0" }),
        .answer 1 (.ok grownModule)] = some reloadedCache := by
    decide +kernel
  have hloading : ({ limits := .ofSettings {} } : Cache).run?
      [.enter "mod-a-1.0.0", .look 0, .begin 0] =
        some { droppedCache with slots := [⟨"mod-a-1.0.0", 0, 0⟩] } := by
    decide +kernel
  have hreturned :
      ({ key := "mod-a-1.0.0", cell := 1, since := 0, phase := .returned ⟨grownTable, 1⟩ } :
        Call).phase = .returned ⟨grownTable, 1⟩ :=
    rfl
  obtain ⟨f, horigin, -, hdropped⟩ := origin_of_returned hbefore hafter rfl hreturned
  exact ⟨hbefore, hafter, rfl, f, horigin,
    hdropped _ [] { droppedCache with slots := [⟨"mod-a-1.0.0", 0, 0⟩] } rfl hloading⟩

end Main

end ModuleCache
end SidecarProxy
