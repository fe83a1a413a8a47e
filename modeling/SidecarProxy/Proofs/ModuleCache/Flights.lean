import SidecarProxy.Proofs.ModuleCache.Arrival

/-!
# Fetches in flight

An open fetch belongs to a call that loads, and a call that loads is noted as
the loader of its cell.  So each cell has at most one open fetch, however calls
come and go and whatever slots are dropped.  Main statements: every step keeps
this order, and two open fetches of one cell are the same.
-/

namespace SidecarProxy
namespace ModuleCache

open Catalog

/-- The order among fetches, calls and cells. -/
structure Flights (c : Cache) : Prop where
  slot_lt : ∀ s ∈ c.slots, s.cell < c.cells.length
  call_lt : ∀ (n : Nat) (call : Call), c.calls[n]? = some call → call.cell < c.cells.length
  pending :
    ∀ (i : Nat) (f : Fetch), c.fetches[i]? = some f → f.pending = true →
      ∃ call, c.calls[f.call]? = some call ∧ call.phase = .loading i ∧ call.key = f.key
  loader :
    ∀ (n : Nat) (call : Call) (i : Nat), c.calls[n]? = some call → call.phase = .loading i →
      (c.cell call.cell).loader = some n

section Parts

variable {c : Cache}

theorem flights_initial
    (limits : Limits) :
    Flights { limits := limits } where
  slot_lt := by simp
  call_lt := by simp
  pending := by simp
  loader := by simp

/-- A call that does not load has no open fetch. -/
theorem Flights.call_ne
    (h : Flights c)
    {n : Nat} {call : Call}
    (hcall : c.calls[n]? = some call)
    (hphase : ∀ i, call.phase ≠ .loading i) :
    ∀ (i : Nat) (f : Fetch), c.fetches[i]? = some f → f.pending = true → f.call ≠ n := by
  rintro i f hf hpending rfl
  obtain ⟨owner, howner, hloading, -⟩ := h.pending i f hf hpending
  cases hcall.symm.trans howner
  exact hphase i hloading

theorem Flights.setPhase
    (h : Flights c)
    {n : Nat} {call : Call} {phase : Phase}
    (hcall : c.calls[n]? = some call)
    (hfree : ∀ (i : Nat) (f : Fetch), c.fetches[i]? = some f → f.pending = true → f.call ≠ n)
    (hloader : ∀ i, phase = .loading i → (c.cell call.cell).loader = some n) :
    Flights (c.setPhase n phase) where
  slot_lt := h.slot_lt
  call_lt := by
    intro m after hafter
    obtain ⟨before, hbefore, rfl⟩ := (calls_setPhase_eq_some_iff c n m phase after).1 hafter
    have := h.call_lt m before hbefore
    split <;> exact this
  pending := by
    intro i f hf hpending
    obtain ⟨owner, howner, hrest⟩ := h.pending i f hf hpending
    refine ⟨owner, (calls_setPhase_eq_some_iff c n f.call phase owner).2 ⟨owner, howner, ?_⟩, hrest⟩
    rw [if_neg (hfree i f hf hpending).symm]
  loader := by
    intro m after i hafter hloading
    obtain ⟨before, hbefore, rfl⟩ := (calls_setPhase_eq_some_iff c n m phase after).1 hafter
    split at hloading
    · next hm =>
        subst hm
        cases hcall.symm.trans hbefore
        rw [if_pos rfl]
        exact hloader i hloading
    · next hm =>
        rw [if_neg hm]
        exact h.loader m before i hbefore hloading

theorem Flights.setCell
    (h : Flights c)
    {k : Nat} {cell : Cell}
    (hloader :
      ∀ (n : Nat) (call : Call) (i : Nat), c.calls[n]? = some call → call.cell = k → call.phase = .loading i →
        cell.loader = some n) :
    Flights (c.setCell k cell) where
  slot_lt := by
    intro s hs
    rw [Cache.setCell, List.length_set]
    exact h.slot_lt s hs
  call_lt := by
    intro n call hcall
    rw [Cache.setCell, List.length_set]
    exact h.call_lt n call hcall
  pending := h.pending
  loader := by
    intro n call i hcall hloading
    rw [cell_setCell]
    split
    · next hk => exact hloader n call i hcall hk.1.symm hloading
    · exact h.loader n call i hcall hloading

theorem Flights.closeFetch
    (h : Flights c)
    (fetch : Nat) (document : Option ModuleDescription) :
    Flights (c.closeFetch fetch document) where
  slot_lt := h.slot_lt
  call_lt := h.call_lt
  pending := by
    intro i f hf hpending
    rw [Cache.closeFetch, List.getElem?_modify, Option.map_eq_map, Option.map_eq_some_iff] at hf
    obtain ⟨before, hbefore, rfl⟩ := hf
    split at hpending
    · cases hpending
    · next hi =>
        rw [if_neg hi]
        exact h.pending i before hbefore hpending
  loader := h.loader

theorem Flights.openFetch
    (h : Flights c)
    {n : Nat} {call : Call}
    (hcall : c.calls[n]? = some call)
    (hphase : call.phase = .loading c.fetches.length) :
    Flights (c.openFetch n call) where
  slot_lt := h.slot_lt
  call_lt := h.call_lt
  pending := by
    intro i f hf hpending
    rcases Nat.lt_trichotomy i c.fetches.length with hi | rfl | hi
    · rw [Cache.openFetch, List.getElem?_append_left hi] at hf
      exact h.pending i f hf hpending
    · rw [Cache.openFetch, List.getElem?_concat_length] at hf
      cases hf
      exact ⟨call, hcall, hphase, rfl⟩
    · rw [Cache.openFetch, List.getElem?_eq_none (by simp; omega)] at hf
      cases hf
  loader := h.loader

theorem Flights.count
    (h : Flights c)
    (r : Metrics.LookupResult) :
    Flights (c.count r) :=
  ⟨h.slot_lt, h.call_lt, h.pending, h.loader⟩

theorem Flights.enter
    (h : Flights c)
    (key : String) :
    Flights (c.enter key) where
  slot_lt := by
    intro s hs
    rcases mem_slots_enter hs with hs | rfl
    · exact Nat.lt_of_lt_of_le (h.slot_lt s hs) (length_cells_le_enter c key)
    · exact slotOf_cell_lt key h.slot_lt
  call_lt := by
    intro n call hcall
    rcases calls_enter_eq_some hcall with hcall | rfl
    · exact Nat.lt_of_lt_of_le (h.call_lt n call hcall) (length_cells_le_enter c key)
    · exact slotOf_cell_lt key h.slot_lt
  pending := by
    intro i f hf hpending
    obtain ⟨owner, howner, hrest⟩ := h.pending i f hf hpending
    exact ⟨owner, calls_enter_of_eq_some key howner, hrest⟩
  loader := by
    intro n call i hcall hloading
    rcases calls_enter_eq_some hcall with hcall | rfl
    · rw [cell_enter]
      exact h.loader n call i hcall hloading
    · cases hloading

end Parts

section Runs

variable {c c' : Cache}

/-- A call that does not load goes on to another phase in which it does not load. -/
theorem Flights.move
    (h : Flights c)
    {n : Nat} {call : Call} {phase : Phase}
    (hcall : c.calls[n]? = some call)
    (hbefore : ∀ i, call.phase ≠ .loading i)
    (hafter : ∀ i, phase ≠ .loading i) :
    Flights (c.setPhase n phase) :=
  h.setPhase hcall (h.call_ne hcall hbefore) (fun i hi => absurd hi (hafter i))

/-- A change of the line of a cell. -/
theorem Flights.setLine
    (h : Flights c)
    (k : Nat) (line : List Nat) :
    Flights (c.setCell k { c.cell k with line := line }) :=
  h.setCell (by rintro n call i hcall rfl hloading; exact h.loader n call i hcall hloading)

/-- A load begins. -/
theorem Flights.load
    (h : Flights c)
    {n : Nat} {call : Call}
    (hcall : c.calls[n]? = some call)
    (hphase : call.phase = .waiting)
    (hloader : (c.cell call.cell).loader = none) :
    Flights (c.load n call (c.cell call.cell)) := by
  have hfree := h.call_ne hcall (by simp [hphase])
  -- The loader is noted first: so the new phase finds it in the cell.
  have hset : Flights (c.setCell call.cell
      { c.cell call.cell with loader := some n, line := (c.cell call.cell).line.erase n }) := by
    refine h.setCell ?_
    intro m other i hother hsame hloading
    have hnoted := h.loader m other i hother hloading
    rw [hsame, hloader] at hnoted
    cases hnoted
  have hnoted : ((c.setCell call.cell { c.cell call.cell with
      loader := some n, line := (c.cell call.cell).line.erase n }).cell call.cell).loader =
      some n := by
    rw [cell_setCell, if_pos ⟨rfl, h.call_lt n call hcall⟩]
  have hmoved := hset.setPhase hcall hfree
    (fun i (_ : Phase.loading c.fetches.length = .loading i) => hnoted)
  have hafter := (calls_setPhase_eq_some_iff c n n (.loading c.fetches.length) _).2
    ⟨call, hcall, (if_pos rfl).symm⟩
  exact (hmoved.openFetch hafter rfl).count .miss

/-- A load ends, with a table or without one. -/
theorem Flights.land
    (h : Flights c)
    {n : Nat} {call : Call} {fetch : Nat} {phase : Phase}
    (hcall : c.calls[n]? = some call)
    (hphase : call.phase = .loading fetch)
    (hafter : ∀ i, phase ≠ .loading i)
    (content : Option Loaded) (document : Option ModuleDescription) :
    Flights (((c.setPhase n phase).setCell call.cell
      { c.cell call.cell with loader := none, content := content }).closeFetch fetch document) := by
  have hclosed := h.closeFetch fetch document
  -- The fetch is closed first: it is the only open one of this call.
  have hfree : ∀ (i : Nat) (f : Fetch), (c.closeFetch fetch document).fetches[i]? = some f →
      f.pending = true → f.call ≠ n := by
    rintro i f hf hpending rfl
    obtain ⟨owner, howner, hloading, -⟩ := hclosed.pending i f hf hpending
    cases hcall.symm.trans howner
    cases hphase.symm.trans hloading
    rw [Cache.closeFetch, List.getElem?_modify, Option.map_eq_map, Option.map_eq_some_iff] at hf
    obtain ⟨before, -, rfl⟩ := hf
    rw [if_pos rfl] at hpending
    cases hpending
  have hmoved : Flights ((c.closeFetch fetch document).setPhase n phase) :=
    hclosed.setPhase hcall hfree (fun i hi => absurd hi (hafter i))
  refine hmoved.setCell ?_
  intro m other i hother hsame hloading
  have hnoted := hmoved.loader m other i hother hloading
  rw [hsame] at hnoted
  cases (h.loader n call fetch hcall hphase).symm.trans hnoted
  obtain ⟨before, -, rfl⟩ := (calls_setPhase_eq_some_iff c n n phase other).1 hother
  rw [if_pos rfl] at hloading
  exact absurd hloading (hafter i)

theorem flights_step
    {m : Move}
    (h : Flights c)
    (hstep : Step c m c') :
    Flights c' := by
  cases hstep with
  | pass nanos =>
      exact ⟨h.slot_lt, h.call_lt, h.pending, h.loader⟩
  | enter key =>
      exact h.enter key
  | hit hcall hphase hcontent =>
      exact (h.move hcall (by simp [hphase]) (by simp)).count .hit
  | queue hcall hphase hcontent =>
      exact (h.move hcall (by simp [hphase]) (by simp)).setLine _ _
  | load hcall hphase hcontent hloader hturn =>
      exact h.load hcall hphase hloader
  | fill hcall hphase htable =>
      exact h.land hcall hphase (by simp) _ _
  | fail hcall hphase hfailure =>
      exact (h.land hcall hphase (by simp) _ _).count .error
  | receive hcall hphase hcontent =>
      exact (h.move hcall (by simp [hphase]) (by simp)).setLine _ _
  | leave hcall hphase =>
      exact h.move hcall (by simp [hphase]) (by simp)
  | leaveLine hcall hphase =>
      exact (h.move hcall (by simp [hphase]) (by simp)).setLine _ _
  | stop hcall hphase =>
      exact h.land hcall hphase (by simp) _ _
  | invalidate key =>
      exact ⟨fun s hs => h.slot_lt s (List.mem_filter.1 hs).1, h.call_lt, h.pending, h.loader⟩

theorem flights_run?
    {ms : List Move}
    (h : Flights c)
    (hrun : c.run? ms = some c') :
    Flights c' :=
  run?_keeps (fun _ _ _ _ => flights_step) h hrun

/-- Two open fetches of calls with one cell are the same. -/
theorem Flights.fetch_unique
    (h : Flights c)
    {i j : Nat} {f g : Fetch} {call other : Call}
    (hf : c.fetches[i]? = some f)
    (hg : c.fetches[j]? = some g)
    (hfpending : f.pending = true)
    (hgpending : g.pending = true)
    (hcall : c.calls[f.call]? = some call)
    (hother : c.calls[g.call]? = some other)
    (hcell : call.cell = other.cell) :
    i = j := by
  obtain ⟨owner, howner, hloading, -⟩ := h.pending i f hf hfpending
  obtain ⟨rival, hrival, hrivalLoading, -⟩ := h.pending j g hg hgpending
  cases hcall.symm.trans howner
  cases hother.symm.trans hrival
  have hnoted := h.loader f.call call i hcall hloading
  rw [hcell, h.loader g.call other j hother hrivalLoading] at hnoted
  have hsame : g.call = f.call := Option.some.inj hnoted
  rw [hsame] at hother
  cases hcall.symm.trans hother
  exact Phase.loading.inj (hloading.symm.trans hrivalLoading)

end Runs

end ModuleCache
end SidecarProxy
