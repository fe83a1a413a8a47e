import SidecarProxy.Proofs.ModuleCache.History

/-!
# Whose cell it is

A cell is made for one slot, and only calls that take this slot get to it.
Main statements: behind every run each cell belongs to one key, no fetch for a
cell is older than its slot, and both go together with the order among fetches
and with the records.
-/

namespace SidecarProxy
namespace ModuleCache

open Route

section Keys

/-- Every cell belongs to one key. -/
def Keyed (c : Cache) : Prop :=
  ∃ owner : Nat → String,
    (∀ s ∈ c.slots, owner s.cell = s.key) ∧
      ∀ (n : Nat) (call : Call), c.calls[n]? = some call → owner call.cell = call.key

theorem keyed_initial
    (limits : Limits) :
    Keyed { limits := limits } :=
  ⟨fun _ => "", by simp, by simp⟩

variable {c c' : Cache}

theorem Keyed.enter
    (h : Keyed c)
    (hflights : Flights c)
    (key : String) :
    Keyed (c.enter key) := by
  obtain ⟨owner, hslots, hcalls⟩ := h
  -- The key of a new cell is noted; no slot and no call has had this cell.
  have hnote : ∃ owner' : Nat → String, owner' (c.slotOf key).cell = key ∧
      ∀ k < c.cells.length, owner' k = owner k := by
    rcases slotOf_cases c key with hslot | hslot
    · exact ⟨owner, (hslots _ hslot).trans (slotOf_key c key), fun _ _ => rfl⟩
    · refine ⟨Function.update owner c.cells.length key, ?_, ?_⟩
      · rw [hslot]
        exact Function.update_self ..
      · intro k hk
        exact Function.update_of_ne (Nat.ne_of_lt hk) ..
  obtain ⟨owner', hnew, hold⟩ := hnote
  refine ⟨owner', ?_, ?_⟩
  · intro s hs
    rcases mem_slots_enter hs with hs | rfl
    · rw [hold _ (hflights.slot_lt s hs), hslots s hs]
    · rw [hnew, slotOf_key]
  · intro n call hcall
    rcases calls_enter_eq_some hcall with hcall | rfl
    · rw [hold _ (hflights.call_lt n call hcall), hcalls n call hcall]
    · exact hnew

theorem keyed_step
    {m : Move}
    (h : Keyed c)
    (hflights : Flights c)
    (hstep : Step c m c') :
    Keyed c' := by
  rcases frame_step hstep with ⟨key, rfl, rfl⟩ | ⟨key, rfl⟩ | ⟨hslots, hcalls⟩
  · exact h.enter hflights key
  · obtain ⟨owner, hslots, hcalls⟩ := h
    cases hstep
    exact ⟨owner, fun s hs => hslots s (List.mem_filter.1 hs).1, hcalls⟩
  · obtain ⟨owner, hslot, hcall⟩ := h
    refine ⟨owner, hslots ▸ hslot, ?_⟩
    intro n after hafter
    obtain ⟨before, hbefore, hkey, hcell⟩ := hcalls n after hafter
    rw [← hkey, ← hcell]
    exact hcall n before hbefore

/-- A call that has the cell of a slot has its key. -/
theorem Keyed.key_eq
    (h : Keyed c)
    {s : Slot} {n : Nat} {call : Call}
    (hs : s ∈ c.slots)
    (hcall : c.calls[n]? = some call)
    (hcell : call.cell = s.cell) :
    call.key = s.key := by
  obtain ⟨owner, hslots, hcalls⟩ := h
  rw [← hcalls n call hcall, hcell, hslots s hs]

/-- Calls that have the same cell have the same key. -/
theorem Keyed.call_key_eq
    (h : Keyed c)
    {n m : Nat} {call other : Call}
    (hcall : c.calls[n]? = some call)
    (hother : c.calls[m]? = some other)
    (hcell : call.cell = other.cell) :
    call.key = other.key := by
  obtain ⟨owner, -, hcalls⟩ := h
  rw [← hcalls n call hcall, hcell, hcalls m other hother]

end Keys

section Times

/-- No slot is made in the future, and no fetch for its cell was sent before it was made. -/
structure Timely (c : Cache) : Prop where
  created_le : ∀ s ∈ c.slots, s.created ≤ c.now
  le_since :
    ∀ s ∈ c.slots, ∀ (i : Nat) (f : Fetch) (call : Call),
      c.fetches[i]? = some f → c.calls[f.call]? = some call → call.cell = s.cell →
        s.created ≤ f.since

theorem timely_initial
    (limits : Limits) :
    Timely { limits := limits } where
  created_le := by simp
  le_since := by simp

variable {c c' : Cache}

/-- A fetch was sent before, or it is sent now. -/
theorem Change.fetches_cases
    (h : Change c c')
    {i : Nat} {f : Fetch}
    (hf : c'.fetches[i]? = some f) :
    (∃ before, c.fetches[i]? = some before ∧ before.Stays f) ∨ f.since = c.now := by
  have hclosed : ∀ {j : Nat} {document : Option Catalog.ModuleDescription},
      c'.fetches = (c.closeFetch j document).fetches →
        ∃ before, c.fetches[i]? = some before ∧ before.Stays f := by
    intro j document hfetches
    rw [hfetches] at hf
    obtain ⟨before, hbefore, rfl⟩ := (fetches_closeFetch_eq_some_iff c j i document f).1 hf
    refine ⟨before, hbefore, ?_⟩
    split <;> exact ⟨rfl, rfl, rfl⟩
  cases h with
  | quiet hcalls hfetches hcontent =>
      exact Or.inl ⟨f, hfetches ▸ hf, .refl f⟩
  | arrive key harrive =>
      subst harrive
      exact Or.inl ⟨f, hf, .refl f⟩
  | move hcall hphase hnew hcalls hfetches hcontent =>
      exact Or.inl ⟨f, hfetches ▸ hf, .refl f⟩
  | send hcall hphase hempty hcalls hfetches hcontent =>
      rw [hfetches] at hf
      rcases fetches_openFetch_cases hf with hf | ⟨-, rfl⟩
      · exact Or.inl ⟨f, hf, .refl f⟩
      · exact Or.inr rfl
  | close hcall hphase hnew hcalls hfetches hcontent =>
      exact Or.inl (hclosed hfetches)
  | fill hcall hphase htable hcalls hfetches hcontent =>
      exact Or.inl (hclosed hfetches)

theorem timely_step
    {m : Move}
    (h : Timely c)
    (hflights : Flights c)
    (hrecords : Records c)
    (hstep : Step c m c') :
    Timely c' where
  created_le := by
    intro s hs
    refine Nat.le_trans ?_ (now_le_step hstep)
    rcases slots_step hstep hs with hs | ⟨key, rfl⟩
    · exact h.created_le s hs
    · exact Nat.le_refl _
  le_since := by
    intro s hs i f call hf hcall hcell
    have hchange := change_of_step hflights hstep
    rcases hchange.fetches_cases hf with ⟨before, hbefore, hstays⟩ | hsince
    · -- The sender was there before, so that its cell is not new.
      obtain ⟨owner, howner, -⟩ := hrecords.sent i before hbefore
      obtain ⟨after, hafter, hsame⟩ := hchange.callsStay _ owner howner
      rw [← hstays.call] at howner hafter
      cases hafter.symm.trans hcall
      rw [hstays.since]
      rcases slots_step hstep hs with hs | ⟨key, rfl⟩
      · exact h.le_since s hs i before owner hbefore (hstays.call ▸ howner)
          (hsame.cell.symm.trans hcell)
      · have hlt := hflights.call_lt _ owner howner
        rw [← hsame.cell, hcell] at hlt
        exact absurd hlt (Nat.lt_irrefl _)
    · rw [hsince]
      rcases slots_step hstep hs with hs | ⟨key, rfl⟩
      · exact h.created_le s hs
      · exact Nat.le_refl _

end Times

section Coherence

/-- What holds behind every run. -/
structure Coherent (c : Cache) : Prop where
  flights : Flights c
  records : Records c
  keyed : Keyed c
  timely : Timely c

variable {c c' : Cache}

theorem coherent_initial
    (limits : Limits) :
    Coherent { limits := limits } where
  flights := flights_initial limits
  records := records_initial limits
  keyed := keyed_initial limits
  timely := timely_initial limits

theorem coherent_step
    {m : Move}
    (h : Coherent c)
    (hstep : Step c m c') :
    Coherent c' where
  flights := flights_step h.flights hstep
  records := records_step h.records h.flights hstep
  keyed := keyed_step h.keyed h.flights hstep
  timely := timely_step h.timely h.flights h.records hstep

theorem Coherent.run?
    {ms : List Move}
    (h : Coherent c)
    (hrun : c.run? ms = some c') :
    Coherent c' :=
  run?_keeps (fun _ _ _ _ => coherent_step) h hrun

theorem coherent_run?
    {l : Limits} {ms : List Move}
    (hrun : ({ limits := l } : Cache).run? ms = some c) :
    Coherent c :=
  (coherent_initial l).run? hrun

/-- What a run leaves behind knows of all that came before. -/
theorem Coherent.later
    {ms : List Move}
    (h : Coherent c)
    (hrun : c.run? ms = some c') :
    Later c c' := by
  have hkeeps := run?_keeps (P := fun c' => Coherent c' ∧ Later c c')
    (by
      rintro c₁ m c₂ - ⟨h, hlater⟩ hstep
      exact ⟨coherent_step h hstep, hlater.trans (later_step h.records h.flights hstep)⟩)
    ⟨h, .refl c⟩ hrun
  exact hkeeps.2

end Coherence

section Origins

/-- A table is the compiled answer to a fetch for a key. -/
def Cache.Origin
    (c : Cache) (key : String) (loaded : Loaded) (f : Fetch) : Prop :=
  c.fetches[loaded.fetch]? = some f ∧ f.key = key ∧
    ∃ d, f.document = some d ∧ Table.ofModule d none = .ok loaded.table

variable {c c' : Cache}

/-- What stands in a cell was brought by a call that has this cell. -/
theorem Coherent.origin
    (h : Coherent c)
    {k : Nat} {loaded : Loaded}
    (hloaded : c.content k = some loaded) :
    ∃ f call, c.Origin call.key loaded f ∧ c.calls[f.call]? = some call ∧
      call.phase = .returned loaded ∧ call.cell = k := by
  obtain ⟨f, call, d, hf, hcall, hcell, hreturned, hdocument, htable⟩ :=
    h.records.filled k loaded hloaded
  obtain ⟨owner, howner, hkey, -⟩ := h.records.sent loaded.fetch f hf
  cases howner.symm.trans hcall
  exact ⟨f, call, ⟨hf, hkey.symm, d, hdocument, htable⟩, hcall, hreturned, hcell⟩

/-- A fetch that was sent before had its sender before. -/
theorem Later.sender
    (hlater : Later c c')
    (h : Coherent c)
    {i : Nat} {f : Fetch} {call : Call}
    (hi : i < c.fetches.length)
    (hf : c'.fetches[i]? = some f)
    (hcall : c'.calls[f.call]? = some call) :
    ∃ before sender, c.fetches[i]? = some before ∧ before.Stays f ∧
      c.calls[before.call]? = some sender ∧ sender.Stays call := by
  have hbefore := List.getElem?_eq_getElem hi
  obtain ⟨sender, hsender, -⟩ := h.records.sent i _ hbefore
  obtain ⟨after, hafter, hstays⟩ := hlater.fetches i _ hbefore
  cases hafter.symm.trans hf
  obtain ⟨after, hafter, hsame⟩ := hlater.calls _ sender hsender
  rw [← hstays.call] at hafter
  cases hafter.symm.trans hcall
  exact ⟨_, sender, hbefore, hstays, hsender, hsame⟩

/-- A fetch for a cell that is made later is sent later. -/
theorem Later.length_fetches_le
    (hlater : Later c c')
    (h : Coherent c)
    {i : Nat} {f : Fetch} {call : Call}
    (hf : c'.fetches[i]? = some f)
    (hcall : c'.calls[f.call]? = some call)
    (hcell : c.cells.length ≤ call.cell) :
    c.fetches.length ≤ i := by
  by_contra hi
  obtain ⟨before, sender, -, -, hsender, hsame⟩ :=
    hlater.sender h (Nat.lt_of_not_le hi) hf hcall
  have hlt := h.flights.call_lt _ sender hsender
  rw [hsame.cell] at hcell
  exact absurd hlt (Nat.not_lt.2 hcell)

end Origins

end ModuleCache
end SidecarProxy
