import SidecarProxy.Proofs.ModuleCache.Records

/-!
# What stays on record

Slots come and go, but calls and fetches are never forgotten, a call that has
ended stays as it is, and a cell that is filled stays filled.  Main statement:
a step leads to a cache that agrees with the earlier one on all of this.
-/

namespace SidecarProxy
namespace ModuleCache

section Slots

variable {c c' : Cache}

theorem slotOf_cases
    (c : Cache) (key : String) :
    c.slotOf key ∈ c.slots ∨ c.slotOf key = ⟨key, c.now, c.cells.length⟩ :=
  slotFor_fst c.limits c.now c.cells.length key c.slots

theorem slotOf_key
    (c : Cache) (key : String) :
    (c.slotOf key).key = key := by
  unfold Cache.slotOf
  rcases slotFor_cases c.limits c.now c.cells.length key c.slots with
    ⟨-, hmade⟩ | ⟨slot, hfind, -, hmade⟩ | ⟨slot, -, -, hmade⟩ <;>
    rw [hmade]
  exact (find?_eq_some hfind).2

/-- A slot that a call finds is fresh. -/
theorem slotOf_isFresh
    {key : String}
    (hfound : c.slotOf key ≠ ⟨key, c.now, c.cells.length⟩) :
    (c.slotOf key).isFresh c.limits c.now = true := by
  unfold Cache.slotOf at hfound ⊢
  rcases slotFor_cases c.limits c.now c.cells.length key c.slots with
    ⟨-, hmade⟩ | ⟨slot, -, hfresh, hmade⟩ | ⟨slot, -, -, hmade⟩ <;>
    rw [hmade] at hfound ⊢
  · exact absurd rfl hfound
  · exact hfresh
  · exact absurd rfl hfound

/-- A slot was there before, or it is new and has a cell of its own. -/
theorem slots_step
    {m : Move} {s : Slot}
    (hstep : Step c m c')
    (hs : s ∈ c'.slots) :
    s ∈ c.slots ∨ ∃ key, s = ⟨key, c.now, c.cells.length⟩ := by
  cases hstep with
  | enter key =>
      rcases mem_slots_enter hs with hs | rfl
      · exact Or.inl hs
      · exact (slotOf_cases c key).imp_right (fun h => ⟨key, h⟩)
  | invalidate key =>
      exact Or.inl (List.mem_filter.1 hs).1
  | _ =>
      exact Or.inl hs

theorem length_cells_le_step
    {m : Move}
    (hstep : Step c m c') :
    c.cells.length ≤ c'.cells.length := by
  cases hstep with
  | enter key =>
      exact length_cells_le_enter c key
  | _ =>
      simp [Cache.setCell, Cache.setPhase, Cache.load, Cache.openFetch, Cache.closeFetch,
        Cache.count]

end Slots

section Entries

/-- What stays of a call: one that has ended does not change any more. -/
structure Call.Stays (call after : Call) : Prop where
  key : after.key = call.key
  cell : after.cell = call.cell
  ended : Cache.isOpen call = false → after = call

/-- What stays of a fetch, whether it is answered or not. -/
structure Fetch.Stays (f after : Fetch) : Prop where
  key : after.key = f.key
  call : after.call = f.call
  since : after.since = f.since

theorem Call.Stays.refl
    (call : Call) :
    call.Stays call :=
  ⟨rfl, rfl, fun _ => rfl⟩

theorem Call.Stays.trans
    {call mid after : Call}
    (h : call.Stays mid)
    (h' : mid.Stays after) :
    call.Stays after where
  key := h'.key.trans h.key
  cell := h'.cell.trans h.cell
  ended := by
    intro hended
    have hsame := h.ended hended
    exact (h'.ended (hsame ▸ hended)).trans hsame

theorem Fetch.Stays.refl
    (f : Fetch) :
    f.Stays f :=
  ⟨rfl, rfl, rfl⟩

theorem Fetch.Stays.trans
    {f mid after : Fetch}
    (h : f.Stays mid)
    (h' : mid.Stays after) :
    f.Stays after :=
  ⟨h'.key.trans h.key, h'.call.trans h.call, h'.since.trans h.since⟩

end Entries

section Stay

/-- The calls of a cache are found in another one, too. -/
def CallsStay
    (c c' : Cache) : Prop :=
  ∀ (n : Nat) (call : Call), c.calls[n]? = some call →
    ∃ after, c'.calls[n]? = some after ∧ call.Stays after

/-- The fetches of a cache are found in another one, too. -/
def FetchesStay
    (c c' : Cache) : Prop :=
  ∀ (i : Nat) (f : Fetch), c.fetches[i]? = some f →
    ∃ after, c'.fetches[i]? = some after ∧ f.Stays after

variable {c c' : Cache}

theorem callsStay_of_eq
    (hcalls : c'.calls = c.calls) :
    CallsStay c c' :=
  fun _ call hcall => ⟨call, hcalls ▸ hcall, .refl call⟩

theorem fetchesStay_of_eq
    (hfetches : c'.fetches = c.fetches) :
    FetchesStay c c' :=
  fun _ f hf => ⟨f, hfetches ▸ hf, .refl f⟩

theorem isOpen_of_phase
    {call : Call}
    (hphase : call.phase = .entered ∨ call.phase = .waiting ∨ ∃ i, call.phase = .loading i) :
    Cache.isOpen call = true := by
  unfold Cache.isOpen
  rcases hphase with hphase | hphase | ⟨i, hphase⟩ <;> rw [hphase]

/-- Only a call that has not ended goes on. -/
theorem callsStay_of_setPhase
    {n : Nat} {call : Call} {phase : Phase}
    (hcall : c.calls[n]? = some call)
    (hopen : call.phase = .entered ∨ call.phase = .waiting ∨ ∃ i, call.phase = .loading i)
    (hcalls : c'.calls = (c.setPhase n phase).calls) :
    CallsStay c c' := by
  intro m before hbefore
  rw [hcalls]
  by_cases hm : m = n
  · subst hm
    cases hcall.symm.trans hbefore
    refine ⟨_, calls_setPhase_self hcall phase, rfl, rfl, ?_⟩
    intro hended
    cases (isOpen_of_phase hopen).symm.trans hended
  · exact ⟨before, (calls_setPhase_of_ne hm phase).trans hbefore, .refl before⟩

theorem fetchesStay_of_closeFetch
    {i : Nat} {document : Option Catalog.ModuleDescription}
    (hfetches : c'.fetches = (c.closeFetch i document).fetches) :
    FetchesStay c c' := by
  intro j f hf
  rw [hfetches]
  refine ⟨_, (fetches_closeFetch_eq_some_iff c i j document _).2 ⟨f, hf, rfl⟩, ?_⟩
  split <;> exact ⟨rfl, rfl, rfl⟩

theorem Change.callsStay
    (h : Change c c') :
    CallsStay c c' := by
  cases h with
  | quiet hcalls hfetches hcontent =>
      exact callsStay_of_eq hcalls
  | arrive key harrive =>
      exact harrive ▸ fun n call hcall => ⟨call, calls_enter_of_eq_some key hcall, .refl call⟩
  | move hcall hphase hnew hcalls hfetches hcontent =>
      exact callsStay_of_setPhase hcall (hphase.imp_right .inl) hcalls
  | send hcall hphase hempty hcalls hfetches hcontent =>
      exact callsStay_of_setPhase hcall (.inr (.inl hphase)) hcalls
  | close hcall hphase hnew hcalls hfetches hcontent =>
      exact callsStay_of_setPhase hcall (.inr (.inr ⟨_, hphase⟩)) hcalls
  | fill hcall hphase htable hcalls hfetches hcontent =>
      exact callsStay_of_setPhase hcall (.inr (.inr ⟨_, hphase⟩)) hcalls

theorem Change.fetchesStay
    (h : Change c c') :
    FetchesStay c c' := by
  cases h with
  | quiet hcalls hfetches hcontent =>
      exact fetchesStay_of_eq hfetches
  | arrive key harrive =>
      exact harrive ▸ fetchesStay_of_eq rfl
  | move hcall hphase hnew hcalls hfetches hcontent =>
      exact fetchesStay_of_eq hfetches
  | send hcall hphase hempty hcalls hfetches hcontent =>
      exact fun i f hf => ⟨f, hfetches ▸ fetches_openFetch_of_eq_some _ _ hf, .refl f⟩
  | close hcall hphase hnew hcalls hfetches hcontent =>
      exact fetchesStay_of_closeFetch hfetches
  | fill hcall hphase htable hcalls hfetches hcontent =>
      exact fetchesStay_of_closeFetch hfetches

/-- A cell is filled only while it is empty. -/
theorem Change.content_stays
    (h : Change c c')
    (hrecords : Records c)
    (k : Nat) (loaded : Loaded)
    (hloaded : c.content k = some loaded) :
    c'.content k = some loaded := by
  cases h with
  | quiet hcalls hfetches hcontent =>
      rwa [hcontent]
  | arrive key harrive =>
      rwa [harrive, content_enter]
  | move hcall hphase hnew hcalls hfetches hcontent =>
      rwa [hcontent]
  | send hcall hphase hempty hcalls hfetches hcontent =>
      rwa [hcontent]
  | close hcall hphase hnew hcalls hfetches hcontent =>
      rwa [hcontent]
  | @fill n call i d table hcall hphase htable hcalls hfetches hcontent =>
      have hother : k ≠ call.cell := by
        rintro rfl
        cases (hrecords.loading hcall hphase).1.symm.trans hloaded
      rwa [hcontent, Function.update_of_ne hother]

end Stay

section Later

/-- What a later cache still knows of an earlier one. -/
structure Later (c c' : Cache) : Prop where
  limits : c'.limits = c.limits
  now_le : c.now ≤ c'.now
  cells_le : c.cells.length ≤ c'.cells.length
  slots : ∀ s ∈ c'.slots, s ∈ c.slots ∨ c.cells.length ≤ s.cell
  content : ∀ (k : Nat) (loaded : Loaded), c.content k = some loaded → c'.content k = some loaded
  calls : CallsStay c c'
  fetches : FetchesStay c c'

variable {c c' c'' : Cache}

theorem Later.refl
    (c : Cache) :
    Later c c where
  limits := rfl
  now_le := Nat.le_refl _
  cells_le := Nat.le_refl _
  slots := fun _ hs => Or.inl hs
  content := fun _ _ hloaded => hloaded
  calls := callsStay_of_eq rfl
  fetches := fetchesStay_of_eq rfl

theorem Later.trans
    (h : Later c c')
    (h' : Later c' c'') :
    Later c c'' where
  limits := h'.limits.trans h.limits
  now_le := Nat.le_trans h.now_le h'.now_le
  cells_le := Nat.le_trans h.cells_le h'.cells_le
  slots := by
    intro s hs
    rcases h'.slots s hs with hs | hs
    · exact h.slots s hs
    · exact Or.inr (Nat.le_trans h.cells_le hs)
  content := fun k loaded hloaded => h'.content k loaded (h.content k loaded hloaded)
  calls := by
    intro n call hcall
    obtain ⟨mid, hmid, hstays⟩ := h.calls n call hcall
    obtain ⟨after, hafter, hstays'⟩ := h'.calls n mid hmid
    exact ⟨after, hafter, hstays.trans hstays'⟩
  fetches := by
    intro i f hf
    obtain ⟨mid, hmid, hstays⟩ := h.fetches i f hf
    obtain ⟨after, hafter, hstays'⟩ := h'.fetches i mid hmid
    exact ⟨after, hafter, hstays.trans hstays'⟩

theorem later_step
    {m : Move}
    (h : Records c)
    (hflights : Flights c)
    (hstep : Step c m c') :
    Later c c' where
  limits := limits_step hstep
  now_le := now_le_step hstep
  cells_le := length_cells_le_step hstep
  slots := by
    intro s hs
    rcases slots_step hstep hs with hs | ⟨key, rfl⟩
    · exact Or.inl hs
    · exact Or.inr (Nat.le_refl _)
  content := (change_of_step hflights hstep).content_stays h
  calls := (change_of_step hflights hstep).callsStay
  fetches := (change_of_step hflights hstep).fetchesStay

end Later

end ModuleCache
end SidecarProxy
