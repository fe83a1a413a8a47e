import SidecarProxy.Proofs.ModuleCache.Changes

/-!
# How the records fit together

A call sends one fetch at most, what stands in a cell was brought by the fetch
of a call that holds it, and whoever returned a table took it from the cell.
Main statement: every step keeps it so.
-/

namespace SidecarProxy
namespace ModuleCache

open Catalog Route

section Notes

/-- A call has sent a fetch. -/
def Cache.SentBy
    (c : Cache) (i n : Nat) : Prop :=
  ∃ f, c.fetches[i]? = some f ∧ f.call = n

/-- How a call may stand that has sent a fetch. -/
inductive Phase.HasSent (i : Nat) : Phase → Prop
  | loading :
      HasSent i (.loading i)
  | returned (table : Table) :
      HasSent i (.returned ⟨table, i⟩)
  | failed (failure : ControlPlane.Failure) :
      HasSent i (.failed failure)
  | abandoned :
      HasSent i .abandoned

/-- What the phase of a call says of its fetch and of the cell that it has. -/
inductive Cache.Backs (c : Cache) (n k : Nat) : Phase → Prop
  | entered :
      Backs c n k .entered
  | waiting :
      Backs c n k .waiting
  | loading
      {i : Nat}
      (hempty : c.content k = none)
      (hsent : c.SentBy i n) :
      Backs c n k (.loading i)
  | returned
      {loaded : Loaded}
      (hcontent : c.content k = some loaded) :
      Backs c n k (.returned loaded)
  | failed
      {i : Nat}
      (failure : ControlPlane.Failure)
      (hsent : c.SentBy i n) :
      Backs c n k (.failed failure)
  | abandoned :
      Backs c n k .abandoned

/-- A table was brought to a cell by the fetch of a call that has this cell. -/
def Cache.BroughtTo
    (c : Cache) (k : Nat) (loaded : Loaded) : Prop :=
  ∃ f call d, c.fetches[loaded.fetch]? = some f ∧ c.calls[f.call]? = some call ∧
    call.cell = k ∧ call.phase = .returned loaded ∧
      f.document = some d ∧ Table.ofModule d none = .ok loaded.table

/-- The notes fit together. -/
structure Records (c : Cache) : Prop where
  sent :
    ∀ (i : Nat) (f : Fetch), c.fetches[i]? = some f →
      ∃ call, c.calls[f.call]? = some call ∧ call.key = f.key ∧ call.phase.HasSent i
  once : ∀ (i j n : Nat), c.SentBy i n → c.SentBy j n → i = j
  backs :
    ∀ (n : Nat) (call : Call), c.calls[n]? = some call → c.Backs n call.cell call.phase
  filled : ∀ (k : Nat) (loaded : Loaded), c.content k = some loaded → c.BroughtTo k loaded

theorem records_initial
    (limits : Limits) :
    Records { limits := limits } where
  sent := by simp
  once := by simp [Cache.SentBy]
  backs := by simp
  filled := by simp [Cache.content, Cache.cell]

variable {c c' : Cache}

theorem Records.loading
    (h : Records c)
    {n : Nat} {call : Call} {i : Nat}
    (hcall : c.calls[n]? = some call)
    (hphase : call.phase = .loading i) :
    c.content call.cell = none ∧ c.SentBy i n := by
  have hbacks := h.backs n call hcall
  rw [hphase] at hbacks
  cases hbacks with
  | loading hempty hsent => exact ⟨hempty, hsent⟩

theorem Records.returned
    (h : Records c)
    {n : Nat} {call : Call} {loaded : Loaded}
    (hcall : c.calls[n]? = some call)
    (hphase : call.phase = .returned loaded) :
    c.content call.cell = some loaded := by
  have hbacks := h.backs n call hcall
  rw [hphase] at hbacks
  cases hbacks with
  | returned hcontent => exact hcontent

theorem Records.failed
    (h : Records c)
    {n : Nat} {call : Call} {failure : ControlPlane.Failure}
    (hcall : c.calls[n]? = some call)
    (hphase : call.phase = .failed failure) :
    ∃ i, c.SentBy i n := by
  have hbacks := h.backs n call hcall
  rw [hphase] at hbacks
  cases hbacks with
  | failed _ hsent => exact ⟨_, hsent⟩

theorem Cache.Backs.congr
    {n k : Nat} {phase : Phase}
    (h : c.Backs n k phase)
    (hcontent : c'.content k = c.content k)
    (hsentBy : ∀ i, c.SentBy i n → c'.SentBy i n) :
    c'.Backs n k phase := by
  cases h with
  | entered => exact .entered
  | waiting => exact .waiting
  | loading hempty hsent => exact .loading (hcontent.trans hempty) (hsentBy _ hsent)
  | returned hloaded => exact .returned (hcontent.trans hloaded)
  | failed failure hsent => exact .failed failure (hsentBy _ hsent)
  | abandoned => exact .abandoned

theorem Cache.BroughtTo.congr
    {k : Nat} {loaded : Loaded}
    (h : c.BroughtTo k loaded)
    (hfetches :
      ∀ f, c.fetches[loaded.fetch]? = some f → c'.fetches[loaded.fetch]? = some f)
    (hcalls :
      ∀ (n : Nat) (call : Call), c.calls[n]? = some call → call.phase = .returned loaded →
        c'.calls[n]? = some call) :
    c'.BroughtTo k loaded := by
  obtain ⟨f, call, d, hf, hcall, hcell, hreturned, hrest⟩ := h
  exact ⟨f, call, d, hfetches f hf, hcalls _ call hcall hreturned, hcell, hreturned, hrest⟩

end Notes

section Kept

variable {c c' : Cache}

theorem Records.congr
    (h : Records c)
    (hcalls : c'.calls = c.calls)
    (hfetches : c'.fetches = c.fetches)
    (hcontent : c'.content = c.content) :
    Records c' := by
  have hsentBy : ∀ i n, c'.SentBy i n ↔ c.SentBy i n := by
    simp [Cache.SentBy, hfetches]
  constructor
  case sent =>
    rw [hfetches, hcalls]
    exact h.sent
  case once =>
    simp only [hsentBy]
    exact h.once
  case backs =>
    intro n call hcall
    rw [hcalls] at hcall
    exact (h.backs n call hcall).congr (congrFun hcontent _) (fun i => (hsentBy i n).2)
  case filled =>
    rw [hcontent]
    exact fun k loaded hloaded => (h.filled k loaded hloaded).congr
      (fun _ hf => hfetches ▸ hf) (fun _ _ hcall _ => hcalls ▸ hcall)

/-- A call that has not sent a fetch is not the sender of any. -/
theorem Records.sender_ne
    (h : Records c)
    {n : Nat} {call : Call}
    (hcall : c.calls[n]? = some call)
    (hphase : ∀ i, ¬ call.phase.HasSent i)
    {i : Nat} {f : Fetch}
    (hf : c.fetches[i]? = some f) :
    f.call ≠ n := by
  rintro rfl
  obtain ⟨owner, howner, -, hsent⟩ := h.sent i f hf
  cases hcall.symm.trans howner
  exact hphase i hsent

/-- A call that has returned is not the one that goes on. -/
theorem returned_setPhase
    {n m : Nat} {call after : Call} {phase : Phase} {loaded : Loaded}
    (hcall : c.calls[n]? = some call)
    (hopen : call.phase ≠ .returned loaded)
    (hafter : c.calls[m]? = some after)
    (hreturned : after.phase = .returned loaded) :
    (c.setPhase n phase).calls[m]? = some after := by
  rw [calls_setPhase_of_ne, hafter]
  rintro rfl
  cases hcall.symm.trans hafter
  exact hopen hreturned

theorem Records.enter
    (h : Records c)
    (key : String) :
    Records (c.enter key) where
  sent := by
    intro i f hf
    obtain ⟨call, hcall, hrest⟩ := h.sent i f hf
    exact ⟨call, calls_enter_of_eq_some key hcall, hrest⟩
  once := h.once
  backs := by
    intro n call hcall
    rcases calls_enter_eq_some hcall with hcall | rfl
    · exact (h.backs n call hcall).congr (congrFun (content_enter c key) _) (fun _ hsent => hsent)
    · exact .entered
  filled := by
    intro k loaded hloaded
    rw [content_enter] at hloaded
    exact (h.filled k loaded hloaded).congr (fun _ hf => hf)
      (fun _ _ hcall _ => calls_enter_of_eq_some key hcall)

theorem not_hasSent
    {phase : Phase}
    (hphase : phase = .entered ∨ phase = .waiting)
    (i : Nat) :
    ¬ phase.HasSent i := by
  rintro hsent
  rcases hphase with rfl | rfl <;> cases hsent

theorem Records.move
    (h : Records c)
    {n : Nat} {call : Call} {phase : Phase}
    (hcall : c.calls[n]? = some call)
    (hphase : call.phase = .entered ∨ call.phase = .waiting)
    (hnew : c.GoesOn call phase) :
    Records (c.setPhase n phase) where
  sent := by
    intro i f hf
    obtain ⟨owner, howner, hrest⟩ := h.sent i f hf
    have hne := h.sender_ne hcall (not_hasSent hphase) hf
    exact ⟨owner, (calls_setPhase_of_ne hne phase).trans howner, hrest⟩
  once := h.once
  backs := by
    intro m after hafter
    rcases calls_setPhase_cases hcall hafter with ⟨rfl, rfl⟩ | ⟨-, hafter⟩
    · cases hnew with
      | waiting => exact .waiting
      | abandoned => exact .abandoned
      | returned hcontent => exact .returned hcontent
    · exact (h.backs m after hafter).congr rfl (fun _ hsent => hsent)
  filled := by
    intro k loaded hloaded
    have hopen : call.phase ≠ .returned loaded := by
      rcases hphase with hphase | hphase <;> simp [hphase]
    exact (h.filled k loaded hloaded).congr (fun _ hf => hf)
      (fun m after hafter => returned_setPhase hcall hopen hafter)

theorem Records.send
    (h : Records c)
    {n : Nat} {call : Call}
    (hcall : c.calls[n]? = some call)
    (hphase : call.phase = .waiting)
    (hempty : c.content call.cell = none) :
    Records ((c.setPhase n (.loading c.fetches.length)).openFetch n call) where
  sent := by
    intro i f hf
    rcases fetches_openFetch_cases hf with hf | ⟨rfl, rfl⟩
    · obtain ⟨owner, howner, hrest⟩ := h.sent i f hf
      have hne := h.sender_ne hcall (not_hasSent (.inr hphase)) hf
      exact ⟨owner, (calls_setPhase_of_ne hne _).trans howner, hrest⟩
    · exact ⟨_, calls_setPhase_self hcall _, rfl, .loading⟩
  once := by
    rintro i j m ⟨f, hf, hfm⟩ ⟨g, hg, hgm⟩
    have hnew := fun {i : Nat} {f : Fetch} (hf : c.fetches[i]? = some f) =>
      h.sender_ne hcall (not_hasSent (.inr hphase)) hf
    rcases fetches_openFetch_cases hf with hf | ⟨hi, rfl⟩ <;>
      rcases fetches_openFetch_cases hg with hg | ⟨hj, rfl⟩
    · exact h.once i j m ⟨f, hf, hfm⟩ ⟨g, hg, hgm⟩
    · exact absurd (hfm.trans hgm.symm) (hnew hf)
    · exact absurd (hgm.trans hfm.symm) (hnew hg)
    · exact hi.trans hj.symm
  backs := by
    intro m after hafter
    rcases calls_setPhase_cases hcall hafter with ⟨rfl, rfl⟩ | ⟨-, hafter⟩
    · exact .loading hempty ⟨_, List.getElem?_concat_length, rfl⟩
    · refine (h.backs m after hafter).congr rfl ?_
      rintro i ⟨f, hf, hfm⟩
      exact ⟨f, fetches_openFetch_of_eq_some n call hf, hfm⟩
  filled := by
    intro k loaded hloaded
    exact (h.filled k loaded hloaded).congr
      (fun _ hf => fetches_openFetch_of_eq_some n call hf)
      (fun m after hafter => returned_setPhase hcall (by simp [hphase]) hafter)

theorem sentBy_closeFetch_iff
    (c : Cache) (i : Nat) (document : Option ModuleDescription) (j n : Nat) :
    (c.closeFetch i document).SentBy j n ↔ c.SentBy j n := by
  simp only [Cache.SentBy, fetches_closeFetch_eq_some_iff]
  grind

/-- The call whose fetch comes to its end is the only one whose note changes. -/
theorem Records.sent_land
    (h : Records c)
    {n : Nat} {call : Call} {i j : Nat} {phase : Phase} {f : Fetch}
    {document : Option ModuleDescription}
    (hcall : c.calls[n]? = some call)
    (hphase : call.phase = .loading i)
    (hnew : phase.HasSent i)
    (hf : (c.closeFetch i document).fetches[j]? = some f) :
    ∃ owner, (c.setPhase n phase).calls[f.call]? = some owner ∧
      owner.key = f.key ∧ owner.phase.HasSent j := by
  obtain ⟨before, hbefore, hsame⟩ := (fetches_closeFetch_eq_some_iff c i j document f).1 hf
  have hfields : f.call = before.call ∧ f.key = before.key := by
    rw [hsame]
    split <;> exact ⟨rfl, rfl⟩
  rw [hfields.1, hfields.2]
  obtain ⟨owner, howner, hkey, hsent⟩ := h.sent j before hbefore
  by_cases hn : before.call = n
  · subst hn
    cases hcall.symm.trans howner
    rw [hphase] at hsent
    cases hsent
    exact ⟨_, calls_setPhase_self hcall phase, hkey, hnew⟩
  · exact ⟨owner, (calls_setPhase_of_ne hn phase).trans howner, hkey, hsent⟩

/-- A cell that is filled is not touched by the end of another fetch. -/
theorem Records.filled_land
    (h : Records c)
    {n : Nat} {call : Call} {i k : Nat} {phase : Phase} {loaded : Loaded}
    {document : Option ModuleDescription}
    (hcall : c.calls[n]? = some call)
    (hphase : call.phase = .loading i)
    (hfetches : c'.fetches = (c.closeFetch i document).fetches)
    (hcalls : c'.calls = (c.setPhase n phase).calls)
    (hloaded : c.content k = some loaded) :
    c'.BroughtTo k loaded := by
  -- The fetch that brought the table is not the one of the call that loads.
  have hother : i ≠ loaded.fetch := by
    rintro rfl
    obtain ⟨f, owner, d, hf, howner, -, hreturned, -⟩ := h.filled k loaded hloaded
    obtain ⟨-, g, hg, rfl⟩ := h.loading hcall hphase
    cases hf.symm.trans hg
    cases hcall.symm.trans howner
    cases hphase.symm.trans hreturned
  refine (h.filled k loaded hloaded).congr ?_ ?_
  · intro f hf
    rw [hfetches]
    exact (fetches_closeFetch_eq_some_iff c i _ document f).2 ⟨f, hf, (if_neg hother).symm⟩
  · intro m after hafter hreturned
    rw [hcalls]
    exact returned_setPhase hcall (by simp [hphase]) hafter hreturned

theorem Records.close
    (h : Records c)
    {n : Nat} {call : Call} {i : Nat} {phase : Phase} {document : Option ModuleDescription}
    (hcall : c.calls[n]? = some call)
    (hphase : call.phase = .loading i)
    (hnew : phase.InVain) :
    Records ((c.setPhase n phase).closeFetch i document) where
  sent := by
    intro j f hf
    refine h.sent_land hcall hphase ?_ hf
    cases hnew with
    | failed failure => exact .failed failure
    | abandoned => exact .abandoned
  once := by
    intro j j' m
    rw [sentBy_closeFetch_iff, sentBy_closeFetch_iff]
    exact h.once j j' m
  backs := by
    have hsentBy := fun m j => (sentBy_closeFetch_iff c i document j m).2
    intro m after hafter
    rcases calls_setPhase_cases hcall hafter with ⟨rfl, rfl⟩ | ⟨-, hafter⟩
    · cases hnew with
      | failed failure => exact .failed failure (hsentBy m i (h.loading hcall hphase).2)
      | abandoned => exact .abandoned
    · exact (h.backs m after hafter).congr rfl (hsentBy m)
  filled := fun k loaded hloaded => h.filled_land hcall hphase rfl rfl hloaded

/-- Only one call loads a cell, so no one else is affected when it is filled. -/
theorem Records.fill
    (h : Records c)
    (hflights : Flights c)
    {n : Nat} {call : Call} {i : Nat} {d : ModuleDescription} {table : Table}
    (hcall : c.calls[n]? = some call)
    (hphase : call.phase = .loading i)
    (htable : Table.ofModule d none = .ok table)
    (hcalls : c'.calls = (c.setPhase n (.returned ⟨table, i⟩)).calls)
    (hfetches : c'.fetches = (c.closeFetch i (some d)).fetches)
    (hcontent : c'.content = Function.update c.content call.cell (some ⟨table, i⟩)) :
    Records c' := by
  have hsentBy : ∀ j m, c'.SentBy j m ↔ c.SentBy j m := by
    intro j m
    rw [← sentBy_closeFetch_iff c i (some d), Cache.SentBy, hfetches]
    rfl
  obtain ⟨hempty, g, hg, hgn⟩ := h.loading hcall hphase
  constructor
  case sent =>
    intro j f hf
    rw [hfetches] at hf
    rw [hcalls]
    exact h.sent_land hcall hphase (.returned table) hf
  case once =>
    intro j j' m
    rw [hsentBy, hsentBy]
    exact h.once j j' m
  case backs =>
    intro m after hafter
    rw [hcalls] at hafter
    rcases calls_setPhase_cases hcall hafter with ⟨rfl, rfl⟩ | ⟨hne, hafter⟩
    · exact .returned (by rw [hcontent, Function.update_self])
    · -- Another call with this cell is not there to load, and it has returned nothing.
      by_cases hcell : after.cell = call.cell
      · cases hphase' : after.phase with
        | loading j =>
            have hnoted := hflights.loader m after j hafter hphase'
            rw [hcell, hflights.loader n call i hcall hphase] at hnoted
            exact absurd (Option.some.inj hnoted).symm hne
        | returned loaded =>
            have hloaded := h.returned hafter hphase'
            rw [hcell, hempty] at hloaded
            cases hloaded
        | failed failure =>
            obtain ⟨j, hsent⟩ := h.failed hafter hphase'
            exact .failed failure ((hsentBy j m).2 hsent)
        | entered => exact .entered
        | waiting => exact .waiting
        | abandoned => exact .abandoned
      · refine (h.backs m after hafter).congr ?_ (fun j => (hsentBy j m).2)
        rw [hcontent, Function.update_of_ne hcell]
  case filled =>
    intro k loaded hloaded
    rw [hcontent] at hloaded
    by_cases hk : k = call.cell
    · rw [hk, Function.update_self] at hloaded
      cases hloaded
      have hclosed := (fetches_closeFetch_eq_some_iff c i i (some d) _).2
        ⟨g, hg, (if_pos rfl).symm⟩
      rw [Cache.BroughtTo, hfetches, hcalls]
      refine ⟨_, { call with phase := .returned ⟨table, i⟩ }, d, hclosed, ?_, hk.symm, rfl, rfl,
        htable⟩
      rw [hgn]
      exact calls_setPhase_self hcall _
    · rw [Function.update_of_ne hk] at hloaded
      exact h.filled_land hcall hphase hfetches hcalls hloaded

theorem records_step
    {m : Move}
    (h : Records c)
    (hflights : Flights c)
    (hstep : Step c m c') :
    Records c' := by
  cases change_of_step hflights hstep with
  | quiet hcalls hfetches hcontent =>
      exact h.congr hcalls hfetches hcontent
  | arrive key harrive =>
      exact harrive ▸ h.enter key
  | move hcall hphase hnew hcalls hfetches hcontent =>
      exact (h.move hcall hphase hnew).congr hcalls hfetches hcontent
  | send hcall hphase hempty hcalls hfetches hcontent =>
      exact (h.send hcall hphase hempty).congr hcalls hfetches hcontent
  | close hcall hphase hnew hcalls hfetches hcontent =>
      exact (h.close hcall hphase hnew).congr hcalls hfetches hcontent
  | fill hcall hphase htable hcalls hfetches hcontent =>
      exact h.fill hflights hcall hphase htable hcalls hfetches hcontent

end Kept

end ModuleCache
end SidecarProxy
