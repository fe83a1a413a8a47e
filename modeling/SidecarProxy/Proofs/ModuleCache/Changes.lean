import SidecarProxy.Proofs.Except
import SidecarProxy.Proofs.ModuleCache.Flights

/-!
# What a step changes on record

Calls and fetches are noted for good, and so is what a cell was filled with.
Many steps look alike from there: a call that has sent nothing goes on, a fetch
is sent, or it comes to its end, with a table or without one.  Main statement:
every step is one of these.
-/

namespace SidecarProxy
namespace ModuleCache

open Catalog Route

section Changes

/-- What a cell is filled with. -/
def Cache.content
    (c : Cache) (k : Nat) : Option Loaded :=
  (c.cell k).content

/-- How a call may go on that has not sent a fetch. -/
inductive Cache.GoesOn (c : Cache) (call : Call) : Phase → Prop
  | waiting :
      GoesOn c call .waiting
  | abandoned :
      GoesOn c call .abandoned
  | returned
      {loaded : Loaded}
      (hcontent : c.content call.cell = some loaded) :
      GoesOn c call (.returned loaded)

/-- How a load may end that leaves its cell empty. -/
inductive Phase.InVain : Phase → Prop
  | failed (failure : ControlPlane.Failure) :
      InVain (.failed failure)
  | abandoned :
      InVain .abandoned

/-- What a step changes on record. -/
inductive Change (c c' : Cache) : Prop
  | quiet
      (hcalls : c'.calls = c.calls)
      (hfetches : c'.fetches = c.fetches)
      (hcontent : c'.content = c.content)
  | arrive
      (key : String)
      (h : c' = c.enter key)
  /-- A call that has not sent a fetch goes on. -/
  | move
      {n : Nat} {call : Call} {phase : Phase}
      (hcall : c.calls[n]? = some call)
      (hphase : call.phase = .entered ∨ call.phase = .waiting)
      (hnew : c.GoesOn call phase)
      (hcalls : c'.calls = (c.setPhase n phase).calls)
      (hfetches : c'.fetches = c.fetches)
      (hcontent : c'.content = c.content)
  /-- A call sends a fetch. -/
  | send
      {n : Nat} {call : Call}
      (hcall : c.calls[n]? = some call)
      (hphase : call.phase = .waiting)
      (hempty : c.content call.cell = none)
      (hcalls : c'.calls = (c.setPhase n (.loading c.fetches.length)).calls)
      (hfetches : c'.fetches = (c.openFetch n call).fetches)
      (hcontent : c'.content = c.content)
  /-- A fetch comes to its end without a table. -/
  | close
      {n : Nat} {call : Call} {i : Nat} {phase : Phase} {document : Option ModuleDescription}
      (hcall : c.calls[n]? = some call)
      (hphase : call.phase = .loading i)
      (hnew : phase.InVain)
      (hcalls : c'.calls = (c.setPhase n phase).calls)
      (hfetches : c'.fetches = (c.closeFetch i document).fetches)
      (hcontent : c'.content = c.content)
  /-- A fetch brings a table. -/
  | fill
      {n : Nat} {call : Call} {i : Nat} {d : ModuleDescription} {table : Table}
      (hcall : c.calls[n]? = some call)
      (hphase : call.phase = .loading i)
      (htable : Table.ofModule d none = .ok table)
      (hcalls : c'.calls = (c.setPhase n (.returned ⟨table, i⟩)).calls)
      (hfetches : c'.fetches = (c.closeFetch i (some d)).fetches)
      (hcontent : c'.content = Function.update c.content call.cell (some ⟨table, i⟩))

variable {c c' : Cache}

theorem content_setCell
    (c : Cache) (k : Nat) (cell : Cell)
    (hsame : cell.content = (c.cell k).content) :
    (c.setCell k cell).content = c.content := by
  funext j
  rw [Cache.content, Cache.content, cell_setCell]
  split
  · next hk => rw [hsame, hk.1]
  · rfl

theorem content_setCell_of_lt
    {k : Nat} {cell : Cell}
    (hk : k < c.cells.length) :
    (c.setCell k cell).content = Function.update c.content k cell.content := by
  funext j
  rw [Cache.content, cell_setCell, Function.update_apply]
  by_cases hj : j = k
  · rw [if_pos ⟨hj.symm, hk⟩, if_pos hj]
  · rw [if_neg (fun h => hj h.1.symm), if_neg hj]
    rfl

theorem content_enter
    (c : Cache) (key : String) :
    (c.enter key).content = c.content :=
  funext fun k => congrArg Cell.content (cell_enter c key k)

theorem compile_eq_ok
    {document : Except ControlPlane.Failure ModuleDescription} {table : Table}
    (h : Cache.compile document = .ok table) :
    ∃ d, document = .ok d ∧ Table.ofModule d none = .ok table := by
  cases document with
  | error e =>
      cases h
  | ok d =>
      exact ⟨d, rfl, eq_ok_of_mapError h⟩

theorem change_of_step
    {m : Move}
    (h : Flights c)
    (hstep : Step c m c') :
    Change c c' := by
  cases hstep with
  | pass nanos =>
      exact .quiet rfl rfl rfl
  | enter key =>
      exact .arrive key rfl
  | hit hcall hphase hcontent =>
      exact .move hcall (.inl hphase) (.returned hcontent) rfl rfl rfl
  | queue hcall hphase hcontent =>
      exact .move hcall (.inl hphase) .waiting rfl rfl
        (content_setCell (c.setPhase _ _) _ _ rfl)
  | load hcall hphase hcontent hloader hturn =>
      exact .send hcall hphase hcontent rfl rfl (content_setCell (c.setPhase _ _) _ _ rfl)
  | fill hcall hphase htable =>
      obtain ⟨d, rfl, hd⟩ := compile_eq_ok htable
      exact .fill hcall hphase hd rfl rfl (content_setCell_of_lt (h.call_lt _ _ hcall))
  | fail hcall hphase hfailure =>
      exact .close hcall hphase (.failed _) rfl rfl (content_setCell (c.setPhase _ _) _ _ rfl)
  | receive hcall hphase hcontent =>
      exact .move hcall (.inr hphase) (.returned hcontent) rfl rfl
        (content_setCell (c.setPhase _ _) _ _ rfl)
  | leave hcall hphase =>
      exact .move hcall (.inl hphase) .abandoned rfl rfl rfl
  | leaveLine hcall hphase =>
      exact .move hcall (.inr hphase) .abandoned rfl rfl
        (content_setCell (c.setPhase _ _) _ _ rfl)
  | stop hcall hphase =>
      exact .close hcall hphase .abandoned rfl rfl (content_setCell (c.setPhase _ _) _ _ rfl)
  | invalidate key =>
      exact .quiet rfl rfl rfl

end Changes

section Lookups

variable {c : Cache}

theorem calls_setPhase_self
    {n : Nat} {call : Call}
    (hcall : c.calls[n]? = some call)
    (phase : Phase) :
    (c.setPhase n phase).calls[n]? = some { call with phase := phase } :=
  (calls_setPhase_eq_some_iff c n n phase _).2 ⟨call, hcall, (if_pos rfl).symm⟩

theorem calls_setPhase_of_ne
    {n m : Nat}
    (hne : m ≠ n)
    (phase : Phase) :
    (c.setPhase n phase).calls[m]? = c.calls[m]? := by
  simp [Cache.setPhase, hne.symm]

/-- A call that is looked up is the one that has gone on, or another one, as it was. -/
theorem calls_setPhase_cases
    {n m : Nat} {call after : Call} {phase : Phase}
    (hcall : c.calls[n]? = some call)
    (hafter : (c.setPhase n phase).calls[m]? = some after) :
    (m = n ∧ after = { call with phase := phase }) ∨ (m ≠ n ∧ c.calls[m]? = some after) := by
  by_cases hm : m = n
  · subst hm
    rw [calls_setPhase_self hcall] at hafter
    exact Or.inl ⟨rfl, (Option.some.inj hafter).symm⟩
  · rw [calls_setPhase_of_ne hm] at hafter
    exact Or.inr ⟨hm, hafter⟩

theorem fetches_closeFetch_eq_some_iff
    (c : Cache) (i j : Nat) (document : Option ModuleDescription) (f : Fetch) :
    (c.closeFetch i document).fetches[j]? = some f ↔
      ∃ before, c.fetches[j]? = some before ∧
        f = if i = j then { before with document := document, pending := false } else before := by
  simp only [Cache.closeFetch, List.getElem?_modify, Option.map_eq_map, Option.map_eq_some_iff]
  grind

theorem fetches_openFetch_of_eq_some
    {i : Nat} {f : Fetch}
    (n : Nat) (call : Call)
    (hf : c.fetches[i]? = some f) :
    (c.openFetch n call).fetches[i]? = some f :=
  (List.getElem?_append_left (List.getElem?_eq_some_iff.1 hf).1).trans hf

theorem fetches_openFetch_cases
    {n i : Nat} {call : Call} {f : Fetch}
    (hf : (c.openFetch n call).fetches[i]? = some f) :
    c.fetches[i]? = some f ∨
      i = c.fetches.length ∧ f = { key := call.key, call := n, since := c.now } := by
  rw [Cache.openFetch, List.getElem?_append] at hf
  split at hf
  · exact Or.inl hf
  · next hi =>
      rw [List.getElem?_singleton] at hf
      split at hf
      · cases hf
        exact Or.inr ⟨by omega, rfl⟩
      · cases hf

end Lookups

end ModuleCache
end SidecarProxy
