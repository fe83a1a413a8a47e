import SidecarProxy.ModuleCache.Run
import SidecarProxy.Proofs.ModuleCache.Arrival

/-!
# What the cache serves

A key is served when a call for it returns a table although nobody is asked.
Main statements: a call whose cell is empty returns nothing as long as no answer
brings a table, and a key is served exactly when it has a fresh slot with a
table in its cell.
-/

namespace SidecarProxy
namespace ModuleCache

open Catalog Route

section Get

variable {σ : Type}

/-- A call for one table starts, and the first answer is delivered. -/
theorem get_eq
    (c : Cache) (ask : Source σ) (key : String) (s : σ) :
    c.get ask key s =
      let r := ((⟨c, s, []⟩ : Running σ).start ask key).deliver ask
      ((resultOf r.cache c.calls.length).getD (.error (.transport "")), r.cache, r.source) := by
  simp only [Cache.get, Cache.getAll, List.foldl_cons, List.foldl_nil, List.length_singleton,
    Running.deliverAll, List.range_one]
  cases hresult : resultOf
    (((⟨c, s, []⟩ : Running σ).start ask key).deliver ask).cache c.calls.length with
  | none =>
      simp [List.filterMap, hresult]
  | some result =>
      simp [List.filterMap, hresult]

theorem start_eq
    {c next : Cache} {key : String}
    (ask : Source σ) (s : σ)
    (hlook : (c.enter key).move? (.look c.calls.length) = some next) :
    (⟨c, s, []⟩ : Running σ).start ask key =
      (⟨next, s, []⟩ : Running σ).tryBegin ask c.calls.length := by
  simp only [Running.start, Running.move]
  rw [Cache.move?, Option.getD_some, hlook, Option.getD_some]

end Get

section Serves

variable {c c' : Cache} {key : String}

/-- Whether a call for a key returns a table although nobody is asked. -/
def Cache.Serves (c : Cache) (key : String) : Prop :=
  ∀ (σ : Type) (ask : Source σ) (s : σ), ∃ (table : Table) (after : Cache),
    c.get ask key s = (.ok table, after, s) ∧ after.fetches = c.fetches

/-- Moves other than answers that bring a table. -/
def Move.Fruitless : Move → Prop
  | .answer _ document => ∀ table, Cache.compile document ≠ .ok table
  | _ => True

/-- A call that has not returned and whose cell is empty. -/
def Unserved (n : Nat) (c : Cache) : Prop :=
  ∃ call, c.calls[n]? = some call ∧ (c.cell call.cell).content = none ∧
    ∀ loaded, call.phase ≠ .returned loaded

theorem Unserved.setPhase
    {n m : Nat} {phase : Phase}
    (h : Unserved n c)
    (hphase : m = n → ∀ loaded, phase ≠ .returned loaded) :
    Unserved n (c.setPhase m phase) := by
  obtain ⟨call, hcall, hcontent, hopen⟩ := h
  refine ⟨_, (calls_setPhase_eq_some_iff c m n phase _).2 ⟨call, hcall, rfl⟩, ?_, ?_⟩
  · split <;> exact hcontent
  · split
    · next hm => exact hphase hm
    · exact hopen

theorem Unserved.setCell
    {n k : Nat} {cell : Cell}
    (h : Unserved n c)
    (hcontent : cell.content = (c.cell k).content) :
    Unserved n (c.setCell k cell) := by
  obtain ⟨call, hcall, hempty, hopen⟩ := h
  refine ⟨call, hcall, ?_, hopen⟩
  rw [cell_setCell]
  split
  · next hk => rw [hcontent, hk.1, hempty]
  · exact hempty

theorem Unserved.ne_of_content
    {n m : Nat} {call : Call} {loaded : Loaded}
    (h : Unserved n c)
    (hcall : c.calls[m]? = some call)
    (hcontent : (c.cell call.cell).content = some loaded) :
    m ≠ n := by
  rintro rfl
  obtain ⟨own, hown, hempty, -⟩ := h
  cases hcall.symm.trans hown
  cases hcontent.symm.trans hempty

/-- A call finds nothing in its cell as long as no answer brings a table. -/
theorem unserved_step
    {n : Nat} {m : Move}
    (h : Unserved n c)
    (hstep : Step c m c')
    (hm : m.Fruitless) :
    Unserved n c' := by
  cases hstep with
  | pass nanos =>
      exact h
  | enter key =>
      obtain ⟨call, hcall, hcontent, hopen⟩ := h
      refine ⟨call, calls_enter_of_eq_some key hcall, ?_, hopen⟩
      rw [cell_enter, hcontent]
  | hit hcall hphase hcontent =>
      exact h.setPhase (fun hn => absurd hn (h.ne_of_content hcall hcontent))
  | queue hcall hphase hcontent =>
      exact (h.setPhase (by simp)).setCell rfl
  | load hcall hphase hcontent hloader hturn =>
      exact (h.setPhase (by simp)).setCell rfl
  | fill hcall hphase htable =>
      exact absurd htable (hm _)
  | fail hcall hphase hfailure =>
      exact (h.setPhase (by simp)).setCell rfl
  | receive hcall hphase hcontent =>
      exact (h.setPhase (fun hn => absurd hn (h.ne_of_content hcall hcontent))).setCell rfl
  | leave hcall hphase =>
      exact h.setPhase (by simp)
  | leaveLine hcall hphase =>
      exact (h.setPhase (by simp)).setCell rfl
  | stop hcall hphase =>
      exact (h.setPhase (by simp)).setCell rfl
  | invalidate key =>
      exact h

theorem unserved_enter
    (hempty : (c.cell (c.slotOf key).cell).content = none) :
    Unserved c.calls.length (c.enter key) := by
  refine ⟨_, List.getElem?_concat_length, ?_, by simp⟩
  rw [cell_enter]
  exact hempty

end Serves

section Refused

variable {σ : Type} {ask : Source σ} {n : Nat} {r : Running σ}

/-- A call that is not served, when no answer under way brings a table. -/
structure Refused (n : Nat) (r : Running σ) : Prop where
  unserved : Unserved n r.cache
  awaited : ∀ p ∈ r.awaited, ∀ table, Cache.compile p.2 ≠ .ok table

theorem Refused.move
    (h : Refused n r)
    {m : Move}
    (hm : m.Fruitless) :
    Refused n (r.move m) := by
  refine ⟨?_, h.awaited⟩
  unfold Running.move
  cases hmove : r.cache.move? m with
  | none =>
      exact h.unserved
  | some next =>
      exact unserved_step h.unserved (step_of_move? hmove) hm

theorem Refused.receiveAll
    (h : Refused n r)
    (line : List Nat) :
    Refused n (line.foldl (fun r m => r.move (.receive m)) r) := by
  induction line generalizing r with
  | nil =>
      exact h
  | cons m line ih =>
      exact ih (h.move trivial)

variable (hask : ∀ key s table, Cache.compile (ask key s).1 ≠ .ok table)

include hask

theorem Refused.tryBegin
    (h : Refused n r)
    (m : Nat) :
    Refused n (r.tryBegin ask m) := by
  unfold Running.tryBegin
  split
  · next call cache hcall hmove =>
      refine ⟨unserved_step h.unserved (step_of_move? hmove) trivial, ?_⟩
      intro p hp
      rcases List.mem_append.1 hp with hp | hp
      · exact h.awaited p hp
      · cases List.mem_singleton.1 hp
        exact hask call.key r.source
  · exact h

theorem Refused.wake
    (h : Refused n r)
    (cell : Nat) :
    Refused n (r.wake ask cell) := by
  unfold Running.wake
  split
  · exact h.receiveAll _
  · exact h.tryBegin hask _
  · exact h

theorem Refused.deliver
    (h : Refused n r) :
    Refused n (r.deliver ask) := by
  unfold Running.deliver
  split
  · exact h
  · next m document rest hawaited =>
      have hrest : Refused n { r with awaited := rest } :=
        ⟨h.unserved, fun p hp => h.awaited p (hawaited ▸ List.mem_cons_of_mem _ hp)⟩
      have hfruitless : Move.Fruitless (.answer m document) :=
        h.awaited (m, document) (hawaited ▸ List.mem_cons_self)
      exact (hrest.move hfruitless).wake hask _

end Refused

section Iff

variable {c : Cache} {key : String}

/-- A source that has nothing. -/
def refuse : Source Unit :=
  fun _ s => (.error (.transport ""), s)

theorem compile_refuse
    (key : String) (s : Unit) (table : Table) :
    Cache.compile (refuse key s).1 ≠ .ok table :=
  nofun

theorem refused_start
    (hempty : (c.cell (c.slotOf key).cell).content = none) :
    Refused c.calls.length ((⟨c, (), []⟩ : Running Unit).start refuse key) := by
  have hentered : Refused c.calls.length (⟨c.enter key, (), []⟩ : Running Unit) :=
    ⟨unserved_enter hempty, by simp⟩
  have hlooked := hentered.move (m := .look c.calls.length) trivial
  exact hlooked.tryBegin compile_refuse c.calls.length

theorem resultOf_ne_of_unserved
    {n : Nat}
    (h : Unserved n c)
    (table : Table) :
    resultOf c n ≠ some (.ok table) := by
  obtain ⟨⟨key, cell, since, phase⟩, hcall, -, hopen⟩ := h
  unfold resultOf
  rw [hcall]
  cases phase with
  | returned loaded =>
      exact absurd rfl (hopen loaded)
  | _ =>
      simp

theorem not_serves_of_empty
    (hempty : (c.cell (c.slotOf key).cell).content = none) :
    ¬ c.Serves key := by
  intro hserves
  -- To be served means to be served whoever is asked, so a source that has nothing will do.
  obtain ⟨table, after, hget, -⟩ := hserves Unit refuse ()
  have hrefused := (refused_start hempty).deliver compile_refuse
  have hne := resultOf_ne_of_unserved hrefused.unserved table
  rw [get_eq] at hget
  have hresult := congrArg Prod.fst hget
  dsimp only at hresult
  cases hof : resultOf
    (((⟨c, (), []⟩ : Running Unit).start refuse key).deliver refuse).cache c.calls.length with
  | none =>
      rw [hof] at hresult
      cases hresult
  | some result =>
      rw [hof, Option.getD_some] at hresult
      exact hne (hof.trans (congrArg some hresult))

theorem cell_length
    (c : Cache) :
    c.cell c.cells.length = {} := by
  simp [Cache.cell]

/-- The cache behind a call that finds a table. -/
def Cache.found (c : Cache) (key : String) (slot : Slot) (loaded : Loaded) : Cache :=
  { c with
    calls := c.calls ++
      [{ key := key, cell := slot.cell, since := c.now, phase := .returned loaded }]
    events := c.events ++ [Cache.counted .hit] }

theorem start_of_loaded
    {σ : Type} {slot : Slot} {loaded : Loaded}
    (ask : Source σ) (s : σ)
    (hfind : c.slots.find? key = some slot)
    (hfresh : slot.isFresh c.limits c.now = true)
    (hcontent : (c.cell slot.cell).content = some loaded) :
    (⟨c, s, []⟩ : Running σ).start ask key = ⟨c.found key slot loaded, s, []⟩ := by
  have hold : slot.cell ≠ c.cells.length := by
    intro hcell
    rw [hcell, cell_length] at hcontent
    cases hcontent
  have henter : c.enter key =
      { c with calls := c.calls ++ [{ key := key, cell := slot.cell, since := c.now }] } := by
    unfold Cache.enter
    rw [slotFor_of_fresh c.cells.length hfind hfresh]
    dsimp only
    rw [if_neg hold]
  have hcall : (c.enter key).calls[c.calls.length]? =
      some { key := key, cell := slot.cell, since := c.now } := by
    rw [henter]
    exact List.getElem?_concat_length
  have hlook : (c.enter key).move? (.look c.calls.length) = some (c.found key slot loaded) := by
    rw [move?_of_step (Step.hit hcall rfl (by rw [cell_enter, hcontent])), henter]
    simp [Cache.setPhase, Cache.count, modify_append_last, Cache.found]
  have hbegin : (c.found key slot loaded).move? (.begin c.calls.length) = none := by
    simp [Cache.found, Cache.move?]
  rw [start_eq ask s hlook, Running.tryBegin, hbegin]
  split
  · next h => cases h
  · rfl

theorem serves_of_loaded
    {slot : Slot} {loaded : Loaded}
    (hfind : c.slots.find? key = some slot)
    (hfresh : slot.isFresh c.limits c.now = true)
    (hcontent : (c.cell slot.cell).content = some loaded) :
    c.Serves key := by
  intro σ ask s
  refine ⟨loaded.table, c.found key slot loaded, ?_, rfl⟩
  rw [get_eq, start_of_loaded ask s hfind hfresh hcontent]
  have hresult : resultOf (c.found key slot loaded) c.calls.length = some (.ok loaded.table) := by
    simp [resultOf, Cache.found]
  simp only [Running.deliver, hresult, Option.getD_some]

/-- A key is served exactly when it has a fresh slot with a table in its cell. -/
theorem serves_iff
    (c : Cache) (key : String) :
    c.Serves key ↔
      ∃ slot loaded, c.slots.find? key = some slot ∧ slot.isFresh c.limits c.now = true ∧
        (c.cell slot.cell).content = some loaded := by
  refine ⟨?_, ?_⟩
  · intro hserves
    have hcontent : (c.cell (c.slotOf key).cell).content ≠ none :=
      fun hempty => not_serves_of_empty hempty hserves
    unfold Cache.slotOf at hcontent
    rcases slotFor_cases c.limits c.now c.cells.length key c.slots with
      ⟨-, hmade⟩ | ⟨slot, hfind, hfresh, hmade⟩ | ⟨slot, -, -, hmade⟩ <;>
      rw [hmade] at hcontent
    · exact absurd (congrArg Cell.content (cell_length c)) hcontent
    · obtain ⟨loaded, hloaded⟩ := Option.ne_none_iff_exists'.1 hcontent
      exact ⟨slot, loaded, hfind, hfresh, hloaded⟩
    · exact absurd (congrArg Cell.content (cell_length c)) hcontent
  · rintro ⟨slot, loaded, hfind, hfresh, hcontent⟩
    exact serves_of_loaded hfind hfresh hcontent

end Iff

end ModuleCache
end SidecarProxy
