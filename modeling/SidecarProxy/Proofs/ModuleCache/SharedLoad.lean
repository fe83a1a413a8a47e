import SidecarProxy.Proofs.ModuleCache.Answers
import Mathlib.Data.Finset.Card
import Mathlib.Data.Finset.Image

/-!
# Callers that share a load

All calls for a key take the same slot as long as it is kept and fresh, and the
cell of this slot is filled once.  So each of them loads for itself in vain, or
gets the table that the one successful load brought.  Main statement: there are
as many fetches as calls that fail, and one more if any succeeds; who fails is
told so by its own fetch, and who succeeds gets the same table.
-/

namespace SidecarProxy
namespace ModuleCache

open Catalog Route

section Counts

def Phase.hasReturned : Phase → Bool
  | .returned _ => true
  | _ => false

def Phase.hasFailed : Phase → Bool
  | .failed _ => true
  | _ => false

/-- The calls for a key, from a number on, whose phase has a property. -/
def Cache.callsFrom
    (c : Cache) (first : Nat) (key : String) (p : Phase → Bool) : Finset Nat :=
  {n ∈ Finset.range c.calls.length |
    first ≤ n ∧ (c.calls[n]?).any fun call => call.key == key && p call.phase}

/-- The fetches for a key that were sent by calls from a number on. -/
def Cache.fetchesFrom
    (c : Cache) (first : Nat) (key : String) : Finset Nat :=
  {i ∈ Finset.range c.fetches.length |
    (c.fetches[i]?).any fun f => f.key == key && decide (first ≤ f.call)}

variable {c : Cache} {first : Nat} {key : String}

theorem mem_callsFrom_iff
    (p : Phase → Bool) (n : Nat) :
    n ∈ c.callsFrom first key p ↔
      first ≤ n ∧ ∃ call, c.calls[n]? = some call ∧ call.key = key ∧ p call.phase = true := by
  simp only [Cache.callsFrom, Finset.mem_filter, Finset.mem_range, Option.any_eq_true,
    Bool.and_eq_true, beq_iff_eq]
  refine ⟨fun h => h.2, ?_⟩
  rintro ⟨hn, call, hcall, hrest⟩
  exact ⟨(List.getElem?_eq_some_iff.1 hcall).1, hn, call, hcall, hrest⟩

theorem mem_fetchesFrom_iff
    (i : Nat) :
    i ∈ c.fetchesFrom first key ↔
      ∃ f, c.fetches[i]? = some f ∧ f.key = key ∧ first ≤ f.call := by
  simp only [Cache.fetchesFrom, Finset.mem_filter, Finset.mem_range, Option.any_eq_true,
    Bool.and_eq_true, beq_iff_eq, decide_eq_true_eq]
  refine ⟨fun h => h.2, ?_⟩
  rintro ⟨f, hf, hrest⟩
  exact ⟨(List.getElem?_eq_some_iff.1 hf).1, f, hf, hrest⟩

theorem hasReturned_iff
    (phase : Phase) :
    phase.hasReturned = true ↔ ∃ loaded, phase = .returned loaded := by
  cases phase <;> simp [Phase.hasReturned]

theorem hasFailed_iff
    (phase : Phase) :
    phase.hasFailed = true ↔ ∃ failure, phase = .failed failure := by
  cases phase <;> simp [Phase.hasFailed]

end Counts

section Sharing

/-- The calls for a key from a number on share a cell, and all of them have ended. -/
structure Sharing (c : Cache) (first : Nat) (key : String) (k : Nat) : Prop where
  holds :
    ∀ (n : Nat) (call : Call), first ≤ n → c.calls[n]? = some call → call.key = key →
      call.cell = k
  ended :
    ∀ (n : Nat) (call : Call), first ≤ n → c.calls[n]? = some call → call.key = key →
      call.phase.hasReturned = true ∨ call.phase.hasFailed = true
  /-- What stands in the cell was brought by one of these calls. -/
  filler :
    ∀ loaded, c.content k = some loaded →
      ∃ f call, c.fetches[loaded.fetch]? = some f ∧ f.key = key ∧ first ≤ f.call ∧
        c.calls[f.call]? = some call ∧ call.phase = .returned loaded

variable {c : Cache} {first k : Nat} {key : String}

theorem Sharing.content_of_returned
    (h : Sharing c first key k)
    (hrecords : Records c)
    {n : Nat} {call : Call} {loaded : Loaded}
    (hn : first ≤ n)
    (hcall : c.calls[n]? = some call)
    (hkey : call.key = key)
    (hreturned : call.phase = .returned loaded) :
    c.content k = some loaded := by
  rw [← h.holds n call hn hcall hkey]
  exact hrecords.returned hcall hreturned

/-- The call that sent a fetch. -/
def Cache.sender
    (c : Cache) (i : Nat) : Nat :=
  ((c.fetches[i]?).map Fetch.call).getD 0

theorem sender_eq_of_sentBy
    {i n : Nat}
    (h : c.SentBy i n) :
    c.sender i = n := by
  obtain ⟨f, hf, rfl⟩ := h
  simp [Cache.sender, hf]

theorem sentBy_sender
    {i : Nat}
    (hi : i ∈ c.fetchesFrom first key) :
    c.SentBy i (c.sender i) := by
  obtain ⟨f, hf, -⟩ := (mem_fetchesFrom_iff i).1 hi
  exact ⟨f, hf, (sender_eq_of_sentBy ⟨f, hf, rfl⟩).symm⟩

/-- No call sends two fetches, so the fetches are counted by their senders. -/
theorem card_image_sender
    (hrecords : Records c) :
    ((c.fetchesFrom first key).image c.sender).card = (c.fetchesFrom first key).card := by
  refine Finset.card_image_of_injOn ?_
  intro i hi j hj hsame
  refine hrecords.once i j (c.sender i) (sentBy_sender hi) ?_
  rw [hsame]
  exact sentBy_sender hj

theorem mem_senders_iff
    (n : Nat) :
    n ∈ (c.fetchesFrom first key).image c.sender ↔
      ∃ (i : Nat) (f : Fetch), c.fetches[i]? = some f ∧ f.key = key ∧ first ≤ n ∧ f.call = n := by
  simp only [Finset.mem_image, mem_fetchesFrom_iff]
  refine ⟨?_, ?_⟩
  · rintro ⟨i, ⟨f, hf, hkey, hfirst⟩, rfl⟩
    rw [sender_eq_of_sentBy ⟨f, hf, rfl⟩]
    exact ⟨i, f, hf, hkey, hfirst, rfl⟩
  · rintro ⟨i, f, hf, hkey, hfirst, rfl⟩
    exact ⟨i, ⟨f, hf, hkey, hfirst⟩, sender_eq_of_sentBy ⟨f, hf, rfl⟩⟩

/-- Whoever has sent a fetch has failed, or it is the call that filled the cell. -/
theorem Sharing.mem_senders_iff
    (h : Sharing c first key k)
    (hrecords : Records c)
    (n : Nat) :
    n ∈ (c.fetchesFrom first key).image c.sender ↔
      n ∈ c.callsFrom first key Phase.hasFailed ∨
        ∃ loaded, c.content k = some loaded ∧ c.SentBy loaded.fetch n := by
  rw [ModuleCache.mem_senders_iff, mem_callsFrom_iff]
  refine ⟨?_, ?_⟩
  · rintro ⟨i, f, hf, hkey, hn, rfl⟩
    obtain ⟨call, hcall, hsame, hsent⟩ := hrecords.sent i f hf
    have hcallKey := hsame.trans hkey
    rcases h.ended _ call hn hcall hcallKey with hreturned | hfailed
    · obtain ⟨loaded, hreturned⟩ := (hasReturned_iff _).1 hreturned
      rw [hreturned] at hsent
      cases hsent
      have hcontent := h.content_of_returned hrecords hn hcall hcallKey hreturned
      exact Or.inr ⟨_, hcontent, f, hf, rfl⟩
    · exact Or.inl ⟨hn, call, hcall, hcallKey, hfailed⟩
  · rintro (⟨hn, call, hcall, hkey, hfailed⟩ | ⟨loaded, hcontent, f, hf, rfl⟩)
    · obtain ⟨failure, hfailed⟩ := (hasFailed_iff _).1 hfailed
      obtain ⟨i, f, hf, rfl⟩ := hrecords.failed hcall hfailed
      obtain ⟨owner, howner, hsame, -⟩ := hrecords.sent i f hf
      cases howner.symm.trans hcall
      exact ⟨i, f, hf, hsame.symm.trans hkey, hn, rfl⟩
    · obtain ⟨g, call, hg, hkey, hfirst, -⟩ := h.filler loaded hcontent
      cases hg.symm.trans hf
      exact ⟨loaded.fetch, f, hf, hkey, hfirst, rfl⟩

/-- Nobody has returned a table as long as the cell is empty. -/
theorem Sharing.nonempty_returned_iff
    (h : Sharing c first key k)
    (hrecords : Records c) :
    (c.callsFrom first key Phase.hasReturned).Nonempty ↔ ∃ loaded, c.content k = some loaded := by
  refine ⟨?_, ?_⟩
  · rintro ⟨n, hn⟩
    obtain ⟨hfirst, call, hcall, hkey, hreturned⟩ := (mem_callsFrom_iff _ n).1 hn
    obtain ⟨loaded, hreturned⟩ := (hasReturned_iff _).1 hreturned
    exact ⟨loaded, h.content_of_returned hrecords hfirst hcall hkey hreturned⟩
  · rintro ⟨loaded, hcontent⟩
    obtain ⟨f, call, hf, hkey, hfirst, hcall, hreturned⟩ := h.filler loaded hcontent
    obtain ⟨owner, howner, hsame, -⟩ := hrecords.sent loaded.fetch f hf
    cases howner.symm.trans hcall
    exact ⟨f.call, (mem_callsFrom_iff _ _).2
      ⟨hfirst, call, hcall, hsame.trans hkey, (hasReturned_iff _).2 ⟨loaded, hreturned⟩⟩⟩

theorem Sharing.card_fetchesFrom
    (h : Sharing c first key k)
    (hrecords : Records c) :
    (c.fetchesFrom first key).card =
      (c.callsFrom first key Phase.hasFailed).card +
        if (c.callsFrom first key Phase.hasReturned).Nonempty then 1 else 0 := by
  rw [← card_image_sender hrecords]
  cases hcontent : c.content k with
  | none =>
      have hnone : ¬ (c.callsFrom first key Phase.hasReturned).Nonempty := by
        rw [h.nonempty_returned_iff hrecords]
        simp [hcontent]
      have hsame : (c.fetchesFrom first key).image c.sender =
          c.callsFrom first key Phase.hasFailed := by
        ext n
        rw [h.mem_senders_iff hrecords]
        simp [hcontent]
      rw [if_neg hnone, hsame, Nat.add_zero]
  | some loaded =>
      have hsome := (h.nonempty_returned_iff hrecords).2 ⟨loaded, hcontent⟩
      obtain ⟨f, call, hf, -, -, hcall, hreturned⟩ := h.filler loaded hcontent
      have hother : f.call ∉ c.callsFrom first key Phase.hasFailed := by
        intro hmem
        obtain ⟨-, failed, hfailedCall, -, hfailed⟩ := (mem_callsFrom_iff _ _).1 hmem
        cases hfailedCall.symm.trans hcall
        rw [hreturned] at hfailed
        cases hfailed
      have hsame : (c.fetchesFrom first key).image c.sender =
          insert f.call (c.callsFrom first key Phase.hasFailed) := by
        ext n
        rw [h.mem_senders_iff hrecords, Finset.mem_insert, or_comm]
        refine or_congr_left ⟨?_, ?_⟩
        · rintro ⟨other, hother, g, hg, rfl⟩
          cases hcontent.symm.trans hother
          cases hg.symm.trans hf
          rfl
        · rintro rfl
          exact ⟨loaded, hcontent, f, hf, rfl⟩
      rw [if_pos hsome, hsame, Finset.card_insert_of_notMem hother]

end Sharing

section Kept

variable {c c' : Cache} {key : String}

theorem isFresh_of_le
    {l : Limits} {now now' : Nat} {s : Slot}
    (hnow : now ≤ now')
    (hfresh : s.isFresh l now' = true) :
    s.isFresh l now = true := by
  have hbefore := of_decide_eq_true hfresh
  exact decide_eq_true (by omega)

/-- A call finds the slot of its key that is kept and fresh. -/
theorem slotOf_eq_of_mem
    {s : Slot}
    (hbounded : Bounded c.limits c.slots)
    (hs : s ∈ c.slots)
    (hkey : s.key = key)
    (hfresh : s.isFresh c.limits c.now = true) :
    c.slotOf key = s := by
  have hfind := (find?_eq_some_iff hbounded.nodup).2 ⟨hs, hkey⟩
  exact congrArg Prod.fst (slotFor_of_fresh c.cells.length hfind hfresh)

/-- As long as a slot is kept and fresh, calls for its key have its cell. -/
def HoldsWhileKept
    (s : Slot) (first : Nat) (c : Cache) : Prop :=
  s ∈ c.slots → s.isFresh c.limits c.now = true →
    ∀ (n : Nat) (call : Call), first ≤ n → c.calls[n]? = some call → call.key = s.key →
      call.cell = s.cell

theorem holdsWhileKept_step
    {m : Move} {s : Slot} {first : Nat}
    (h : HoldsWhileKept s first c)
    (hbounded : Bounded c.limits c.slots)
    (hcell : s.cell < c.cells.length)
    (hstep : Step c m c') :
    HoldsWhileKept s first c' := by
  intro hs hfresh n call hn hcall hkey
  -- A slot that was dropped does not come back: a new one has another cell.
  have hkept : s ∈ c.slots := by
    rcases slots_step hstep hs with hs | ⟨key, rfl⟩
    · exact hs
    · exact absurd hcell (Nat.lt_irrefl _)
  rw [limits_step hstep] at hfresh
  have hbefore := isFresh_of_le (now_le_step hstep) hfresh
  rcases frame_step hstep with ⟨key, rfl, rfl⟩ | ⟨key, rfl⟩ | ⟨-, hcalls⟩
  · rcases calls_enter_eq_some hcall with hcall | rfl
    · exact h hkept hbefore n call hn hcall hkey
    · rw [slotOf_eq_of_mem hbounded hkept hkey.symm hbefore]
  · cases hstep
    exact h hkept hbefore n call hn hcall hkey
  · obtain ⟨before, hbeforeCall, hsameKey, hsameCell⟩ := hcalls n call hcall
    rw [← hsameCell]
    exact h hkept hbefore n before hn hbeforeCall (hsameKey.trans hkey)

theorem holdsWhileKept_enter
    (c : Cache) (key : String) :
    HoldsWhileKept (c.slotOf key) c.calls.length (c.enter key) := by
  intro _ _ n call hn hcall _
  rcases calls_enter_eq_some hcall with hcall | rfl
  · have hlt := (List.getElem?_eq_some_iff.1 hcall).1
    omega
  · rfl

theorem holdsWhileKept_run?
    {ms : List Move}
    (h : Coherent c)
    (hbounded : Bounded c.limits c.slots)
    (hrun : c.run? (.enter key :: ms) = some c') :
    HoldsWhileKept (c.slotOf key) c.calls.length c' := by
  obtain ⟨next, hnext, hrun⟩ := (run?_cons_eq_some_iff c c' _ ms).1 hrun
  have hnextBounded := bounded_step hbounded hnext
  cases hnext
  have hkeeps := run?_keeps
    (P := fun x => Bounded x.limits x.slots ∧ (c.slotOf key).cell < x.cells.length ∧
      HoldsWhileKept (c.slotOf key) c.calls.length x)
    (by
      rintro x m y - ⟨hbounded, hcell, hholds⟩ hstep
      exact ⟨bounded_step hbounded hstep, Nat.lt_of_lt_of_le hcell (length_cells_le_step hstep),
        holdsWhileKept_step hholds hbounded hcell hstep⟩)
    ⟨hnextBounded, slotOf_cell_lt key h.flights.slot_lt, holdsWhileKept_enter c key⟩ hrun
  exact hkeeps.2.2

/--
The slot that a call for a key would take is empty and unused now, and later it
is still kept and fresh.
-/
structure Cache.Undisturbed (c c' : Cache) (key : String) : Prop where
  empty : c.content (c.slotOf key).cell = none
  unused :
    ∀ (n : Nat) (call : Call), c.calls[n]? = some call → call.cell = (c.slotOf key).cell →
      Cache.isOpen call = false
  kept : c.slotOf key ∈ c'.slots
  fresh : (c.slotOf key).isFresh c'.limits c'.now = true

/-- What stands in the cell was brought by a call that came in since. -/
theorem Cache.Undisturbed.filler
    {loaded : Loaded}
    (hkept : c.Undisturbed c' key)
    (h : Coherent c)
    (h' : Coherent c')
    (hlater : Later c c')
    (hloaded : c'.content (c.slotOf key).cell = some loaded) :
    ∃ f call, c'.fetches[loaded.fetch]? = some f ∧ f.key = key ∧ c.calls.length ≤ f.call ∧
      c'.calls[f.call]? = some call ∧ call.phase = .returned loaded := by
  obtain ⟨f, call, ⟨hf, hkey, -⟩, hcall, hreturned, hcell⟩ := h'.origin hloaded
  have hsame := (h'.keyed.key_eq hkept.kept hcall hcell).trans (slotOf_key c key)
  refine ⟨f, call, hf, hkey.trans hsame, ?_, hcall, hreturned⟩
  by_contra hold
  -- Otherwise the call had ended before, and the cell was filled before.
  have hbefore := List.getElem?_eq_getElem (Nat.lt_of_not_le hold)
  obtain ⟨after, hafter, hstays⟩ := hlater.calls _ _ hbefore
  cases hafter.symm.trans hcall
  have hended := hkept.unused _ _ hbefore (hstays.cell.symm.trans hcell)
  rw [← hstays.ended hended] at hbefore
  have hfilled := h.records.returned hbefore hreturned
  rw [hcell, hkept.empty] at hfilled
  cases hfilled

end Kept

section Main

/--
Calls that find the same empty slot share its load: each fetch but the one that
succeeds is reported to the call that sent it, and all others get the table.
-/
theorem card_fetches_of_undisturbed
    (s : CacheSettings) {before after : List Move} {c c' : Cache} {key : String}
    (hbefore : ({ limits := .ofSettings s } : Cache).run? before = some c)
    (hrun : c.run? (.enter key :: after) = some c')
    (hkept : c.Undisturbed c' key)
    (hended :
      ∀ (n : Nat) (call : Call), c.calls.length ≤ n → c'.calls[n]? = some call →
        call.key = key → call.phase.hasReturned = true ∨ call.phase.hasFailed = true) :
    (c'.fetchesFrom c.calls.length key).card =
        (c'.callsFrom c.calls.length key Phase.hasFailed).card +
          (if (c'.callsFrom c.calls.length key Phase.hasReturned).Nonempty then 1 else 0) ∧
      (∀ (n : Nat) (call : Call) (e : ControlPlane.Failure),
        c.calls.length ≤ n → c'.calls[n]? = some call → call.key = key →
          (call.phase = .failed e ↔
            (∃! i, c'.SentBy i n) ∧
              ∃ document, Move.answer n document ∈ after ∧
                Cache.compile document = .error e)) ∧
      ∀ (n m : Nat) (call other : Call) (loaded loaded' : Loaded),
        c.calls.length ≤ n → c'.calls[n]? = some call → call.key = key →
          call.phase = .returned loaded →
        c.calls.length ≤ m → c'.calls[m]? = some other → other.key = key →
          other.phase = .returned loaded' →
        loaded = loaded' := by
  have h := coherent_run? hbefore
  have h' := h.run? hrun
  have hbounded := bounded_run? (l := .ofSettings s) (Nat.le_max_left 1 s.maxEntries) hbefore
  have hsharing : Sharing c' c.calls.length key (c.slotOf key).cell :=
    { holds := by
        intro n call hn hcall hkey
        exact holdsWhileKept_run? h hbounded hrun hkept.kept hkept.fresh n call hn hcall
          (hkey.trans (slotOf_key c key).symm)
      ended := hended
      filler := fun loaded hloaded => hkept.filler h h' (h.later hrun) hloaded }
  refine ⟨hsharing.card_fetchesFrom h'.records, ?_, ?_⟩
  · intro n call e hn hcall hkey
    rw [failed_iff_answer_mem h hrun hn hcall e]
    have hanswers : ∀ document,
        Move.answer n document ∈ Move.enter key :: after ↔ Move.answer n document ∈ after := by
      simp
    simp only [hanswers]
    refine ⟨fun htold => ⟨?_, htold⟩, fun htold => htold.2⟩
    have hfailed := (failed_iff_answer_mem h hrun hn hcall e).2 (by simpa only [hanswers])
    obtain ⟨i, hi⟩ := h'.records.failed hcall hfailed
    exact ⟨i, hi, fun j hj => h'.records.once j i n hj hi⟩
  · intro n m call other loaded loaded' hn hcall hkey hreturned hm hother hkey' hreturned'
    have hloaded := hsharing.content_of_returned h'.records hn hcall hkey hreturned
    have hloaded' := hsharing.content_of_returned h'.records hm hother hkey' hreturned'
    exact Option.some.inj (hloaded.symm.trans hloaded')

/-- A cache in which the first load of a module has failed. -/
def failedCache : Cache where
  limits := .ofSettings {}
  slots := [⟨"mod-a-1.0.0", 0, 0⟩]
  cells := [{}]
  calls := [{ key := "mod-a-1.0.0", cell := 0, since := 0, phase := .failed (.transport "") }]
  fetches := [{ key := "mod-a-1.0.0", call := 0, since := 0, pending := false }]
  events := [Cache.counted .miss, Cache.counted .error]

/-- The cache in which it has failed once more, and then was loaded for two more callers. -/
def sharedCache : Cache where
  limits := .ofSettings {}
  slots := [⟨"mod-a-1.0.0", 0, 0⟩, ⟨"mod-b-1.0.0", 0, 1⟩]
  cells := [{ content := some ⟨.empty, 3⟩ }, { content := some ⟨.empty, 2⟩ }]
  calls :=
    [{ key := "mod-a-1.0.0", cell := 0, since := 0, phase := .failed (.transport "") },
      { key := "mod-a-1.0.0", cell := 0, since := 0, phase := .failed (.transport "") },
      { key := "mod-a-1.0.0", cell := 0, since := 0, phase := .returned ⟨.empty, 3⟩ },
      { key := "mod-b-1.0.0", cell := 1, since := 0, phase := .returned ⟨.empty, 2⟩ },
      { key := "mod-a-1.0.0", cell := 0, since := 0, phase := .returned ⟨.empty, 3⟩ }]
  fetches :=
    [{ key := "mod-a-1.0.0", call := 0, since := 0, pending := false },
      { key := "mod-a-1.0.0", call := 1, since := 0, pending := false },
      { key := "mod-b-1.0.0", call := 3, since := 0, pending := false
        document := some { moduleId := "mod-b-1.0.0" } },
      { key := "mod-a-1.0.0", call := 2, since := 0, pending := false
        document := some { moduleId := "mod-a-1.0.0" } }]
  events :=
    [Cache.counted .miss, Cache.counted .error, Cache.counted .miss, Cache.counted .miss,
      Cache.counted .error, Cache.counted .miss]

/-- Of three callers one fails, and the other two share the fetch of one of them. -/
theorem card_fetches_of_undisturbed_three :
    ({ limits := .ofSettings {} } : Cache).run?
        [.enter "mod-a-1.0.0", .look 0, .begin 0, .answer 0 (.error (.transport ""))] =
          some failedCache ∧
      failedCache.run?
          [.enter "mod-a-1.0.0", .enter "mod-a-1.0.0", .enter "mod-b-1.0.0", .look 1, .look 2,
            .begin 1, .look 3, .begin 3, .answer 1 (.error (.transport "")), .begin 2,
            .answer 3 (.ok { moduleId := "mod-b-1.0.0" }), .enter "mod-a-1.0.0", .look 4,
            .answer 2 (.ok { moduleId := "mod-a-1.0.0" }), .receive 4] =
          some sharedCache ∧
        failedCache.Undisturbed sharedCache "mod-a-1.0.0" ∧
          (sharedCache.fetchesFrom 1 "mod-a-1.0.0").card =
            (sharedCache.callsFrom 1 "mod-a-1.0.0" Phase.hasFailed).card + 1 := by
  have hbefore : ({ limits := .ofSettings {} } : Cache).run?
      [.enter "mod-a-1.0.0", .look 0, .begin 0, .answer 0 (.error (.transport ""))] =
        some failedCache := by
    decide +kernel
  have hrun : failedCache.run?
      [.enter "mod-a-1.0.0", .enter "mod-a-1.0.0", .enter "mod-b-1.0.0", .look 1, .look 2,
        .begin 1, .look 3, .begin 3, .answer 1 (.error (.transport "")), .begin 2,
        .answer 3 (.ok { moduleId := "mod-b-1.0.0" }), .enter "mod-a-1.0.0", .look 4,
        .answer 2 (.ok { moduleId := "mod-a-1.0.0" }), .receive 4] = some sharedCache := by
    decide +kernel
  have hunused : ∀ call ∈ failedCache.calls, Cache.isOpen call = false := by
    decide
  have hended : ∀ call ∈ sharedCache.calls,
      call.phase.hasReturned = true ∨ call.phase.hasFailed = true := by
    decide
  have hkept : failedCache.Undisturbed sharedCache "mod-a-1.0.0" :=
    ⟨by decide, fun n call hcall _ => hunused call (List.mem_of_getElem? hcall), by decide,
      by decide⟩
  refine ⟨hbefore, hrun, hkept, ?_⟩
  have hcount := (card_fetches_of_undisturbed {} hbefore hrun hkept
    (fun n call _ hcall _ => hended call (List.mem_of_getElem? hcall))).1
  rw [if_pos (by decide)] at hcount
  exact hcount

end Main

end ModuleCache
end SidecarProxy
