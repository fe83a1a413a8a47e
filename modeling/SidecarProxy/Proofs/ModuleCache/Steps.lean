import SidecarProxy.ModuleCache.Calls
import SidecarProxy.Proofs.Runs

/-!
# Steps of the module cache

What a move does to a cache, case by case, and the runs that such steps make up.
Every statement about runs goes back to these cases.  Main statements: the
cases are exactly the moves that are possible, and a property that every step
keeps holds behind every run.
-/

namespace SidecarProxy
namespace ModuleCache

open Catalog Route

section Steps

/-- One step of a cache, with what makes it possible. -/
inductive Step (c : Cache) : Move → Cache → Prop
  | pass (nanos : Nat) :
      Step c (.pass nanos) { c with now := c.now + nanos }
  | enter (key : String) :
      Step c (.enter key) (c.enter key)
  /-- The cell is filled already. -/
  | hit
      {n : Nat} {call : Call} {loaded : Loaded}
      (hcall : c.calls[n]? = some call)
      (hphase : call.phase = .entered)
      (hcontent : (c.cell call.cell).content = some loaded) :
      Step c (.look n) ((c.setPhase n (.returned loaded)).count .hit)
  | queue
      {n : Nat} {call : Call}
      (hcall : c.calls[n]? = some call)
      (hphase : call.phase = .entered)
      (hcontent : (c.cell call.cell).content = none) :
      Step c (.look n)
        ((c.setPhase n .waiting).setCell call.cell
          { c.cell call.cell with line := (c.cell call.cell).line ++ [n] })
  | load
      {n : Nat} {call : Call}
      (hcall : c.calls[n]? = some call)
      (hphase : call.phase = .waiting)
      (hcontent : (c.cell call.cell).content = none)
      (hloader : (c.cell call.cell).loader = none)
      (hturn : (c.cell call.cell).line.head? = some n) :
      Step c (.begin n) (c.load n call (c.cell call.cell))
  | fill
      {n : Nat} {call : Call} {fetch : Nat} {table : Table}
      {document : Except ControlPlane.Failure ModuleDescription}
      (hcall : c.calls[n]? = some call)
      (hphase : call.phase = .loading fetch)
      (htable : Cache.compile document = .ok table) :
      Step c (.answer n document)
        (((c.setPhase n (.returned ⟨table, fetch⟩)).setCell call.cell
          { c.cell call.cell with loader := none, content := some ⟨table, fetch⟩ }).closeFetch
            fetch document.toOption)
  | fail
      {n : Nat} {call : Call} {fetch : Nat} {failure : ControlPlane.Failure}
      {document : Except ControlPlane.Failure ModuleDescription}
      (hcall : c.calls[n]? = some call)
      (hphase : call.phase = .loading fetch)
      (hfailure : Cache.compile document = .error failure) :
      Step c (.answer n document)
        ((((c.setPhase n (.failed failure)).setCell call.cell
          { c.cell call.cell with loader := none }).closeFetch
            fetch document.toOption).count .error)
  | receive
      {n : Nat} {call : Call} {loaded : Loaded}
      (hcall : c.calls[n]? = some call)
      (hphase : call.phase = .waiting)
      (hcontent : (c.cell call.cell).content = some loaded) :
      Step c (.receive n)
        ((c.setPhase n (.returned loaded)).setCell call.cell
          { c.cell call.cell with line := (c.cell call.cell).line.erase n })
  /-- A call is given up before it looks into its cell. -/
  | leave
      {n : Nat} {call : Call}
      (hcall : c.calls[n]? = some call)
      (hphase : call.phase = .entered) :
      Step c (.abandon n) (c.setPhase n .abandoned)
  | leaveLine
      {n : Nat} {call : Call}
      (hcall : c.calls[n]? = some call)
      (hphase : call.phase = .waiting) :
      Step c (.abandon n)
        ((c.setPhase n .abandoned).setCell call.cell
          { c.cell call.cell with line := (c.cell call.cell).line.erase n })
  /-- A load is given up together with its call. -/
  | stop
      {n : Nat} {call : Call} {fetch : Nat}
      (hcall : c.calls[n]? = some call)
      (hphase : call.phase = .loading fetch) :
      Step c (.abandon n)
        (((c.setPhase n .abandoned).setCell call.cell
          { c.cell call.cell with loader := none }).closeFetch fetch none)
  | invalidate (key : String) :
      Step c (.invalidate key) { c with slots := c.slots.remove key }

theorem step_of_answer
    {c c' : Cache} {n : Nat} {call : Call} {fetch : Nat}
    {document : Except ControlPlane.Failure ModuleDescription}
    (hcall : c.calls[n]? = some call)
    (hphase : call.phase = .loading fetch)
    (h : c.finish n call fetch document = c') :
    Step c (.answer n document) c' := by
  subst h
  unfold Cache.finish
  cases hdocument : Cache.compile document with
  | error failure =>
      exact .fail hcall hphase hdocument
  | ok table =>
      exact .fill hcall hphase hdocument

theorem step_of_abandon
    {c c' : Cache} {n : Nat} {call : Call}
    (hcall : c.calls[n]? = some call)
    (hopen : Cache.isOpen call = true)
    (h : c.giveUp n call = c') :
    Step c (.abandon n) c' := by
  subst h
  unfold Cache.giveUp
  cases hphase : call.phase with
  | entered =>
      exact .leave hcall hphase
  | waiting =>
      exact .leaveLine hcall hphase
  | loading fetch =>
      exact .stop hcall hphase
  | returned loaded =>
      simp [Cache.isOpen, hphase] at hopen
  | failed failure =>
      simp [Cache.isOpen, hphase] at hopen
  | abandoned =>
      simp [Cache.isOpen, hphase] at hopen

/-- A move that is possible is one of the steps. -/
theorem step_of_move?
    {c c' : Cache} {m : Move}
    (h : c.move? m = some c') :
    Step c m c' := by
  cases m with
  | pass nanos =>
      cases h
      exact .pass nanos
  | enter key =>
      cases h
      exact .enter key
  | look n =>
      obtain ⟨call, hcall, h⟩ := Option.bind_eq_some_iff.1 h
      split at h
      · next hphase =>
          cases h
          cases hcontent : (c.cell call.cell).content with
          | none =>
              simpa only [Cache.look, hcontent] using Step.queue hcall hphase hcontent
          | some loaded =>
              simpa only [Cache.look, hcontent] using Step.hit hcall hphase hcontent
      · cases h
  | begin n =>
      obtain ⟨call, hcall, h⟩ := Option.bind_eq_some_iff.1 h
      dsimp only at h
      split at h
      · next hready =>
          cases h
          simp only [Bool.and_eq_true, decide_eq_true_eq, Option.isNone_iff_eq_none] at hready
          obtain ⟨⟨⟨hphase, hcontent⟩, hloader⟩, hturn⟩ := hready
          exact .load hcall hphase hcontent hloader hturn
      · cases h
  | answer n document =>
      obtain ⟨call, hcall, h⟩ := Option.bind_eq_some_iff.1 h
      split at h
      · next hphase =>
          exact step_of_answer hcall hphase (Option.some.inj h)
      · cases h
  | receive n =>
      obtain ⟨call, hcall, h⟩ := Option.bind_eq_some_iff.1 h
      dsimp only at h
      split at h
      · next hphase hcontent =>
          cases h
          exact .receive hcall hphase hcontent
      · cases h
  | abandon n =>
      obtain ⟨call, hcall, h⟩ := Option.bind_eq_some_iff.1 h
      split at h
      · next hopen =>
          exact step_of_abandon hcall hopen (Option.some.inj h)
      · cases h
  | invalidate key =>
      cases h
      exact .invalidate key

theorem move?_of_step
    {c c' : Cache} {m : Move}
    (h : Step c m c') :
    c.move? m = some c' := by
  cases h with
  | pass nanos => rfl
  | enter key => rfl
  | hit hcall hphase hcontent => simp [Cache.move?, Cache.look, hcall, hphase, hcontent]
  | queue hcall hphase hcontent => simp [Cache.move?, Cache.look, hcall, hphase, hcontent]
  | load hcall hphase hcontent hloader hturn =>
      simp [Cache.move?, hcall, hphase, hcontent, hloader, hturn]
  | fill hcall hphase htable => simp [Cache.move?, Cache.finish, hcall, hphase, htable]
  | fail hcall hphase hfailure => simp [Cache.move?, Cache.finish, hcall, hphase, hfailure]
  | receive hcall hphase hcontent => simp [Cache.move?, hcall, hphase, hcontent]
  | leave hcall hphase => simp [Cache.move?, Cache.giveUp, Cache.isOpen, hcall, hphase]
  | leaveLine hcall hphase => simp [Cache.move?, Cache.giveUp, Cache.isOpen, hcall, hphase]
  | stop hcall hphase => simp [Cache.move?, Cache.giveUp, Cache.isOpen, hcall, hphase]
  | invalidate key => rfl

/-- The steps of a cache are the moves that are possible. -/
theorem move?_eq_some_iff
    (c c' : Cache) (m : Move) :
    c.move? m = some c' ↔ Step c m c' :=
  ⟨step_of_move?, move?_of_step⟩

end Steps

section Frame

variable {c c' : Cache} {m : Move}

theorem cell_setCell
    (c : Cache) (k j : Nat) (cell : Cell) :
    (c.setCell k cell).cell j = if k = j ∧ k < c.cells.length then cell else c.cell j := by
  simp only [Cache.cell, Cache.setCell, List.getD_eq_getElem?_getD, List.getElem?_set]
  grind

theorem calls_setPhase_eq_some_iff
    (c : Cache) (n m : Nat) (phase : Phase) (call : Call) :
    (c.setPhase n phase).calls[m]? = some call ↔
      ∃ before, c.calls[m]? = some before ∧
        call = if n = m then { before with phase := phase } else before := by
  simp only [Cache.setPhase, List.getElem?_modify, Option.map_eq_map, Option.map_eq_some_iff]
  grind

theorem limits_step
    (h : Step c m c') :
    c'.limits = c.limits := by
  cases h <;> rfl

theorem now_le_step
    (h : Step c m c') :
    c.now ≤ c'.now := by
  cases h with
  | pass nanos => exact Nat.le_add_right c.now nanos
  | _ => exact Nat.le_refl c.now

/-- The calls of a cache are those of another one, perhaps in other phases. -/
def SameCalls (c c' : Cache) : Prop :=
  ∀ (n : Nat) (call : Call), c'.calls[n]? = some call →
    ∃ before, c.calls[n]? = some before ∧ before.key = call.key ∧ before.cell = call.cell

theorem sameCalls_setPhase
    (c : Cache) (n : Nat) (phase : Phase) :
    SameCalls c (c.setPhase n phase) := by
  intro m call hcall
  obtain ⟨before, hbefore, rfl⟩ := (calls_setPhase_eq_some_iff c n m phase call).1 hcall
  refine ⟨before, hbefore, ?_⟩
  split <;> exact ⟨rfl, rfl⟩

/-- Only calls that come in and invalidations touch slots. -/
theorem frame_step
    (h : Step c m c') :
    (∃ key, m = .enter key ∧ c' = c.enter key) ∨
      (∃ key, m = .invalidate key) ∨
        (c'.slots = c.slots ∧ SameCalls c c') := by
  cases h with
  | pass nanos =>
      exact Or.inr (Or.inr ⟨rfl, fun n call hcall => ⟨call, hcall, rfl, rfl⟩⟩)
  | enter key =>
      exact Or.inl ⟨key, rfl, rfl⟩
  | invalidate key =>
      exact Or.inr (Or.inl ⟨key, rfl⟩)
  | _ =>
      exact Or.inr (Or.inr ⟨rfl, sameCalls_setPhase c _ _⟩)

end Frame

section Runs

/-- The cache behind moves that are made one after the other. -/
def Cache.run? (c : Cache) (ms : List Move) : Option Cache :=
  runOf? Cache.move? c ms

theorem run?_cons
    (c : Cache) (m : Move) (ms : List Move) :
    c.run? (m :: ms) = (c.move? m).bind (·.run? ms) :=
  runOf?_cons c m ms

theorem run?_cons_eq_some_iff
    (c c' : Cache) (m : Move) (ms : List Move) :
    c.run? (m :: ms) = some c' ↔ ∃ next, Step c m next ∧ next.run? ms = some c' := by
  simp only [← move?_eq_some_iff]
  exact runOf?_cons_eq_some_iff

theorem run?_append
    (c : Cache) (front back : List Move) :
    c.run? (front ++ back) = (c.run? front).bind (·.run? back) :=
  runOf?_append c front back

/-- A property that every step keeps holds behind every run. -/
theorem run?_keeps
    {P : Cache → Prop} {ms : List Move}
    (hstep : ∀ c m c', m ∈ ms → P c → Step c m c' → P c')
    {c c' : Cache}
    (hc : P c)
    (h : c.run? ms = some c') :
    P c' :=
  runOf?_keeps
    (fun c m c' hm hP hmove => hstep c m c' hm hP ((move?_eq_some_iff c c' m).1 hmove)) hc h

end Runs

end ModuleCache
end SidecarProxy
