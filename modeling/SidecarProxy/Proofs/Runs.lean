import Mathlib.Data.List.Induction

/-!
# Runs of a machine

A machine says of every event whether it is possible in a state, and which state
it leads to.  A run is a list of events that are possible one after the other.
Main statements: a run can be cut anywhere, and what every step keeps holds behind
every run.
-/

namespace SidecarProxy

section Runs

variable {σ ε : Type}

/-- The state behind a run of events, if each of them is possible in its turn. -/
def runOf? (step? : σ → ε → Option σ) (s : σ) (events : List ε) : Option σ :=
  events.foldlM step? s

variable {step? : σ → ε → Option σ} {s s' : σ}

@[simp] theorem runOf?_nil
    (s : σ) :
    runOf? step? s [] = some s :=
  rfl

@[simp] theorem runOf?_cons
    (s : σ) (e : ε) (events : List ε) :
    runOf? step? s (e :: events) = (step? s e).bind (runOf? step? · events) :=
  List.foldlM_cons

theorem runOf?_append
    (s : σ) (front back : List ε) :
    runOf? step? s (front ++ back) = (runOf? step? s front).bind (runOf? step? · back) :=
  List.foldlM_append

theorem runOf?_cons_eq_some_iff
    {e : ε} {events : List ε} :
    runOf? step? s (e :: events) = some s'
      ↔
    ∃ next, step? s e = some next ∧ runOf? step? next events = some s' := by
  rw [runOf?_cons, Option.bind_eq_some_iff]

theorem runOf?_concat_eq_some_iff
    {events : List ε} {e : ε} :
    runOf? step? s (events ++ [e]) = some s'
      ↔
    ∃ before, runOf? step? s events = some before ∧ step? before e = some s' := by
  simp [runOf?, Option.bind_eq_some_iff]

/-- What holds at the start and of the history behind every step holds behind every run. -/
theorem runOf?_induction
    {P : List ε → σ → Prop} {events : List ε}
    (hstart : P [] s)
    (hstep :
      ∀ front before e after, e ∈ events → runOf? step? s front = some before →
        P front before → step? before e = some after → P (front ++ [e]) after)
    (hrun : runOf? step? s events = some s') :
    P events s' := by
  induction events using List.reverseRecOn generalizing s' with
  | nil =>
      cases hrun
      exact hstart
  | append_singleton events e ih =>
      obtain ⟨before, hfront, hlast⟩ := runOf?_concat_eq_some_iff.1 hrun
      have hbefore : P events before :=
        ih (fun front before e after hmem => hstep front before e after
          (List.mem_append_left _ hmem)) hfront
      exact hstep events before e s' (by simp) hfront hbefore hlast

/-- A property that every step keeps holds behind every run. -/
theorem runOf?_keeps
    {P : σ → Prop} {events : List ε}
    (hstep : ∀ before e after, e ∈ events → P before → step? before e = some after → P after)
    (hs : P s)
    (hrun : runOf? step? s events = some s') :
    P s' :=
  runOf?_induction (P := fun _ s => P s) hs
    (fun _ before e after hmem _ => hstep before e after hmem) hrun

end Runs

end SidecarProxy
