import SidecarProxy.Proofs.Runs
import SidecarProxy.Proofs.Transfer.Steps

/-!
# Transcripts of a transfer

What can be observed of a transfer from outside: what was put into its queue,
what the consumer got, whether it was told the end, and the outcomes that were
reported.  The moves of the transfer, the polls of the consumer, its leaving and
the passing of time follow each other in any order, so a consumer may be told the
end before the outcome is reported and behind it.  Main statement: what an event
does to a transcript, case by case.
-/

namespace SidecarProxy
namespace Transfer

/-- What happens next around a transfer. -/
inductive Event where
  | act (m : Move)
  /-- The consumer asks for a delivery. -/
  | poll
  | leave
  | passTo (time : Nat)
  deriving DecidableEq, Repr

/-- A transfer with everything that was observed of it. -/
structure Transcript where
  state : State
  /-- What was put into the queue. -/
  queued : List Delivery := []
  received : List Delivery := []
  /-- Whether the consumer was told that there are no more deliveries. -/
  sawEnd : Bool := false
  /-- The outcomes that were reported behind the end of the queue. -/
  reports : List Outcome := []
  deriving DecidableEq, Repr

namespace Transcript

/-- The transcript after a move to a state.  Only the report leads to a state in
which the outcome was reported. -/
def moved (t : Transcript) (s : State) : Transcript :=
  { t with
    state := s
    queued := t.queued ++ s.queue.drop t.state.queue.length
    reports := t.reports ++ s.reported?.toList }

/-- The transcript after the consumer asked.  It gets the first delivery, the
end when the queue is closed, and otherwise nothing yet. -/
def polled (t : Transcript) : Transcript :=
  match t.state.take with
  | (some d, s) => { t with state := s, received := t.received ++ [d] }
  | (none, s) => { t with state := s, sawEnd := t.sawEnd || s.outcome?.isSome }

/-- The transcript after an event, if it is possible. -/
def step? (t : Transcript) : Event → Option Transcript
  | .act m => (t.state.move? m).map t.moved
  | .poll => if t.state.consumerGone then none else some t.polled
  | .leave =>
    if t.state.consumerGone then none else some { t with state := t.state.leave }
  | .passTo time => some { t with state := t.state.passTo time }

/-- The transcript after a run of events, if they are possible. -/
def run? (t : Transcript) (events : List Event) : Option Transcript :=
  runOf? step? t events

/-- One transcript comes some events after another. -/
def Leads (t t' : Transcript) : Prop :=
  ∃ events, t.run? events = some t'

variable {t t' t'' : Transcript} {e : Event}

theorem Leads.refl
    (t : Transcript) :
    t.Leads t :=
  ⟨[], rfl⟩

theorem Leads.step
    (h : t.Leads t') (hstep : t'.step? e = some t'') :
    t.Leads t'' := by
  obtain ⟨es, hes⟩ := h
  exact ⟨es ++ [e], runOf?_concat_eq_some_iff.2 ⟨t', hes, hstep⟩⟩

/-- A property that every event keeps holds behind every run. -/
theorem run?_keeps
    {P : Transcript → Prop} {es : List Event}
    (hstep : ∀ {t t' e}, P t → t.step? e = some t' → P t')
    (h : P t) (hrun : t.run? es = some t') :
    P t' :=
  runOf?_keeps (fun _ _ _ _ => hstep) h hrun

/-- What an event does to a transcript, with what makes it possible. -/
inductive Stepped (t : Transcript) : Event → Transcript → Prop
  | act {m : Move} {s : State} (hmove : Step t.state m s) : Stepped t (.act m) (t.moved s)
  | take
      {d : Delivery} {rest : List Delivery}
      (hhere : t.state.consumerGone = false)
      (hqueue : t.state.queue = d :: rest) :
      Stepped t .poll
        { t with state := { t.state with queue := rest }, received := t.received ++ [d] }
  /-- There is nothing to take. -/
  | wait
      (hhere : t.state.consumerGone = false)
      (hqueue : t.state.queue = []) :
      Stepped t .poll { t with sawEnd := t.sawEnd || t.state.outcome?.isSome }
  | leave (hhere : t.state.consumerGone = false) :
      Stepped t .leave { t with state := t.state.leave }
  | passTo (time : Nat) : Stepped t (.passTo time) { t with state := t.state.passTo time }

theorem stepped_of_step?
    (h : t.step? e = some t') :
    Stepped t e t' := by
  cases e with
  | act m =>
      obtain ⟨s, hmove, rfl⟩ := Option.map_eq_some_iff.1 h
      exact .act (step_of_move? hmove)
  | poll =>
      simp only [step?] at h
      split at h
      · cases h
      · next hhere =>
          cases h
          rw [Bool.not_eq_true] at hhere
          cases hqueue : t.state.queue with
          | nil =>
              simpa [polled, State.take, hqueue] using Stepped.wait hhere hqueue
          | cons d rest =>
              simpa [polled, State.take, hqueue] using Stepped.take hhere hqueue
  | leave =>
      simp only [step?] at h
      split at h
      · cases h
      · next hhere =>
          cases h
          exact .leave (Bool.not_eq_true _ ▸ hhere)
  | passTo time =>
      cases h
      exact .passTo time

end Transcript

end Transfer
end SidecarProxy
