import SidecarProxy.Transfer.Basic

/-!
# Steps of a transfer

What a source has to give as a whole, and what one move does to a transfer, case
by case.  Main statements: an answer of a source is the first thing that the
whole of it holds, the cases are exactly the moves that are possible, and every
move uses up some of the work that is left.
-/

namespace SidecarProxy
namespace Transfer

section Sources

/-- How a source goes on when all its frames are read. -/
inductive Ending where
  | ended
  | failed (cause : String)
  /-- It never answers again. -/
  | stalled
  deriving DecidableEq, Repr

namespace Source

/-- The frames that a source gives before it ends, fails or stalls. -/
def frames : Source → List Frame
  | [] => []
  | .frame f :: rest => f :: frames rest
  | .fail _ :: _ => []
  | .pause _ :: rest => frames rest
  | .stall :: _ => []

/-- What comes behind the frames. -/
def ending : Source → Ending
  | [] => .ended
  | .frame _ :: rest => ending rest
  | .fail cause :: _ => .failed cause
  | .pause _ :: rest => ending rest
  | .stall :: _ => .stalled

/-- What an answer and the rest behind it say about a source as a whole. -/
def Gives (source : Source) : Reading → Source → Prop
  | .frame f, rest =>
    source.frames = f :: rest.frames ∧ source.ending = rest.ending ∧
      rest.length < source.length
  | .failed cause, rest =>
    source.frames = [] ∧ source.ending = .failed cause ∧ rest.length < source.length
  | .ended, rest =>
    source.frames = [] ∧ source.ending = .ended ∧ rest.length ≤ source.length

theorem Gives.pause
    {source rest : Source} {reading : Reading} {millis : Nat}
    (h : source.Gives reading rest) :
    Gives (.pause millis :: source) reading rest := by
  cases reading with
  | frame f =>
      exact ⟨h.1, h.2.1, Nat.lt_succ_of_lt h.2.2⟩
  | failed cause =>
      exact ⟨h.1, h.2.1, Nat.lt_succ_of_lt h.2.2⟩
  | ended =>
      exact ⟨h.1, h.2.1, Nat.le_succ_of_le h.2.2⟩

theorem gives_of_next?
    {source rest : Source} {delay : Nat} {reading : Reading}
    (h : source.next? = some (delay, reading, rest)) :
    source.Gives reading rest := by
  induction source generalizing delay with
  | nil =>
      cases h
      exact ⟨rfl, rfl, Nat.le_refl _⟩
  | cons step source ih =>
      cases step with
      | frame f =>
          cases h
          exact ⟨rfl, rfl, Nat.lt_succ_self _⟩
      | fail cause =>
          cases h
          exact ⟨rfl, rfl, Nat.lt_succ_self _⟩
      | pause millis =>
          simp only [next?] at h
          split at h
          · cases h
          · next hnext =>
              cases h
              exact (ih hnext).pause
      | stall =>
          cases h

theorem stalls_of_next?_eq_none
    {source : Source}
    (h : source.next? = none) :
    source.frames = [] ∧ source.ending = .stalled := by
  induction source with
  | nil =>
      cases h
  | cons step source ih =>
      cases step with
      | frame g =>
          cases h
      | fail why =>
          cases h
      | stall =>
          exact ⟨rfl, rfl⟩
      | pause millis =>
          simp only [next?] at h
          split at h
          · next hnext => exact ih hnext
          · cases h

end Source

end Sources

section Moves

/-- One move of a transfer, with what makes it possible. -/
inductive Step (s : State) : Move → State → Prop
  | readFrame
      {since delay : Nat} {f : Frame} {rest : Source}
      (hphase : s.phase = .reading since)
      (hnext : s.source.next? = some (delay, .frame f, rest))
      (hdue : since + delay ≤ s.now) :
      Step s .read { s with source := rest, produced := s.produced + 1, phase := .sending f }
  | readFailure
      {since delay : Nat} {cause : String} {rest : Source}
      (hphase : s.phase = .reading since)
      (hnext : s.source.next? = some (delay, .failed cause, rest))
      (hdue : since + delay ≤ s.now) :
      Step s .read
        { s with
          source := rest, produced := s.produced + 1
          phase := .failing cause (.sourceFailed s.bytes cause) }
  | readEnd
      {since delay : Nat} {rest : Source}
      (hphase : s.phase = .reading since)
      (hnext : s.source.next? = some (delay, .ended, rest))
      (hdue : since + delay ≤ s.now) :
      Step s .read { s with source := rest, phase := .finished (.completed s.bytes) false }
  | expire
      {since : Nat} {idle : Span}
      (hphase : s.phase = .reading since)
      (hidle : s.idle = some idle)
      (hlate : since + idle.timerMillis ≤ s.now)
      (hsilent : ∀ time, s.answerAt = some time → s.now < time) :
      Step s .expire
        { s with phase := .failing (idleMessage idle) (.timedOut s.bytes idle) }
  | notice
      {since : Nat}
      (hphase : s.phase = .reading since)
      (hgone : s.consumerGone = true) :
      Step s .notice { s with phase := .finished (.clientGone s.bytes) false }
  | pushFrame
      {f : Frame}
      (hphase : s.phase = .sending f)
      (hhere : s.consumerGone = false)
      (hroom : s.queue.length < s.capacity) :
      Step s .push
        { s with
          queue := s.queue ++ [.frame f], bytes := s.bytes + f.size, phase := .reading s.now }
  | pushError
      {message : String} {outcome : Outcome}
      (hphase : s.phase = .failing message outcome)
      (hhere : s.consumerGone = false)
      (hroom : s.queue.length < s.capacity) :
      Step s .push { s with queue := s.queue ++ [.error message], phase := .finished outcome false }
  | discardFrame
      {f : Frame}
      (hphase : s.phase = .sending f)
      (hgone : s.consumerGone = true) :
      Step s .discard { s with phase := .finished (.clientGone s.bytes) false }
  | discardError
      {message : String} {outcome : Outcome}
      (hphase : s.phase = .failing message outcome)
      (hgone : s.consumerGone = true) :
      Step s .discard { s with phase := .finished outcome false }
  | report
      {outcome : Outcome}
      (hphase : s.phase = .finished outcome false) :
      Step s .report { s with phase := .finished outcome true }

variable {s s' : State} {m : Move}

theorem reached_iff
    {time : Option Nat} :
    s.reached time = true ↔ ∃ t, time = some t ∧ t ≤ s.now := by
  cases time <;> simp [State.reached]

theorem answerAt_eq_some_iff
    {time : Nat} :
    s.answerAt = some time ↔
      ∃ since delay reading rest, s.phase = .reading since ∧
        s.source.next? = some (delay, reading, rest) ∧ since + delay = time := by
  unfold State.answerAt
  split
  · next since delay reading rest hphase hnext =>
      simp [hphase, hnext]
  · next hnone =>
      simp only [reduceCtorEq, false_iff]
      rintro ⟨since, delay, reading, rest, hphase, hnext, -⟩
      exact hnone since delay reading rest hphase hnext

theorem expiryAt_eq_some_iff
    {time : Nat} :
    s.expiryAt = some time ↔
      ∃ since idle, s.phase = .reading since ∧ s.idle = some idle ∧
        since + idle.timerMillis = time := by
  unfold State.expiryAt
  split
  · next since idle hphase hidle =>
      simp [hphase, hidle]
  · next hnone =>
      simp only [reduceCtorEq, false_iff]
      rintro ⟨since, idle, hphase, hidle, -⟩
      exact hnone since idle hphase hidle

theorem canPush_iff :
    s.canPush = true ↔ s.consumerGone = false ∧ s.queue.length < s.capacity := by
  simp [State.canPush]

/-- A move that is possible is one of the steps. -/
theorem step_of_move?
    (h : s.move? m = some s') :
    Step s m s' := by
  cases m with
  | read =>
      simp only [State.move?] at h
      split at h
      · next delay reading rest hnext =>
          split at h
          · next hreached =>
              cases h
              obtain ⟨time, hanswer, hdue⟩ := reached_iff.1 hreached
              obtain ⟨since, delay', reading', rest', hphase, hnext', rfl⟩ :=
                answerAt_eq_some_iff.1 hanswer
              cases hnext.symm.trans hnext'
              cases reading with
              | frame f =>
                  exact .readFrame hphase hnext hdue
              | failed cause =>
                  exact .readFailure hphase hnext hdue
              | ended =>
                  exact .readEnd hphase hnext hdue
          · cases h
      · cases h
  | expire =>
      simp only [State.move?] at h
      split at h
      · next idle hidle =>
          split at h
          · next hready =>
              cases h
              simp only [Bool.and_eq_true, Bool.not_eq_true'] at hready
              obtain ⟨time, hexpiry, hlate⟩ := reached_iff.1 hready.1
              obtain ⟨since, idle', hphase, hidle', rfl⟩ := expiryAt_eq_some_iff.1 hexpiry
              cases hidle.symm.trans hidle'
              refine .expire hphase hidle hlate ?_
              intro t ht
              refine Nat.lt_of_not_le fun hdue => ?_
              have hanswered := reached_iff.2 ⟨t, ht, hdue⟩
              exact absurd (hanswered.symm.trans hready.2) (by decide)
          · cases h
      · cases h
  | notice =>
      simp only [State.move?] at h
      split at h
      · next since hphase =>
          split at h
          · next hgone =>
              cases h
              exact .notice hphase hgone
          · cases h
      · cases h
  | push =>
      simp only [State.move?] at h
      split at h
      · next hcan =>
          obtain ⟨hhere, hroom⟩ := canPush_iff.1 hcan
          split at h
          · next f hphase =>
              cases h
              exact .pushFrame hphase hhere hroom
          · next message outcome hphase =>
              cases h
              exact .pushError hphase hhere hroom
          · cases h
      · cases h
  | discard =>
      simp only [State.move?] at h
      split at h
      · next hgone =>
          split at h
          · next f hphase =>
              cases h
              exact .discardFrame hphase hgone
          · next message outcome hphase =>
              cases h
              exact .discardError hphase hgone
          · cases h
      · cases h
  | report =>
      simp only [State.move?] at h
      split at h
      · next outcome hphase =>
          cases h
          exact .report hphase
      · cases h

theorem move?_of_step
    (h : Step s m s') :
    s.move? m = some s' := by
  cases h with
  | readFrame hphase hnext hdue =>
      have hreached := reached_iff.2 ⟨_, answerAt_eq_some_iff.2 ⟨_, _, _, _, hphase, hnext, rfl⟩, hdue⟩
      simp [State.move?, hnext, hreached, State.takeReading]
  | readFailure hphase hnext hdue =>
      have hreached := reached_iff.2 ⟨_, answerAt_eq_some_iff.2 ⟨_, _, _, _, hphase, hnext, rfl⟩, hdue⟩
      simp [State.move?, hnext, hreached, State.takeReading]
  | readEnd hphase hnext hdue =>
      have hreached := reached_iff.2 ⟨_, answerAt_eq_some_iff.2 ⟨_, _, _, _, hphase, hnext, rfl⟩, hdue⟩
      simp [State.move?, hnext, hreached, State.takeReading]
  | expire hphase hidle hlate hsilent =>
      have hexpired := reached_iff.2 ⟨_, expiryAt_eq_some_iff.2 ⟨_, _, hphase, hidle, rfl⟩, hlate⟩
      have hunanswered : s.reached s.answerAt = false := by
        rw [← Bool.not_eq_true, reached_iff]
        rintro ⟨time, hanswer, hdue⟩
        exact absurd hdue (Nat.not_le_of_lt (hsilent time hanswer))
      simp [State.move?, hidle, hexpired, hunanswered]
  | notice hphase hgone =>
      simp [State.move?, hphase, hgone]
  | pushFrame hphase hhere hroom =>
      simp [State.move?, canPush_iff.2 ⟨hhere, hroom⟩, hphase]
  | pushError hphase hhere hroom =>
      simp [State.move?, canPush_iff.2 ⟨hhere, hroom⟩, hphase]
  | discardFrame hphase hgone =>
      simp [State.move?, hphase, hgone]
  | discardError hphase hgone =>
      simp [State.move?, hphase, hgone]
  | report hphase =>
      simp [State.move?, hphase]

theorem not_step_of_move?_eq_none
    (hnone : ∀ m, s.move? m = none) :
    ¬Step s m s' := by
  intro h
  have hsome := move?_of_step h
  rw [hnone m] at hsome
  cases hsome

/-- What a move never touches. -/
theorem frame_step
    (h : Step s m s') :
    s'.idle = s.idle ∧ s'.capacity = s.capacity ∧ s'.consumerGone = s.consumerGone ∧
      s'.now = s.now := by
  cases h <;> exact ⟨rfl, rfl, rfl, rfl⟩

theorem outcome?_eq_some_iff
    {outcome : Outcome} :
    s.outcome? = some outcome ↔ ∃ reported, s.phase = .finished outcome reported := by
  unfold State.outcome?
  split <;> simp_all

theorem reported?_eq_some_iff
    {outcome : Outcome} :
    s.reported? = some outcome ↔ s.phase = .finished outcome true := by
  unfold State.reported?
  split <;> simp_all

theorem outcome?_of_reported?
    {outcome : Outcome}
    (h : s.reported? = some outcome) :
    s.outcome? = some outcome :=
  outcome?_eq_some_iff.2 ⟨true, reported?_eq_some_iff.1 h⟩

/-- Behind the end of its queue a transfer reports its outcome, and does no more. -/
theorem eq_report_of_finished
    {outcome : Outcome} {reported : Bool}
    (hphase : s.phase = .finished outcome reported)
    (h : Step s m s') :
    reported = false ∧ s' = { s with phase := .finished outcome true } := by
  cases h with
  | report hunreported =>
      rw [hphase] at hunreported
      cases hunreported
      exact ⟨rfl, rfl⟩
  | _ =>
      simp_all only [reduceCtorEq]

/-- Nothing moves behind the report. -/
theorem not_step_of_reported
    {outcome : Outcome}
    (hreported : s.reported? = some outcome) :
    ¬ Step s m s' := by
  intro h
  cases (eq_report_of_finished (reported?_eq_some_iff.1 hreported) h).1

end Moves

section Work

/-- The moves that a phase still leads to, the reading of further frames apart. -/
def Phase.work : Phase → Nat
  | .reading _ => 3
  | .sending _ => 4
  | .failing .. => 2
  | .finished _ false => 1
  | .finished _ true => 0

/-- A bound on what can still happen apart from the passing of time.  A delivery
is counted when it is moved into the queue and when it is taken out of it. -/
def State.work (s : State) : Nat :=
  2 * (2 * s.source.length + s.phase.work) + s.queue.length

theorem work_lt_of_step
    {s s' : State} {m : Move}
    (h : Step s m s') :
    s'.work < s.work := by
  cases h with
  | readFrame hphase hnext hdue =>
      have hlength := (Source.gives_of_next? hnext).2.2
      simp only [State.work, hphase, Phase.work]
      omega
  | readFailure hphase hnext hdue =>
      have hlength := (Source.gives_of_next? hnext).2.2
      simp only [State.work, hphase, Phase.work]
      omega
  | readEnd hphase hnext hdue =>
      have hlength := (Source.gives_of_next? hnext).2.2
      simp only [State.work, hphase, Phase.work]
      omega
  | expire hphase =>
      simp only [State.work, hphase, Phase.work]
      omega
  | notice hphase =>
      simp only [State.work, hphase, Phase.work]
      omega
  | pushFrame hphase =>
      simp only [State.work, hphase, Phase.work, List.length_append, List.length_singleton]
      omega
  | pushError hphase =>
      simp only [State.work, hphase, Phase.work, List.length_append, List.length_singleton]
      omega
  | discardFrame hphase =>
      simp only [State.work, hphase, Phase.work]
      omega
  | discardError hphase =>
      simp only [State.work, hphase, Phase.work]
      omega
  | report hphase =>
      simp only [State.work, hphase, Phase.work]
      omega

end Work

section Progress

variable {s : State}

/-- A source that stalls is read, and has all the time it wants. -/
def State.Stalled (s : State) : Prop :=
  (∃ since, s.phase = .reading since) ∧ s.source.next? = none ∧ s.idle = none

/-- Some move is possible from a time on, if nothing else happens. -/
def State.MovesFrom (s : State) (time : Nat) : Prop :=
  ∀ now, time ≤ now → ∃ m s', Step { s with now := now } m s'

theorem progress_reading
    {since : Nat}
    (hphase : s.phase = .reading since) :
    s.Stalled ∨ ∃ time, s.MovesFrom time := by
  cases hnext : s.source.next? with
  | some answer =>
      obtain ⟨delay, reading, rest⟩ := answer
      refine .inr ⟨since + delay, fun now hdue => ⟨.read, ?_⟩⟩
      cases reading with
      | frame f =>
          exact ⟨_, Step.readFrame (s := { s with now := now }) hphase hnext hdue⟩
      | failed cause =>
          exact ⟨_, Step.readFailure (s := { s with now := now }) hphase hnext hdue⟩
      | ended =>
          exact ⟨_, Step.readEnd (s := { s with now := now }) hphase hnext hdue⟩
  | none =>
      cases hidle : s.idle with
      | none =>
          exact .inl ⟨⟨since, hphase⟩, hnext, hidle⟩
      | some idle =>
          have hsilent : s.answerAt = none := by
            simp [State.answerAt, hphase, hnext]
          refine .inr ⟨since + idle.timerMillis, fun now hlate => ⟨.expire, _,
            Step.expire (s := { s with now := now }) hphase hidle hlate fun time htime => ?_⟩⟩
          exact absurd (hsilent.symm.trans htime) (by simp)

/-- A transfer with a consumer and an empty queue has reported its outcome, reads a
source that stalls, or can move once some time has come. -/
theorem progress
    (hcapacity : 0 < s.capacity) (hqueue : s.queue = []) (hhere : s.consumerGone = false) :
    s.reported?.isSome ∨ s.Stalled ∨ ∃ time, s.MovesFrom time := by
  have hroom : s.queue.length < s.capacity := by
    rw [hqueue]
    exact hcapacity
  cases hphase : s.phase with
  | reading since =>
      exact .inr (progress_reading hphase)
  | sending f =>
      exact .inr (.inr ⟨0, fun now _ =>
        ⟨_, _, Step.pushFrame (s := { s with now := now }) hphase hhere hroom⟩⟩)
  | failing message outcome =>
      exact .inr (.inr ⟨0, fun now _ =>
        ⟨_, _, Step.pushError (s := { s with now := now }) hphase hhere hroom⟩⟩)
  | finished outcome reported =>
      cases reported with
      | true =>
          exact .inl (by simp [State.reported?, hphase])
      | false =>
          exact .inr (.inr ⟨0, fun now _ =>
            ⟨_, _, Step.report (s := { s with now := now }) hphase⟩⟩)

end Progress

end Transfer
end SidecarProxy
