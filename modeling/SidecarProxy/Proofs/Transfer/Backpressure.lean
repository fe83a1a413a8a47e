import SidecarProxy.Proofs.Transfer.Delivery

/-!
# Backpressure

A transfer reads no further than its queue has room, and the clock of the idle
time stands still while it waits for the consumer.  Main statement: what was read
and not received is at most one frame more than the queue holds, and a source
that answers at once is never given up, however long the consumer takes.
-/

namespace SidecarProxy
namespace Transfer

section Held

variable {source : Source} {queued : List Delivery} {s start : State} {t : Transcript}

theorem Stage.produced_le
    (h : Stage source queued s) :
    s.produced ≤ (framesOf queued).length + 1 := by
  obtain ⟨frames, hproduced, h⟩ := h
  have hframes : framesOf queued = frames := by
    split at h
    · simp [h.1]
    · simp [h.1]
    · simp [h.1]
    · rcases h.1 with hqueued | ⟨-, hqueued⟩
      · simp [hqueued]
      · simp [hqueued]
  rw [hframes]
  exact hproduced

theorem Balanced.produced_le
    (h : Balanced source start t) :
    t.state.produced ≤ (framesOf t.received).length + (start.capacity + 1) := by
  obtain ⟨lost, hqueued, hlost⟩ := h.lost
  have hread := h.stage.produced_le
  rw [hqueued, framesOf_append, List.length_append] at hread
  rw [h.capacity] at hlost
  have hfew := length_framesOf_le lost
  omega

end Held

section Prompt

/-- A source that has its next frame, or its end, ready whenever it is read. -/
def Source.Prompt : Source → Prop
  | [] => True
  | .frame _ :: rest => Prompt rest
  | .fail _ :: _ => True
  | .pause millis :: rest => millis = 0 ∧ Prompt rest
  | .stall :: _ => False

theorem Source.Prompt.next?
    {source : Source}
    (h : source.Prompt) :
    ∃ reading rest, source.next? = some (0, reading, rest) ∧
      ∀ f, reading = .frame f → rest.Prompt := by
  induction source with
  | nil =>
      exact ⟨.ended, [], rfl, by simp⟩
  | cons step source ih =>
      cases step with
      | frame f =>
          exact ⟨.frame f, source, rfl, fun _ _ => h⟩
      | fail cause =>
          exact ⟨.failed cause, source, rfl, by simp⟩
      | pause millis =>
          obtain ⟨rfl, hrest⟩ := h
          obtain ⟨reading, rest, hnext, hprompt⟩ := ih hrest
          refine ⟨reading, rest, ?_, hprompt⟩
          simp [Source.next?, hnext, Span.ofMillis, Span.timerMillis, Span.pauseMillis]
      | stall =>
          cases h

/-- A transfer that reads a prompt source and is not bound for giving up. -/
def State.Unhurried (s : State) : Prop :=
  match s.phase with
  | .reading since => since ≤ s.now ∧ s.source.Prompt
  | .sending _ => s.source.Prompt
  | .failing _ outcome => ∀ bytes after, outcome ≠ .timedOut bytes after
  | .finished outcome _ => ∀ bytes after, outcome ≠ .timedOut bytes after

theorem unhurried_step
    {s s' : State} {m : Move}
    (h : s.Unhurried)
    (hmove : Step s m s') :
    s'.Unhurried := by
  unfold State.Unhurried at h
  cases hmove with
  | readFrame hphase hnext hdue =>
      rw [hphase] at h
      obtain ⟨reading, rest, hready, hprompt⟩ := h.2.next?
      cases hnext.symm.trans hready
      exact hprompt _ rfl
  | readFailure hphase hnext hdue =>
      intro bytes after
      simp
  | readEnd hphase hnext hdue =>
      intro bytes after
      simp
  | expire hphase hidle hlate hsilent =>
      -- The answer is there as soon as the source is asked.
      rw [hphase] at h
      obtain ⟨reading, rest, hready, -⟩ := h.2.next?
      have hanswer := answerAt_eq_some_iff.2 ⟨_, _, _, _, hphase, hready, rfl⟩
      exact absurd (hsilent _ hanswer) (Nat.not_lt_of_le h.1)
  | notice hphase hgone =>
      intro bytes after
      simp
  | pushFrame hphase hhere hroom =>
      rw [hphase] at h
      exact ⟨Nat.le_refl _, h⟩
  | pushError hphase hhere hroom =>
      rw [hphase] at h
      exact h
  | discardFrame hphase hgone =>
      intro bytes after
      simp
  | discardError hphase hgone =>
      rw [hphase] at h
      exact h
  | report hphase =>
      rw [hphase] at h
      exact h

theorem unhurried_step?
    {t t' : Transcript} {e : Event}
    (h : t.state.Unhurried)
    (hstep : t.step? e = some t') :
    t'.state.Unhurried := by
  cases Transcript.stepped_of_step? hstep with
  | act hmove =>
      exact unhurried_step h hmove
  | passTo time =>
      have hsame : (t.state.passTo time).phase = t.state.phase := rfl
      unfold State.Unhurried at h ⊢
      rw [hsame]
      split at h
      · exact ⟨h.1.trans (Nat.le_max_left _ _), h.2⟩
      · exact h
      · exact h
      · exact h
  | _ =>
      exact h

theorem unhurried_run?
    {t t' : Transcript} {events : List Event}
    (h : t.state.Unhurried)
    (hrun : t.run? events = some t') :
    t'.state.Unhurried :=
  Transcript.run?_keeps (P := fun t => t.state.Unhurried) unhurried_step? h hrun

end Prompt

section Main

/-- No more is read than there is room for, and no source is given up for the
time that the consumer takes. -/
theorem held_back_of_start?
    {frames : Nat} {idle : Option Span} {source : Source} {s : State} {t : Transcript}
    (hstart : start? frames idle source = some s)
    (hleads : Transcript.Leads { state := s } t) :
    t.state.produced ≤ (framesOf t.received).length + (max 1 frames + 1) ∧
      (source.Prompt →
        ∀ outcome, t.state.outcome? = some outcome ∨ outcome ∈ t.reports →
          ∀ bytes after, outcome ≠ .timedOut bytes after) := by
  obtain ⟨events, hrun⟩ := hleads
  unfold start? at hstart
  split at hstart
  · cases hstart
    have hbook := balanced_run? (balanced_start source (queueFor frames) idle) hrun
    refine ⟨hbook.produced_le, fun hprompt outcome hends => ?_⟩
    have hfirst : State.Unhurried
        { capacity := queueFor frames, idle := idle, source := source } :=
      ⟨Nat.le_refl _, hprompt⟩
    have hcalm := unhurried_run? (t := { state := _ }) hfirst hrun
    have houtcome : t.state.outcome? = some outcome := by
      rcases hends with houtcome | hmem
      · exact houtcome
      · rw [hbook.reports, Option.mem_toList] at hmem
        exact outcome?_of_reported? hmem
    obtain ⟨reported, hphase⟩ := outcome?_eq_some_iff.1 houtcome
    unfold State.Unhurried at hcalm
    rw [hphase] at hcalm
    exact hcalm
  · cases hstart

/-- A transfer whose source has everything ready. -/
def ready : State where
  capacity := 1
  idle := some (.ofMillis 50)
  source := [.frame (.data "abc"), .frame (.data "def"), .fail "reset"]

/-- The consumer stays away for longer than the idle time: one frame waits in the
queue, one in hand, and the source is not given up. -/
theorem held_back_of_start?_ready :
    start? 1 (some (.ofMillis 50)) ready.source = some ready ∧
      ∃ t, Transcript.Leads { state := ready } t ∧ t.state.now = 1000 ∧ t.received = [] ∧
        t.state.produced = 2 ∧
          t.state.produced ≤ (framesOf t.received).length + (max 1 1 + 1) ∧
            ∀ outcome, t.state.outcome? = some outcome ∨ outcome ∈ t.reports →
              ∀ bytes after, outcome ≠ .timedOut bytes after := by
  have hleads : Transcript.Leads { state := ready } _ :=
    ⟨[.act .read, .act .push, .act .read, .passTo 1000], rfl⟩
  obtain ⟨hheld, hprompt⟩ :=
    held_back_of_start? (show start? 1 (some (.ofMillis 50)) ready.source = some ready from rfl)
      hleads
  exact ⟨rfl, _, hleads, rfl, rfl, rfl, hheld, hprompt trivial⟩

end Main

end Transfer
end SidecarProxy
