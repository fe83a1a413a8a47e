import SidecarProxy.Proofs.Refresh.Rounds
import SidecarProxy.Proofs.Settings.Dialable
import SidecarProxy.Proofs.Settings.Words
import SidecarProxy.Startup

/-!
# Settings at the limits

The check of settings refuses the number zero and no large one.  Main statement:
what becomes of the numbers of accepted settings wherever they are used.  Repeated
attempts never break off, whether for the first document or in the refresh loop,
but a queue may be too long to be made, and the first refresh too late for the
clock.
-/

namespace SidecarProxy

open Exchange

section Queues

variable {s : ProxySettings} {signature : Message.Signature} {source : Transfer.Source}

/-- The transfer of a body, at its start. -/
def ProxySettings.transfer (s : ProxySettings) (source : Transfer.Source) : Transfer.State where
  capacity := s.writeQueueFrames
  idle := some (.ofMillis s.requestTimeoutMillis)
  source := source

theorem transfer?_ofSettings
    (hpositive : s.writeQueueFrames ≠ 0) :
    (Forwarder.ofSettings s signature).transfer? (some source) =
      if s.writeQueueFrames ≤ Transfer.longestQueue then some (some (s.transfer source))
      else none := by
  have hqueue : Transfer.queueFor s.writeQueueFrames = s.writeQueueFrames :=
    Nat.max_eq_right (Nat.one_le_iff_ne_zero.2 hpositive)
  simp only [Forwarder.transfer?, Forwarder.ofSettings, Transfer.start?, hqueue]
  split <;> rfl

end Queues

namespace Refresh
namespace Loop

variable {σ : Type} {plan : LoopPlan σ} {first l l' : Loop σ} {taken : List Event}

theorem after?_eq_none_iff
    {time delay : Span} :
    time.after? delay = none ↔ Span.latest.nanos < time.nanos + delay.nanos := by
  unfold Span.after?
  split
  · next hle => simp [hle]
  · next hgt => simpa using hgt

/-- A loop breaks off at its start exactly when the clock cannot show its first tick. -/
theorem start_phase_eq_crashed_iff
    {clock : Span} {p : Route.Published} {source : σ} :
    (Loop.start plan clock p source).phase = .crashed
      ↔
    ∃ period, plan.interval = some period ∧ clock.after? (.ofMillis period) = none := by
  unfold Loop.start
  -- The limit of the clock is too large to compute with, so its sums are named first.
  obtain ⟨due, hdue⟩ : ∃ due : Nat → Option Span, ∀ n, clock.after? (.ofMillis n) = due n :=
    ⟨_, fun _ => rfl⟩
  simp only [hdue]
  cases plan.interval with
  | none =>
      simp
  | some period =>
      cases hperiod : due period <;> simp [hperiod]

section Attempts

variable (hpolicy : plan.policy.InWords) (hclock : plan.surroundings.OnClock)

include hpolicy hclock

theorem attempt_phase_ne_crashed
    (e : Event) (n : Nat) (l : Loop σ) :
    (l.attempt plan e n).phase ≠ .crashed := by
  unfold Loop.attempt
  cases plan.ask plan.moduleId l.source with
  | mk answer source =>
      cases answer with
      | ok b =>
          exact LoopPhase.noConfusion
      | error failure =>
          cases hdelay : Retry.nextDelay plan.policy plan.surroundings n with
          | error _ =>
              exact absurd hdelay (Retry.nextDelay_ne_error hpolicy hclock n)
          | ok delay =>
              cases delay <;> exact LoopPhase.noConfusion

theorem move_phase_ne_crashed
    {m : Move}
    (hmove : l.move? plan m = some l') :
    l'.phase ≠ .crashed := by
  have hdoes := move?_eq_some_iff.1 hmove
  cases m with
  | retry =>
      obtain ⟨e, n, _, -, -, rfl⟩ := hdoes
      exact attempt_phase_ne_crashed hpolicy hclock e n l
  | takeEvent =>
      obtain ⟨e, rest, -, -, rfl⟩ := hdoes
      exact attempt_phase_ne_crashed hpolicy hclock e 1 _
  | tick =>
      obtain ⟨due, -, -, -, rfl⟩ := hdoes
      exact attempt_phase_ne_crashed hpolicy hclock .full 1 _
  | stop =>
      obtain ⟨-, -, rfl⟩ := hdoes
      exact LoopPhase.noConfusion
  | drained =>
      obtain ⟨-, -, -, rfl⟩ := hdoes
      exact LoopPhase.noConfusion

/-- A loop that has started never breaks off. -/
theorem Course.phase_ne_crashed
    (h : Course plan first taken l)
    (hfirst : first.phase ≠ .crashed) :
    l.phase ≠ .crashed := by
  induction h with
  | start =>
      exact hfirst
  | move _ hmove _ =>
      exact move_phase_ne_crashed hpolicy hclock hmove
  | @send _ l _ e ih =>
      rw [(send_same l e).1]
      exact ih
  | closeSender _ ih =>
      exact ih
  | requestStop _ ih =>
      exact ih
  | wait _ _ ih =>
      exact ih

end Attempts

end Loop
end Refresh

namespace Settings

section Limits

variable {s s' : Settings}

theorem ne_zero_of_checkNumber
    {n : Nat}
    (h : checkNumber n = none) :
    n ≠ 0 := by
  unfold checkNumber at h
  split at h
  · cases h
  · assumption

theorem writeQueueFrames_ne_zero_of_validate
    (h : s.validate = .ok s') :
    s.proxy.writeQueueFrames ≠ 0 :=
  ne_zero_of_checkNumber (check_eq_none_of_validate h
    (c := ("proxy.write_queue_frames", fun s => checkNumber s.proxy.writeQueueFrames))
    (by simp [checks]))

theorem maxAttempts_ne_zero_of_validate
    (h : s.validate = .ok s') :
    s.controlPlane.retry.maxAttempts ≠ 0 :=
  ne_zero_of_checkNumber (check_eq_none_of_validate h
    (c := ("control_plane.bootstrap_retry.max_attempts",
      fun s => checkNumber s.controlPlane.retry.maxAttempts))
    (by simp [checks]))

/-- Whether a clock that shows some time can show the time of the first refresh. -/
def FirstTickOnClock (s : Settings) (clock : Span) : Prop :=
  s.controlPlane.refreshIntervalSecs = 0 ∨
    clock.nanos + (Span.ofSecs s.controlPlane.refreshIntervalSecs).nanos ≤ Span.latest.nanos

theorem start_refreshPlan_phase_iff
    {σ : Type} {w : Retry.Surroundings} {ask : Refresh.Source σ} {clock : Span}
    {p : Route.Published} {source : σ} :
    (Refresh.Loop.start (s.refreshPlan w ask) clock p source).phase = .crashed
      ↔
    ¬s.FirstTickOnClock clock := by
  rw [Refresh.Loop.start_phase_eq_crashed_iff]
  unfold FirstTickOnClock
  simp only [refreshPlan, refreshMillis, Refresh.Loop.after?_eq_none_iff, Span.ofMillis,
    Span.ofSecs]
  by_cases hzero : s.controlPlane.refreshIntervalSecs = 0
  · simp [hzero]
  · simp only [hzero, if_false, Option.some.injEq, exists_eq_left', false_or]
    omega

/-- What becomes of the numbers of settings where they are used. -/
structure Bounds (s : Settings) : Prop where
  /-- The queue of a body has the length of the settings, unless that is too long. -/
  queue :
    ∀ signature source,
      (Forwarder.ofSettings s.proxy signature).transfer? (some source) =
        if s.proxy.writeQueueFrames ≤ Transfer.longestQueue then
          some (some (s.proxy.transfer source))
        else none
  /-- The refresh loop starts, unless its first tick is too late for the clock. -/
  refresher :
    ∀ {σ : Type} (w : Retry.Surroundings) (ask : Refresh.Source σ) (clock : Span)
      (p : Route.Published) (source : σ),
      (Refresh.Loop.start (s.refreshPlan w ask) clock p source).phase ≠ .crashed
        ↔
      s.FirstTickOnClock clock
  /-- No sum of a delay and of the time since the start is too long, and so attempts end by a
  success or by the policy. -/
  attempts :
    ∀ {σ ε α : Type} (w : Retry.Surroundings), w.OnClock →
      ∀ (op : σ → Except ε α × σ) (source : σ),
        (Retry.run s.controlPlane.retry.policy w op source).ending ≠ .overflow ∧
          (Retry.run s.controlPlane.retry.policy w op source).calls ≤
            s.controlPlane.retry.maxAttempts
  /-- Nor is there one in the refresh loop, whatever happens to it. -/
  refreshes :
    ∀ {σ : Type} (w : Retry.Surroundings), w.OnClock →
      ∀ (ask : Refresh.Source σ) (first l : Refresh.Loop σ) (taken : List Refresh.Event),
        first.phase ≠ .crashed →
          Refresh.Loop.Course (s.refreshPlan w ask) first taken l → l.phase ≠ .crashed

/-- The numbers of accepted settings are used within their bounds, but for two upper ones. -/
theorem bounds_of_validate
    (h : s.validate = .ok s')
    (hwords : s.InWords) :
    s.Bounds where
  queue _ _ := transfer?_ofSettings (writeQueueFrames_ne_zero_of_validate h)
  refresher _ _ _ _ _ := start_refreshPlan_phase_iff.not_left
  attempts w hw op source := by
    have hcalls := Retry.calls_run_le op s.controlPlane.retry.policy w source
    have hpositive := maxAttempts_ne_zero_of_validate h
    refine ⟨Retry.run_ne_overflow hwords.controlPlane.retry.policy hw op source, ?_⟩
    simp only [RetrySettings.policy] at hcalls ⊢
    omega
  refreshes _ hw _ _ _ _ hfirst hcourse :=
    hcourse.phase_ne_crashed hwords.controlPlane.retry.policy hw hfirst

/-- Settings with the longest queue, and with the latest first tick of a clock that shows zero. -/
def edgeSettings : Settings where
  module := { id := "mod-foo-1.0.0", name := "mod-foo" }
  controlPlane := { refreshIntervalSecs := 9223372036854775807 }
  proxy := { writeQueueFrames := 2305843009213693951 }

theorem inWords_edgeSettings :
    edgeSettings.InWords where
  controlPlane := ⟨by decide, by decide, inWords_default.controlPlane.retry⟩
  cache := inWords_default.cache
  proxy := ⟨by decide, by decide⟩

theorem bounds_of_validate_edgeSettings :
    edgeSettings.validate = .ok edgeSettings ∧
      edgeSettings.InWords ∧
      (∀ signature source,
        (Forwarder.ofSettings edgeSettings.proxy signature).transfer? (some source) =
          some (some (edgeSettings.proxy.transfer source))) ∧
      (∀ (w : Retry.Surroundings) (ask : Refresh.Source Unit) (p : Route.Published),
        (Refresh.Loop.start (edgeSettings.refreshPlan w ask) .zero p ()).phase ≠ .crashed) ∧
      ∀ op : Unit → Except ControlPlane.Failure Catalog.Bootstrap × Unit,
        (Retry.run edgeSettings.controlPlane.retry.policy ⟨fun _ => .latest, fun n => n⟩ op
          ()).calls ≤ 10 := by
  have hvalid : edgeSettings.validate = .ok edgeSettings := by
    decide
  have hbounds := bounds_of_validate hvalid inWords_edgeSettings
  refine ⟨hvalid, inWords_edgeSettings, hbounds.queue, ?_, ?_⟩
  · intro w ask p
    exact (hbounds.refresher w ask .zero p ()).2 (.inr (by decide))
  · intro op
    exact (hbounds.attempts _ (fun _ => Nat.le_refl _) op ()).2

/-- A document of settings with a queue that is too long by one frame. -/
def vastText : String :=
  "[module]\nid = \"mod-foo-1.0.0\"\nname = \"mod-foo\"\n" ++
    "[control_plane]\nrefresh_interval_secs = 9223372036854775807\n" ++
    "[proxy]\nwrite_queue_frames = 2305843009213693952\n"

/-- The settings of the document. -/
def vastSettings : Settings :=
  { edgeSettings with proxy := { writeQueueFrames := 2305843009213693952 } }

theorem ofText_vastText :
    ofText vastText = .ok vastSettings := by
  decide +kernel

/-- Settings that can be loaded, under which no body is transferred and, as soon as the clock has
shown a second, no refresh loop starts. -/
theorem not_usable_vastSettings :
    ofText vastText = .ok vastSettings ∧
      vastSettings.validate = .ok vastSettings ∧
      (∀ signature source,
        (Forwarder.ofSettings vastSettings.proxy signature).transfer? (some source) = none) ∧
      ∀ (w : Retry.Surroundings) (ask : Refresh.Source Unit) (clock : Span) (p : Route.Published),
        (Span.ofSecs 1).nanos ≤ clock.nanos →
          (Refresh.Loop.start (vastSettings.refreshPlan w ask) clock p ()).phase = .crashed := by
  refine ⟨ofText_vastText, (inWords_of_ofText ofText_vastText).2, ?_, ?_⟩
  · intro signature source
    rw [transfer?_ofSettings (by decide)]
    exact if_neg (by decide)
  · intro w ask clock p hclock
    rw [start_refreshPlan_phase_iff]
    rintro (hzero | hshown)
    · exact absurd hzero (by decide)
    · simp only [vastSettings, edgeSettings, Span.ofSecs, Span.latest] at hclock hshown
      omega

end Limits

end Settings
end SidecarProxy
