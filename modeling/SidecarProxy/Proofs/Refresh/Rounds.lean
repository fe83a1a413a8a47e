import SidecarProxy.Proofs.Refresh.Turns
import SidecarProxy.Refresh.Loop

/-!
# The rounds of the refresh loop

The refresh loop waits between the attempts to fetch a document, and meanwhile
events come, the clock goes on, and somebody may ask it to stop.  None of this
gets in between: whatever happens, the loop takes its events in turns.  Main
statements: the tables of the loop are those of the turns that it has finished,
and so they follow the documents that these turns brought; and a loop that is
left alone takes up the event that waits, the tick that comes due and the attempt
that it put off.
-/

namespace SidecarProxy
namespace Refresh

open Catalog Route

section Rounds

variable {σ : Type}

def LoopPlan.refresher (plan : LoopPlan σ) : Refresher σ where
  policy := plan.policy
  ask := plan.ask
  moduleId := plan.moduleId

def LoopPlan.turn (plan : LoopPlan σ) (e : Event) : Turn where
  event := e
  surroundings := plan.surroundings

/-- The tables after turns for some events. -/
def LoopPlan.behind
    (plan : LoopPlan σ) (start : Standing σ) (events : List Event) :
    Standing σ :=
  plan.refresher.run start (events.map plan.turn)

namespace Loop

/-- The event that a move takes up. -/
def Move.taken (l : Loop σ) : Move → List Event
  | .takeEvent => l.queue.take 1
  | .tick => [.full]
  | .retry => []
  | .stop => []
  | .drained => []

/-- The loop behind anything that may happen, with the events that it has taken up in order. -/
inductive Course (plan : LoopPlan σ) (start : Loop σ) : List Event → Loop σ → Prop
  | start :
      Course plan start [] start
  | move
      {taken : List Event} {l l' : Loop σ} {m : Move}
      (h : Course plan start taken l)
      (hmove : l.move? plan m = some l') :
      Course plan start (taken ++ m.taken l) l'
  | send
      {taken : List Event} {l : Loop σ}
      (h : Course plan start taken l)
      (e : Event) :
      Course plan start taken (l.send e).2
  | closeSender
      {taken : List Event} {l : Loop σ}
      (h : Course plan start taken l) :
      Course plan start taken l.closeSender
  | requestStop
      {taken : List Event} {l : Loop σ}
      (h : Course plan start taken l) :
      Course plan start taken l.requestStop
  | wait
      {taken : List Event} {l : Loop σ}
      (h : Course plan start taken l)
      {later : Nat}
      (hlater : l.now ≤ later) :
      Course plan start taken { l with now := later }

/-- The loop has the tables of a refresher, and its source is where the one of that is. -/
structure Level (l : Loop σ) (k : Standing σ) : Prop where
  published : l.published = k.published
  source : l.source = k.source

/-- The loop has come to an attempt in a turn of a refresher. -/
structure Fetches (l : Loop σ) (plan : LoopPlan σ) (k : Standing σ) (e : Event) (attempt : Nat) :
    Prop where
  published : l.published = k.published
  attempts :
    ∃ sleeps left, attempt + left = plan.policy.maxAttempts + 1 ∧
      plan.refresher.attempts k (plan.turn e) =
        Retry.runFrom plan.policy plan.surroundings (plan.ask plan.moduleId) attempt sleeps
          l.source left

/-- What the phase of the loop says of its tables. -/
def Abreast (l : Loop σ) (plan : LoopPlan σ) (start : Standing σ) (taken : List Event) : Prop :=
  match l.phase with
  | .idle => l.Level (plan.behind start taken)
  | .stopped => l.Level (plan.behind start taken)
  | .retrying e n _ =>
    ∃ front, taken = front ++ [e] ∧ l.Fetches plan (plan.behind start front) e n
  | .crashed => l.published = (plan.behind start taken).published

variable {plan : LoopPlan σ} {start k : Standing σ} {taken : List Event} {l l' : Loop σ}
variable {e : Event} {n : Nat}

theorem behind_snoc
    (plan : LoopPlan σ) (start : Standing σ) (events : List Event) (e : Event) :
    plan.behind start (events ++ [e]) =
      plan.refresher.turn (plan.behind start events) (plan.turn e) := by
  rw [LoopPlan.behind, List.map_append, List.map_singleton, run_snoc]
  rfl

theorem Level.fetches
    (h : l.Level k)
    (e : Event) :
    l.Fetches plan k e 1 where
  published := h.published
  attempts := ⟨[], plan.policy.maxAttempts, Nat.add_comm _ _, by rw [h.source]; rfl⟩

theorem turn_of_succeeded
    {r : Refresher σ} {t : Turn} {b : Bootstrap}
    (h : (r.attempts k t).ending = .succeeded b) :
    (r.turn k t).published = (k.published.update (t.event.update b)).published := by
  have hbrought : r.brought? k t = some ⟨t.event, b, k.sent + ((r.attempts k t).calls - 1)⟩ := by
    rw [Refresher.brought?, h]
    rfl
  exact (fetched_of_brought hbrought).1

theorem turn_of_failed
    {r : Refresher σ} {t : Turn}
    (h : (r.attempts k t).ending.value? = none) :
    (r.turn k t).published = k.published := by
  have hbrought : r.brought? k t = none := by
    rw [Refresher.brought?, h]
    rfl
  exact (fetched_of_brought_none hbrought).1

/-- An attempt ends the turn, or it is followed by the next one of the same turn. -/
theorem Fetches.attempt
    {front : List Event}
    (h : l.Fetches plan (plan.behind start front) e n) :
    (l.attempt plan e n).Abreast plan start (front ++ [e]) := by
  obtain ⟨hpublished, sleeps, left, hleft, hattempts⟩ := h
  have hsource := fetched_source (r := plan.refresher) (k := plan.behind start front)
    (t := plan.turn e)
  unfold Loop.attempt
  cases hask : plan.ask plan.moduleId l.source with
  | mk answer source =>
      unfold Retry.runFrom at hattempts
      simp only [hask] at hattempts ⊢
      cases answer with
      | ok b =>
          simp only at hattempts ⊢
          refine ⟨?_, ?_⟩
          · rw [behind_snoc, turn_of_succeeded (b := b) (by rw [hattempts]), ← hpublished]
            rfl
          · rw [behind_snoc, Refresher.turn, hsource.1, hattempts]
            rfl
      | error failure =>
          simp only at hattempts ⊢
          cases hdelay : Retry.nextDelay plan.policy plan.surroundings n with
          | error _ =>
              simp only [hdelay] at hattempts ⊢
              change l.published = _
              rw [behind_snoc, turn_of_failed (by rw [hattempts]; rfl), hpublished]
          | ok delay =>
              cases delay with
              | none =>
                  simp only [hdelay] at hattempts ⊢
                  refine ⟨?_, ?_⟩
                  · rw [behind_snoc, turn_of_failed (by rw [hattempts]; rfl), ← hpublished]
                  · rw [behind_snoc, Refresher.turn, hsource.1, hattempts]
              | some delay =>
                  have hlt := Retry.lt_of_nextDelay hdelay
                  obtain ⟨left, rfl⟩ : ∃ rest, left = rest + 1 := ⟨left - 1, by omega⟩
                  simp only [hdelay] at hattempts ⊢
                  exact ⟨front, rfl, hpublished, _, left, by omega, hattempts⟩

/-- What a move does, and when it is possible. -/
def Does (plan : LoopPlan σ) (l : Loop σ) : Move → Loop σ → Prop
  | .retry, l' =>
    ∃ e n wakeAt, l.phase = .retrying e n wakeAt ∧ wakeAt ≤ l.now ∧ l' = l.attempt plan e n
  | .takeEvent, l' =>
    ∃ e rest, l.phase = .idle ∧ l.queue = e :: rest ∧
      l' = { l with queue := rest }.attempt plan e 1
  | .tick, l' =>
    ∃ due, l.phase = .idle ∧ l.nextTick = some due ∧ due ≤ l.now ∧
      l' = (l.moveTick plan due).attempt plan .full 1
  | .stop, l' =>
    l.phase = .idle ∧ l.stopRequested = true ∧ l' = { l with phase := .stopped }
  | .drained, l' =>
    l.phase = .idle ∧ l.senderGone = true ∧ l.queue = [] ∧ l' = { l with phase := .stopped }

theorem move?_eq_some_iff
    {m : Move} :
    l.move? plan m = some l' ↔ l.Does plan m l' := by
  cases m with
  | retry =>
      cases hphase : l.phase <;> simp [Loop.move?, Does, hphase, @eq_comm _ l']
  | takeEvent =>
      cases hphase : l.phase <;> cases hqueue : l.queue <;>
        simp [Loop.move?, Does, hphase, hqueue, @eq_comm _ l']
  | tick =>
      cases hphase : l.phase <;> cases htick : l.nextTick <;>
        simp [Loop.move?, Does, hphase, htick, @eq_comm _ l']
  | stop =>
      simp [Loop.move?, Does, and_assoc, @eq_comm _ l']
  | drained =>
      simp [Loop.move?, Does, and_assoc, @eq_comm _ l']

theorem Abreast.move
    (h : l.Abreast plan start taken)
    {m : Move}
    (hmove : l.move? plan m = some l') :
    l'.Abreast plan start (taken ++ m.taken l) := by
  have hcases := move?_eq_some_iff.1 hmove
  unfold Abreast at h
  cases m with
  | retry =>
      obtain ⟨e, n, wakeAt, hphase, -, rfl⟩ := hcases
      simp only [hphase] at h
      obtain ⟨front, rfl, hfetches⟩ := h
      rw [Move.taken, List.append_nil]
      exact hfetches.attempt
  | takeEvent =>
      obtain ⟨e, rest, hphase, hqueue, rfl⟩ := hcases
      simp only [hphase] at h
      rw [Move.taken, hqueue]
      have hlevel : ({ l with queue := rest } : Loop σ).Level (plan.behind start taken) :=
        ⟨h.published, h.source⟩
      exact (hlevel.fetches e).attempt
  | tick =>
      obtain ⟨due, hphase, -, -, rfl⟩ := hcases
      simp only [hphase] at h
      have hlevel : (l.moveTick plan due).Level (plan.behind start taken) :=
        ⟨h.published, h.source⟩
      exact (hlevel.fetches .full).attempt
  | stop =>
      obtain ⟨hphase, -, rfl⟩ := hcases
      simp only [hphase] at h
      rw [Move.taken, List.append_nil]
      exact ⟨h.published, h.source⟩
  | drained =>
      obtain ⟨hphase, -, -, rfl⟩ := hcases
      simp only [hphase] at h
      rw [Move.taken, List.append_nil]
      exact ⟨h.published, h.source⟩

/-- What happens around the loop does not concern its tables. -/
theorem Abreast.of_same
    (h : l.Abreast plan start taken)
    (hphase : l'.phase = l.phase)
    (hpublished : l'.published = l.published)
    (hsource : l'.source = l.source) :
    l'.Abreast plan start taken := by
  unfold Abreast at h ⊢
  rw [hphase]
  cases hl : l.phase with
  | idle =>
      simp only [hl] at h ⊢
      exact ⟨hpublished.trans h.published, hsource.trans h.source⟩
  | stopped =>
      simp only [hl] at h ⊢
      exact ⟨hpublished.trans h.published, hsource.trans h.source⟩
  | retrying e n wakeAt =>
      simp only [hl] at h ⊢
      obtain ⟨front, htaken, hfetches⟩ := h
      exact ⟨front, htaken, hpublished.trans hfetches.published, hsource ▸ hfetches.attempts⟩
  | crashed =>
      simp only [hl] at h ⊢
      exact hpublished.trans h

theorem send_same
    (l : Loop σ) (e : Event) :
    (l.send e).2.phase = l.phase ∧ (l.send e).2.published = l.published ∧
      (l.send e).2.source = l.source := by
  unfold Loop.send
  split <;> exact ⟨rfl, rfl, rfl⟩

theorem abreast_start
    (plan : LoopPlan σ) (clock : Span) (p : Published) (s : σ) :
    (Loop.start plan clock p s).Abreast plan { published := p, source := s } [] := by
  unfold Loop.start
  -- Which times the clock can show does not matter, and their limit is too large to compute with.
  obtain ⟨due, hdue⟩ : ∃ due : Nat → Option Span, ∀ n, clock.after? (.ofMillis n) = due n :=
    ⟨_, fun _ => rfl⟩
  simp only [hdue]
  cases plan.interval with
  | none =>
      exact ⟨rfl, rfl⟩
  | some period =>
      dsimp only
      cases due period with
      | none =>
          exact rfl
      | some _ =>
          exact ⟨rfl, rfl⟩

theorem Course.abreast
    {first : Loop σ}
    (hstart : first.Abreast plan start [])
    (h : Course plan first taken l) :
    l.Abreast plan start taken := by
  induction h with
  | start =>
      exact hstart
  | move _ hmove ih =>
      exact ih.move hmove
  | @send _ l _ e ih =>
      obtain ⟨hphase, hpublished, hsource⟩ := send_same l e
      exact ih.of_same hphase hpublished hsource
  | closeSender _ ih =>
      exact ih.of_same rfl rfl rfl
  | requestStop _ ih =>
      exact ih.of_same rfl rfl rfl
  | wait _ _ ih =>
      exact ih.of_same rfl rfl rfl

/-- A loop that is left alone moves and waits. -/
theorem course_runWithin
    {first : Loop σ}
    (deadline fuel : Nat)
    (h : Course plan first taken l) :
    ∃ more, Course plan first (taken ++ more) (l.runWithin plan deadline fuel) := by
  have hwait {taken : List Event} {l : Loop σ} (h : Course plan first taken l) (t : Nat) :
      Course plan first (taken ++ []) { l with now := max l.now t } := by
    rw [List.append_nil]
    exact h.wait (Nat.le_max_left _ _)
  induction fuel generalizing taken l with
  | zero =>
      exact ⟨[], hwait h deadline⟩
  | succ fuel ih =>
      unfold Loop.runWithin
      cases hfind : preference.findSome? (l.move? plan) with
      | some l' =>
          obtain ⟨m, -, hmove⟩ := List.exists_of_findSome?_eq_some hfind
          obtain ⟨more, hmore⟩ := ih (h.move hmove)
          exact ⟨m.taken l ++ more, by rwa [← List.append_assoc]⟩
      | none =>
          dsimp only
          cases l.nextTimer with
          | none =>
              exact ⟨[], hwait h deadline⟩
          | some t =>
              dsimp only
              split
              · obtain ⟨more, hmore⟩ := ih (hwait h t)
                exact ⟨more, by rwa [List.append_nil] at hmore⟩
              · exact ⟨[], hwait h deadline⟩

/-- An idle loop prefers the event that waits. -/
theorem findSome?_takeEvent
    {rest : List Event}
    (hphase : l.phase = .idle)
    (hqueue : l.queue = e :: rest) :
    preference.findSome? (l.move? plan) = some ({ l with queue := rest }.attempt plan e 1) := by
  simp [preference, Loop.move?, hphase, hqueue]

theorem findSome?_tick
    {due : Nat}
    (hphase : l.phase = .idle)
    (hqueue : l.queue = [])
    (htick : l.nextTick = some due)
    (hdue : due ≤ l.now) :
    preference.findSome? (l.move? plan) = some ((l.moveTick plan due).attempt plan .full 1) := by
  simp [preference, Loop.move?, hphase, hqueue, htick, hdue]

theorem findSome?_retry
    {wakeAt : Nat}
    (hphase : l.phase = .retrying e n wakeAt)
    (hwake : wakeAt ≤ l.now) :
    preference.findSome? (l.move? plan) = some (l.attempt plan e n) := by
  simp [preference, Loop.move?, hphase, hwake]

/-- A loop that is left alone makes the first move that it can. -/
theorem runWithin_of_move
    (deadline fuel : Nat)
    (hfirst : preference.findSome? (l.move? plan) = some l') :
    l.runWithin plan deadline (fuel + 1) = l'.runWithin plan deadline fuel := by
  rw [Loop.runWithin, hfirst]

/-- A loop that cannot move waits for its next timer. -/
theorem runWithin_of_wait
    {deadline t : Nat}
    (fuel : Nat)
    (hnone : preference.findSome? (l.move? plan) = none)
    (htimer : l.nextTimer = some t)
    (ht : t ≤ deadline) :
    l.runWithin plan deadline (fuel + 1) =
      ({ l with now := max l.now t } : Loop σ).runWithin plan deadline fuel := by
  rw [Loop.runWithin, hnone]
  dsimp only
  rw [htimer]
  exact if_pos ht

/-- A loop waits for its timer if it has to, and makes the move that is due then. -/
theorem runWithin_of_timer
    {deadline t : Nat}
    (fuel : Nat)
    (htimer : l.nextTimer = some t)
    (ht : t ≤ deadline)
    (hearly : l.now < t → preference.findSome? (l.move? plan) = none)
    (hdue :
      preference.findSome? (({ l with now := max l.now t } : Loop σ).move? plan) = some l') :
    ∃ left, l.runWithin plan deadline (fuel + 2) = l'.runWithin plan deadline left := by
  rcases Nat.lt_or_ge l.now t with hlt | hle
  · rw [runWithin_of_wait (fuel + 1) (hearly hlt) htimer ht]
    exact ⟨fuel, runWithin_of_move deadline fuel hdue⟩
  · rw [Nat.max_eq_left hle] at hdue
    exact ⟨fuel + 1, runWithin_of_move deadline (fuel + 1) hdue⟩

/-- What a loop that is left alone for a while does first, and what may follow. -/
structure TakesUp (plan : LoopPlan σ) (l : Loop σ) (millis : Nat) : Prop where
  /-- An event that waits in the queue is taken at once. -/
  queued :
    ∀ e rest, l.phase = .idle → l.queue = e :: rest →
      ∃ more, Course plan ({ l with queue := rest }.attempt plan e 1) more (l.pass plan millis)
  /-- A tick is taken when it comes due. -/
  ticked :
    ∀ due, l.phase = .idle → l.queue = [] → l.stopRequested = false → l.senderGone = false →
      l.nextTick = some due → due ≤ l.now + (Span.ofMillis millis).pauseMillis →
        ∃ more,
          Course plan (({ l with now := max l.now due }.moveTick plan due).attempt plan .full 1)
            more (l.pass plan millis)
  /-- An attempt that was put off is made when its time has come. -/
  retried :
    ∀ e n wakeAt, l.phase = .retrying e n wakeAt →
      wakeAt ≤ l.now + (Span.ofMillis millis).pauseMillis →
        ∃ more,
          Course plan ({ l with now := max l.now wakeAt }.attempt plan e n) more
            (l.pass plan millis)

theorem two_le_actionBound
    (plan : LoopPlan σ) (l : Loop σ) (millis : Nat) :
    2 ≤ l.actionBound plan millis := by
  unfold Loop.actionBound
  dsimp only
  rw [Nat.mul_assoc]
  exact Nat.le_mul_of_pos_right 2 (Nat.mul_pos (by omega) (by omega))

theorem takesUp
    (plan : LoopPlan σ) (l : Loop σ) (millis : Nat) :
    l.TakesUp plan millis := by
  obtain ⟨fuel, hfuel⟩ :=
    Nat.exists_eq_add_of_le' (two_le_actionBound plan l (Span.ofMillis millis).pauseMillis)
  have hpass : l.pass plan millis =
      l.runWithin plan (l.now + (Span.ofMillis millis).pauseMillis) (fuel + 2) := by
    rw [Loop.pass, ← hfuel]
  have hcourse (l' : Loop σ) (deadline left : Nat) :
      ∃ more, Course plan l' more (l'.runWithin plan deadline left) := by
    have hstart : Course plan l' [] l' := .start
    simpa using course_runWithin deadline left hstart
  refine ⟨fun e rest hphase hqueue => ?_, fun due hphase hqueue hstop hsender htick hdue => ?_,
    fun e n wakeAt hphase hwake => ?_⟩
  · rw [hpass, runWithin_of_move _ _ (findSome?_takeEvent hphase hqueue)]
    exact hcourse _ _ _
  · have hearly : l.now < due → preference.findSome? (l.move? plan) = none := by
      intro hlt
      simp [preference, Loop.move?, hphase, hqueue, htick, hstop, hsender, Nat.not_le.2 hlt]
    have hthen :
        preference.findSome? (({ l with now := max l.now due } : Loop σ).move? plan) =
          some (({ l with now := max l.now due }.moveTick plan due).attempt plan .full 1) :=
      findSome?_tick hphase hqueue htick (Nat.le_max_right _ _)
    have htimer : l.nextTimer = some due := by
      rw [Loop.nextTimer, hphase]
      exact htick
    obtain ⟨left, hleft⟩ := runWithin_of_timer fuel htimer hdue hearly hthen
    rw [hpass, hleft]
    exact hcourse _ _ _
  · have hearly : l.now < wakeAt → preference.findSome? (l.move? plan) = none := by
      intro hlt
      simp [preference, Loop.move?, hphase, Nat.not_le.2 hlt]
    have hthen :
        preference.findSome? (({ l with now := max l.now wakeAt } : Loop σ).move? plan) =
          some ({ l with now := max l.now wakeAt }.attempt plan e n) :=
      findSome?_retry hphase (Nat.le_max_right _ _)
    have htimer : l.nextTimer = some wakeAt := by
      rw [Loop.nextTimer, hphase]
    obtain ⟨left, hleft⟩ := runWithin_of_timer fuel htimer hwake hearly hthen
    rw [hpass, hleft]
    exact hcourse _ _ _

/-- The events whose turns are over. -/
def finished (l : Loop σ) (taken : List Event) : List Event :=
  match l.phase with
  | .idle => taken
  | .retrying .. => taken.dropLast
  | .stopped => taken
  | .crashed => taken

theorem Abreast.published
    (h : l.Abreast plan start taken) :
    l.published = (plan.behind start (l.finished taken)).published := by
  unfold Abreast at h
  unfold finished
  cases hphase : l.phase with
  | idle =>
      simp only [hphase] at h
      exact h.published
  | retrying e n wakeAt =>
      simp only [hphase] at h
      obtain ⟨front, rfl, hfetches⟩ := h
      dsimp only
      rw [List.dropLast_concat]
      exact hfetches.published
  | stopped =>
      simp only [hphase] at h
      exact h.published
  | crashed =>
      simp only [hphase] at h
      exact h

end Loop

end Rounds

section Main

/--
Tables that are refreshed in turns follow the documents that the turns brought.
The refresh loop takes its events in turns, whatever happens around it, so its
tables are always those of some turns; and when it is left alone, it takes up
the event that waits, the tick that comes due and the attempt that it put off.
-/
theorem refreshed_in_turns
    (url : Option String) (calls : List Call) :
    let p := ((Session.fresh url).run calls).published
    (∀ {σ : Type} (r : Refresher σ) (s : σ) (turns : List Turn),
      r.KeepsUp { published := p, source := s } turns) ∧
    ∀ {σ : Type} (plan : LoopPlan σ) (clock : Span) (s : σ) (taken : List Event) (l : Loop σ),
      Loop.Course plan (Loop.start plan clock p s) taken l →
        l.published =
          (plan.refresher.run { published := p, source := s }
            ((l.finished taken).map plan.turn)).published ∧
        ∀ millis, ∃ more,
          Loop.Course plan (Loop.start plan clock p s) (taken ++ more) (l.pass plan millis) ∧
            l.TakesUp plan millis := by
  intro p
  obtain ⟨history, hs⟩ := (Session.on_fresh url).run calls
  refine ⟨fun r s turns => keepsUp_of_on hs.published r s turns, ?_⟩
  intro σ plan clock s taken l hcourse
  refine ⟨(hcourse.abreast (Loop.abreast_start plan clock p s)).published, fun millis => ?_⟩
  obtain ⟨more, hmore⟩ := Loop.course_runWithin _ _ hcourse
  exact ⟨more, hmore, Loop.takesUp plan l millis⟩

def entityBootstrap : Bootstrap where
  module :=
    { moduleId := "mod-foo-1.0.0"
      interfaces :=
        [{ id := "entities", endpoints := [{ path := some "/entities", methods := ["GET"] }] }] }

/-- A source that fails once, and half a second until it is asked again. -/
def flakyPlan : LoopPlan Nat where
  moduleId := "mod-foo-1.0.0"
  policy := ⟨3, .ofMillis 500, .ofSecs 10, .ofSecs 60⟩
  surroundings := ⟨fun _ => .zero, fun _ => 0⟩
  ask _ n := (if n = 0 then .error (.transport "connection refused") else .ok entityBootstrap, n + 1)
  interval := none

/-- The loop that was sent one event. -/
def sentLoop : Loop Nat :=
  ((Loop.start flakyPlan .zero {} 0).send .full).2

/-- The loop that waits before its second attempt. -/
def waitingLoop : Loop Nat :=
  { sentLoop with queue := [] }.attempt flakyPlan .full 1

def refreshedLoop : Loop Nat :=
  { waitingLoop with now := 500 }.attempt flakyPlan .full 2

/-- The tables change with the second attempt, which the loop makes when it is left alone. -/
theorem refreshed_in_turns_flakySource :
    waitingLoop.published = {} ∧
      refreshedLoop.published.ingress.table.size = 1 ∧
      refreshedLoop.published =
        (flakyPlan.refresher.run { published := {}, source := 0 }
          [flakyPlan.turn .full]).published ∧
      ∃ more, Loop.Course flakyPlan refreshedLoop more (waitingLoop.pass flakyPlan 500) := by
  have htake : sentLoop.move? flakyPlan .takeEvent = some waitingLoop :=
    Loop.move?_eq_some_iff.2 ⟨.full, [], rfl, rfl, rfl⟩
  have hphase : waitingLoop.phase = .retrying .full 2 500 := by decide +kernel
  have hretry : ({ waitingLoop with now := 500 } : Loop Nat).move? flakyPlan .retry =
      some refreshedLoop :=
    Loop.move?_eq_some_iff.2 ⟨.full, 2, 500, hphase, by decide, rfl⟩
  have hwaiting : Loop.Course flakyPlan (Loop.start flakyPlan .zero {} 0) [.full] waitingLoop :=
    .move (.send .start .full) htake
  have hrefreshed :
      Loop.Course flakyPlan (Loop.start flakyPlan .zero {} 0) [.full] refreshedLoop :=
    .move (.wait hwaiting (by decide +kernel)) hretry
  obtain ⟨-, hloop⟩ := refreshed_in_turns none []
  obtain ⟨-, hpass⟩ := hloop flakyPlan .zero 0 _ _ hwaiting
  obtain ⟨_, -, htakesUp⟩ := hpass 500
  exact ⟨rfl, by decide +kernel, (hloop flakyPlan .zero 0 _ _ hrefreshed).1,
    htakesUp.retried .full 2 500 hphase (by decide +kernel)⟩

end Main

end Refresh
end SidecarProxy
