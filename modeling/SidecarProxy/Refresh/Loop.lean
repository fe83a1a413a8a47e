import SidecarProxy.Refresh.Fetch

/-!
# The refresh loop

The loop takes events from a bounded queue and refreshes the tables, one event
after the other.  With an interval it refreshes both tables regularly as well; a
tick that came late moves the ticks after it.  It ends when it is stopped, or
when nobody can send events any more and none is left.

Times are in milliseconds since the start of the loop.
-/

namespace SidecarProxy
namespace Refresh

open Catalog Route

/-- The events that the queue can hold. -/
def queueCapacity : Nat := 16

/-- The milliseconds by which a tick may be late without moving the next one. -/
def tickTolerance : Nat := 5

/-- What the loop is doing. -/
inductive LoopPhase where
  | idle
  /-- Waits until a time before it fetches again for an event. -/
  | retrying (event : Event) (attempt : Nat) (wakeAt : Nat)
  | stopped
  /-- Broke off because a time did not fit a clock. -/
  | crashed
  deriving DecidableEq, Repr

/-- What does not change while the loop runs. -/
structure LoopPlan (σ : Type) where
  moduleId : String
  policy : Retry.Policy
  surroundings : Retry.Surroundings
  ask : Source σ
  /-- The milliseconds between two ticks; nothing when there are none. -/
  interval : Option Nat

/-- The loop between two actions. -/
structure Loop (σ : Type) where
  now : Nat := 0
  /-- When the next tick is due. -/
  nextTick : Option Nat := none
  queue : List Event := []
  senderGone : Bool := false
  stopRequested : Bool := false
  phase : LoopPhase := .idle
  published : Published
  source : σ
  events : List Metrics.Event := []

namespace Loop

variable {σ : Type}

/-- The loop at its start; the first tick has to fit the clock, which shows `clock`. -/
def start (plan : LoopPlan σ) (clock : Span) (published : Published) (source : σ) : Loop σ :=
  match plan.interval with
  | none => { published := published, source := source }
  | some period =>
    match clock.after? (.ofMillis period) with
    | some _ => { nextTick := some period, published := published, source := source }
    | none => { phase := .crashed, published := published, source := source }

/-- Whether the loop still runs. -/
def isRunning (l : Loop σ) : Bool :=
  match l.phase with
  | .idle | .retrying .. => true
  | .stopped | .crashed => false

/-- Applies a bootstrap that was fetched for an event. -/
def apply (l : Loop σ) (e : Event) (b : Bootstrap) : Loop σ :=
  let r := l.published.update (e.update b)
  { l with published := r.published, events := l.events ++ r.events, phase := .idle }

/-- Fetches once for an event. -/
def attempt (plan : LoopPlan σ) (e : Event) (n : Nat) (l : Loop σ) : Loop σ :=
  let (answer, source) := plan.ask plan.moduleId l.source
  let l := { l with source := source }
  match answer with
  | .ok b => l.apply e b
  | .error _ =>
    match Retry.nextDelay plan.policy plan.surroundings n with
    | .error () => { l with phase := .crashed }
    | .ok none => { l with phase := .idle }
    | .ok (some delay) => { l with phase := .retrying e (n + 1) (l.now + delay.pauseMillis) }

/-- Moves the tick that is due. -/
def moveTick (plan : LoopPlan σ) (due : Nat) (l : Loop σ) : Loop σ :=
  { l with
    nextTick := plan.interval.map fun period =>
      if due + tickTolerance < l.now then l.now + period else due + period }

/-- What the loop can do at its time. -/
inductive Move where
  /-- Fetches again. -/
  | retry
  /-- Takes an event out of the queue and fetches for it. -/
  | takeEvent
  /-- Refreshes both tables because a tick is due. -/
  | tick
  /-- Obeys the stop. -/
  | stop
  /-- Ends because no event is left and none can come. -/
  | drained
  deriving DecidableEq, Repr

/-- The loop after a move, if the move is possible. -/
def move? (plan : LoopPlan σ) (l : Loop σ) : Move → Option (Loop σ)
  | .retry =>
    match l.phase with
    | .retrying e n wakeAt => if wakeAt ≤ l.now then some (l.attempt plan e n) else none
    | _ => none
  | .takeEvent =>
    match l.phase, l.queue with
    | .idle, e :: rest => some ({ l with queue := rest }.attempt plan e 1)
    | _, _ => none
  | .tick =>
    match l.phase, l.nextTick with
    | .idle, some due =>
      if due ≤ l.now then some ((l.moveTick plan due).attempt plan .full 1) else none
    | _, _ => none
  | .stop =>
    if l.phase = .idle && l.stopRequested then some { l with phase := .stopped } else none
  | .drained =>
    if l.phase = .idle && l.senderGone && l.queue.isEmpty then some { l with phase := .stopped }
    else none

/-- The order in which a loop left alone prefers its moves. -/
def preference : List Move := [.retry, .takeEvent, .tick, .stop, .drained]

/-- The next time at which a waiting loop has something to do. -/
def nextTimer (l : Loop σ) : Option Nat :=
  match l.phase with
  | .retrying _ _ wakeAt => some wakeAt
  | .idle => l.nextTick
  | .stopped | .crashed => none

/-- Runs the loop up to a time, in at most so many actions and pauses. -/
def runWithin (plan : LoopPlan σ) (deadline : Nat) : Nat → Loop σ → Loop σ
  | 0, l => { l with now := max l.now deadline }
  | n + 1, l =>
    match preference.findSome? (l.move? plan) with
    | some l => runWithin plan deadline n l
    | none =>
      match l.nextTimer with
      | some t =>
        if t ≤ deadline then runWithin plan deadline n { l with now := max l.now t }
        else { l with now := max l.now deadline }
      | none => { l with now := max l.now deadline }

/-- A bound for the actions and pauses of so many milliseconds. -/
def actionBound (plan : LoopPlan σ) (l : Loop σ) (millis : Nat) : Nat :=
  let ticks := match plan.interval with
    | none => 0
    | some period => millis / max 1 period + 2
  2 * (l.queue.length + ticks + 2) * (plan.policy.maxAttempts + 2)

/-- Lets a pause of so many milliseconds pass. -/
def pass (plan : LoopPlan σ) (l : Loop σ) (millis : Nat) : Loop σ :=
  let millis := (Span.ofMillis millis).pauseMillis
  runWithin plan (l.now + millis) (actionBound plan l millis) l

/-- Sends an event without waiting; tells whether there was room for it. -/
def send (l : Loop σ) (e : Event) : Bool × Loop σ :=
  if l.isRunning && !l.senderGone && l.queue.length < queueCapacity then
    (true, { l with queue := l.queue ++ [e] })
  else (false, l)

/-- Nobody sends events any more. -/
def closeSender (l : Loop σ) : Loop σ :=
  { l with senderGone := true }

/-- Asks the loop to stop. -/
def requestStop (l : Loop σ) : Loop σ :=
  { l with stopRequested := true }

end Loop
end Refresh
end SidecarProxy
