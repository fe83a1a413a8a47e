import SidecarProxy.Span

/-!
# Deadlines

Work is awaited up to a deadline.  Timers fire on whole milliseconds, and work
that ends when the deadline fires has ended in time.
-/

namespace SidecarProxy

/-- Why work under a deadline has no value. -/
inductive DeadlineError (ε : Type) where
  /-- The deadline came first. -/
  | elapsed (deadline : Span)
  /-- The work failed. -/
  | failed (e : ε)
  deriving DecidableEq, Repr

/-- The wording of a failure. -/
def DeadlineError.message {ε : Type} (wording : ε → String) : DeadlineError ε → String
  | .elapsed deadline => s!"deadline of {deadline.render} elapsed"
  | .failed e => wording e

/-- Work that is waited for. -/
structure Work (ε α : Type) where
  /-- The time after which it ends; nothing when it never does. -/
  after : Option Span
  result : Except ε α

/-- Work that makes a pause before it ends. -/
def Work.afterPause {ε α : Type} (pause : Span) (result : Except ε α) : Work ε α :=
  ⟨some (.ofMillis pause.pauseMillis), result⟩

/-- The result of work under a deadline, and the millisecond at which it is known. -/
def awaitWithin {ε α : Type} (deadline : Span) (w : Work ε α) :
    Except (DeadlineError ε) α × Nat :=
  match w.after with
  | none => (.error (.elapsed deadline), deadline.timerMillis)
  | some after =>
    if after.timerMillis ≤ deadline.timerMillis then
      (w.result.mapError .failed, after.timerMillis)
    else (.error (.elapsed deadline), deadline.timerMillis)

end SidecarProxy
