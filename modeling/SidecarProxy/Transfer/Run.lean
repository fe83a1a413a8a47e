import SidecarProxy.Transfer.Basic

/-!
# Runs of a transfer

A transfer that is left alone moves as far as it can and then waits for the
consumer or for its next timer.
-/

namespace SidecarProxy
namespace Transfer

/-- The order in which a transfer left alone prefers its moves. -/
def preference : List Move := [.read, .expire, .notice, .push, .discard, .report]

namespace State

/-- Lets the transfer move until it waits, for at most so many moves. -/
def settleWithin : Nat → State → State
  | 0, s => s
  | n + 1, s =>
    match preference.findSome? s.move? with
    | some s => settleWithin n s
    | none => s

/-- Lets the transfer move until it waits. -/
def settle (s : State) : State :=
  settleWithin (2 * s.source.length + 5) s

/-- The next moment at which a waiting transfer has something to do. -/
def nextTimer (s : State) : Option Nat :=
  match s.answerAt, s.expiryAt with
  | some a, some b => some (min a b)
  | some a, none => some a
  | none, b => b

/-- Settles, and lets time pass up to a moment, with at most so many pauses. -/
def passWithin (moment : Nat) : Nat → State → State
  | 0, s => (s.settle.passTo moment).settle
  | n + 1, s =>
    let s := s.settle
    match s.nextTimer with
    | some t => if t ≤ moment then passWithin moment n (s.passTo t) else s.passTo moment
    | none => s.passTo moment

/-- Lets a pause of so many milliseconds pass. -/
def pass (s : State) (millis : Nat) : State :=
  passWithin (s.now + (Span.ofMillis millis).pauseMillis) (s.source.length + 2) s

/-- What a consumer that waits for a delivery gets. -/
inductive Taken where
  | delivery (d : Delivery)
  | finished
  /-- Nothing, however long it waits. -/
  | never
  deriving DecidableEq, Repr

/-- Waits for a delivery, with at most so many pauses. -/
def awaitWithin : Nat → State → Taken × State
  | 0, s => (.never, s)
  | n + 1, s =>
    let s := s.settle
    match s.take with
    | (some d, s) => (.delivery d, s.settle)
    | (none, s) =>
      match s.outcome?, s.nextTimer with
      | some _, _ => (.finished, s)
      | none, some t => awaitWithin n (s.passTo t)
      | none, none => (.never, s)

/-- Waits for a delivery. -/
def await (s : State) : Taken × State :=
  awaitWithin (s.source.length + 3) s

/-- Takes deliveries until there are no more, at most so many. -/
def drainWithin : Nat → State → List Taken × State
  | 0, s => ([], s)
  | n + 1, s =>
    match s.await with
    | (.delivery d, s) =>
      let (more, s) := drainWithin n s
      (.delivery d :: more, s)
    | (taken, s) => ([taken], s)

/-- Takes deliveries until there are no more. -/
def drain (s : State) : List Taken × State :=
  drainWithin (s.source.length + s.queue.length + 4) s

end State
end Transfer
end SidecarProxy
