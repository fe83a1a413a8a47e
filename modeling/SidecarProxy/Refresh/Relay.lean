import SidecarProxy.Refresh.Event

/-!
# The relay of reload signals

Each reload signal becomes one full refresh in a bounded queue.  The relay
listens for the next signal and for the stop signal; while it waits for room in
the queue it listens for neither.  It ends when it is stopped, when the stream
of signals ends, or when nobody reads the queue any more.
-/

namespace SidecarProxy
namespace Refresh

/-- What the relay is doing. -/
inductive RelayPhase where
  /-- Waits for a signal or for the stop. -/
  | listening
  /-- Waits for room in the queue. -/
  | sending
  | finished
  deriving DecidableEq, Repr

/-- The relay with the streams at both of its ends. -/
structure Relay where
  /-- The events that the queue can hold. -/
  capacity : Nat
  /-- The signals that came and were not consumed. -/
  ready : Nat
  /-- Whether no further signal will come. -/
  ended : Bool
  phase : RelayPhase := .listening
  /-- The signals consumed so far. -/
  consumed : Nat := 0
  queued : List Event := []
  /-- The events put into the queue so far, those taken out again included. -/
  sent : List Event := []
  readerGone : Bool := false
  stopRequested : Bool := false
  deriving DecidableEq, Repr

namespace Relay

/-- A relay in front of an empty queue, which has to have room for an event. -/
def start? (capacity signals : Nat) (ends : Bool) : Option Relay :=
  if capacity = 0 then none
  else some { capacity := capacity, ready := signals, ended := ends }

/-- What the relay itself can do next. -/
inductive Move where
  /-- Obeys the stop. -/
  | stop
  /-- Consumes a signal. -/
  | consume
  /-- Ends with the stream of signals. -/
  | endOfStream
  /-- Puts the event for the consumed signal into the queue. -/
  | send
  /-- Gives up because nobody reads the queue. -/
  | giveUp
  deriving DecidableEq, Repr

/-- The state after a move, if the move is possible. -/
def move? (r : Relay) : Move → Option Relay
  | .stop =>
    if r.phase = .listening && r.stopRequested then some { r with phase := .finished } else none
  | .consume =>
    if r.phase = .listening && 0 < r.ready then
      some { r with phase := .sending, ready := r.ready - 1, consumed := r.consumed + 1 }
    else none
  | .endOfStream =>
    if r.phase = .listening && r.ready = 0 && r.ended then some { r with phase := .finished }
    else none
  | .send =>
    if r.phase = .sending && !r.readerGone && r.queued.length < r.capacity then
      some { r with phase := .listening, queued := r.queued ++ [.full], sent := r.sent ++ [.full] }
    else none
  | .giveUp =>
    if r.phase = .sending && r.readerGone then some { r with phase := .finished } else none

/-- The order in which a relay left alone prefers its moves. -/
def preference : List Move := [.stop, .consume, .endOfStream, .send, .giveUp]

/-- Lets the relay move until it waits, for at most so many moves. -/
def settleWithin : Nat → Relay → Relay
  | 0, r => r
  | n + 1, r =>
    match preference.findSome? r.move? with
    | some r => settleWithin n r
    | none => r

/-- Lets the relay move until it waits. -/
def settle (r : Relay) : Relay :=
  settleWithin (2 * r.ready + 3) r

/-- Takes the first event out of the queue. -/
def take (r : Relay) : Option Event × Relay :=
  match r.queued with
  | [] => (none, r)
  | e :: rest => (some e, { r with queued := rest })

/-- The reader of the queue leaves. -/
def leave (r : Relay) : Relay :=
  { r with readerGone := true }

/-- Asks the relay to stop. -/
def requestStop (r : Relay) : Relay :=
  { r with stopRequested := true }

/-- More signals come. -/
def arrive (r : Relay) (signals : Nat) : Relay :=
  { r with ready := r.ready + signals }

/-- Whether the relay has ended. -/
def isFinished (r : Relay) : Bool :=
  r.phase = .finished

end Relay
end Refresh
end SidecarProxy
