import SidecarProxy.Transfer.Source

/-!
# The transfer of a body

A transfer moves the frames of a source into a bounded queue, from which a
consumer takes them.  While the queue is full the source is not read, and while
the source is read it may be given a longest time to answer.  A source that
fails or takes too long puts an error behind the frames, so that the consumer
does not mistake a part of the body for the whole.  A transfer that has ended
closes its queue first and reports its outcome in a step of its own, so that the
consumer may be told the end before the report is made.

Every move below is one step that no other move interrupts; when several are
possible, any of them may come first.
-/

namespace SidecarProxy
namespace Transfer

/-- The longest queue that can be made: `2 ^ 61 - 1`. -/
def longestQueue : Nat := 2305843009213693951

/-- What the consumer gets. -/
inductive Delivery where
  | frame (f : Frame)
  | error (message : String)
  deriving DecidableEq, Repr

/-- How a transfer ended, with the bytes that were put into the queue. -/
inductive Outcome where
  | completed (bytes : Nat)
  /-- The consumer left before the source ended. -/
  | clientGone (bytes : Nat)
  | sourceFailed (bytes : Nat) (cause : String)
  /-- The source did not answer in time. -/
  | timedOut (bytes : Nat) (after : Span)
  deriving DecidableEq, Repr

/-- The written name of an outcome. -/
def Outcome.name : Outcome → String
  | .completed _ => "completed"
  | .clientGone _ => "client_gone"
  | .sourceFailed .. => "stream_failed"
  | .timedOut .. => "stream_timeout"

/-- The bytes that were put into the queue. -/
def Outcome.bytes : Outcome → Nat
  | .completed n | .clientGone n | .sourceFailed n _ | .timedOut n _ => n

/-- What a transfer is doing. -/
inductive Phase where
  /-- Waits for the source, since a time. -/
  | reading (since : Nat)
  /-- Waits for room for a frame. -/
  | sending (f : Frame)
  /-- Waits for room for an error, after which the transfer has ended. -/
  | failing (message : String) (outcome : Outcome)
  /-- The queue is closed, and the outcome was reported or still has to be. -/
  | finished (outcome : Outcome) (reported : Bool)
  deriving DecidableEq, Repr

/-- A transfer between two moves. -/
structure State where
  /-- The deliveries that the queue can hold. -/
  capacity : Nat
  /-- The longest time that the source is given to answer. -/
  idle : Option Span
  now : Nat := 0
  source : Source
  phase : Phase := .reading 0
  queue : List Delivery := []
  /-- The bytes put into the queue so far. -/
  bytes : Nat := 0
  /-- The frames and failures that the source handed out so far. -/
  produced : Nat := 0
  consumerGone : Bool := false
  deriving DecidableEq, Repr

/-- The capacity of a queue for so many frames; there is room for one at least. -/
def queueFor (frames : Nat) : Nat :=
  max 1 frames

/-- A transfer at its start; nothing when no queue of that length can be made. -/
def start? (frames : Nat) (idle : Option Span) (source : Source) : Option State :=
  if queueFor frames ≤ longestQueue then
    some { capacity := queueFor frames, idle := idle, source := source }
  else none

/-- The wording of the error of a source that did not answer in time. -/
def idleMessage (after : Span) : String :=
  s!"no body data within {after.render}"

/-- What a transfer itself can do next. -/
inductive Move where
  /-- Takes the answer of the source. -/
  | read
  /-- Gives up on a source that does not answer. -/
  | expire
  /-- Stops reading because the consumer left. -/
  | notice
  /-- Puts what was read into the queue. -/
  | push
  /-- Drops what was read because the consumer left. -/
  | discard
  /-- Reports the outcome of a transfer that has ended. -/
  | report
  deriving DecidableEq, Repr

namespace State

/-- When the source answers, if it does and is being read. -/
def answerAt (s : State) : Option Nat :=
  match s.phase, s.source.next? with
  | .reading since, some (delay, _, _) => some (since + delay)
  | _, _ => none

/-- When the transfer gives up on the source, if it is being read. -/
def expiryAt (s : State) : Option Nat :=
  match s.phase, s.idle with
  | .reading since, some idle => some (since + idle.timerMillis)
  | _, _ => none

/-- Whether a time has come. -/
def reached (s : State) (time : Option Nat) : Bool :=
  match time with
  | some t => t ≤ s.now
  | none => false

/-- Takes a reading from the source. -/
def takeReading (s : State) (reading : Reading) (rest : Source) : State :=
  match reading with
  | .frame f => { s with source := rest, produced := s.produced + 1, phase := .sending f }
  | .failed cause =>
    { s with
      source := rest, produced := s.produced + 1
      phase := .failing cause (.sourceFailed s.bytes cause) }
  | .ended => { s with source := rest, phase := .finished (.completed s.bytes) false }

/-- Whether there is room in the queue and somebody to read it. -/
def canPush (s : State) : Bool :=
  !s.consumerGone && s.queue.length < s.capacity

/-- The transfer after a move, if the move is possible. -/
def move? (s : State) : Move → Option State
  | .read =>
    match s.source.next? with
    | some (_, reading, rest) =>
      if s.reached s.answerAt then some (s.takeReading reading rest) else none
    | none => none
  | .expire =>
    match s.idle with
    | some idle =>
      if s.reached s.expiryAt && !s.reached s.answerAt then
        some { s with phase := .failing (idleMessage idle) (.timedOut s.bytes idle) }
      else none
    | none => none
  | .notice =>
    match s.phase with
    | .reading _ =>
      if s.consumerGone then some { s with phase := .finished (.clientGone s.bytes) false } else none
    | _ => none
  | .push =>
    if s.canPush then
      match s.phase with
      | .sending f =>
        some { s with
          queue := s.queue ++ [.frame f], bytes := s.bytes + f.size, phase := .reading s.now }
      | .failing message outcome =>
        some { s with queue := s.queue ++ [.error message], phase := .finished outcome false }
      | _ => none
    else none
  | .discard =>
    if s.consumerGone then
      match s.phase with
      | .sending _ => some { s with phase := .finished (.clientGone s.bytes) false }
      | .failing _ outcome => some { s with phase := .finished outcome false }
      | _ => none
    else none
  | .report =>
    match s.phase with
    | .finished outcome false => some { s with phase := .finished outcome true }
    | _ => none

/-- How the transfer ended, once its queue is closed. -/
def outcome? (s : State) : Option Outcome :=
  match s.phase with
  | .finished outcome _ => some outcome
  | _ => none

/-- How the transfer ended, once this was reported. -/
def reported? (s : State) : Option Outcome :=
  match s.phase with
  | .finished outcome true => some outcome
  | _ => none

/-- The consumer takes the first delivery. -/
def take (s : State) : Option Delivery × State :=
  match s.queue with
  | [] => (none, s)
  | d :: rest => (some d, { s with queue := rest })

/-- The consumer leaves, and what is in the queue is lost. -/
def leave (s : State) : State :=
  { s with consumerGone := true, queue := [] }

/-- Lets time pass up to a moment. -/
def passTo (s : State) (time : Nat) : State :=
  { s with now := max s.now time }

end State
end Transfer
end SidecarProxy
