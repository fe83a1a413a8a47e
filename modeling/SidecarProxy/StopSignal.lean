/-!
# The stop signal

A stop signal is broadcast to every receiver that listens.  The channel keeps
the last message only; a receiver that missed earlier ones is told so once and
then reads the one that is kept.
-/

namespace SidecarProxy

/-- A broadcast channel that keeps one message. -/
structure StopSignal where
  /-- The number of messages sent. -/
  sent : Nat := 0
  /-- For each receiver ever handed out, the number of the message that it reads next;
  nothing once it was dropped. -/
  receivers : List (Option Nat) := []
  deriving DecidableEq, Repr, Inhabited

/-- What a receiver finds. -/
inductive Received where
  | signal
  | empty
  /-- The receiver missed so many messages. -/
  | lagged (missed : Nat)
  deriving DecidableEq, Repr

namespace StopSignal

/-- The number of receivers that listen. -/
def listeners (s : StopSignal) : Nat :=
  (s.receivers.filter Option.isSome).length

/-- Hands out a receiver, which sees only what is sent from now on. -/
def subscribe (s : StopSignal) : StopSignal :=
  { s with receivers := s.receivers ++ [some s.sent] }

/-- Sends the signal; it is lost when nobody listens. -/
def trigger (s : StopSignal) : StopSignal :=
  if s.listeners = 0 then s else { s with sent := s.sent + 1 }

/-- What a receiver that reads message `next` finds, and the message that it reads afterwards. -/
def readAt (s : StopSignal) (next : Nat) : Received × Nat :=
  if next = s.sent then (.empty, next)
  else if next + 1 = s.sent then (.signal, next + 1)
  else (.lagged (s.sent - 1 - next), s.sent - 1)

/-- Reads with a receiver without waiting; nothing when it was dropped or never handed out. -/
def receive? (s : StopSignal) (id : Nat) : Option (Received × StopSignal) :=
  match s.receivers[id]? with
  | some (some next) =>
    let (found, next) := s.readAt next
    some (found, { s with receivers := s.receivers.set id (some next) })
  | _ => none

/-- Drops a receiver. -/
def drop? (s : StopSignal) (id : Nat) : Option StopSignal :=
  match s.receivers[id]? with
  | some (some _) => some { s with receivers := s.receivers.set id none }
  | _ => none

end StopSignal
end SidecarProxy
