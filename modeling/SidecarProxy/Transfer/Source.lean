import SidecarProxy.Message.Headers
import SidecarProxy.Span

/-!
# Sources of a body

A body comes in frames.  What a source does is written as a list: it hands out a
frame, fails, pauses or stalls.  A source with nothing left has ended.

Times are in milliseconds.
-/

namespace SidecarProxy
namespace Transfer

open Message

/-- A piece of a body. -/
inductive Frame where
  | data (content : String)
  | trailers (fields : Headers)
  deriving DecidableEq, Repr

/-- The bytes of data in a frame. -/
def Frame.size : Frame → Nat
  | .data content => content.utf8ByteSize
  | .trailers _ => 0

/-- What a source does next. -/
inductive SourceStep where
  | frame (f : Frame)
  | fail (cause : String)
  /-- Waits before its next step. -/
  | pause (millis : Nat)
  /-- Never goes on. -/
  | stall
  deriving DecidableEq, Repr

/-- The rest of a body. -/
abbrev Source := List SourceStep

/-- What is read from a source. -/
inductive Reading where
  | frame (f : Frame)
  | failed (cause : String)
  | ended
  deriving DecidableEq, Repr

/-- The time from asking a source to its answer, the answer and the rest; nothing when it stalls. -/
def Source.next? : Source → Option (Nat × Reading × Source)
  | [] => some (0, .ended, [])
  | .frame f :: rest => some (0, .frame f, rest)
  | .fail cause :: rest => some (0, .failed cause, rest)
  | .pause millis :: rest =>
    match next? rest with
    | none => none
    | some (delay, reading, rest) => some ((Span.ofMillis millis).pauseMillis + delay, reading, rest)
  | .stall :: _ => none

/-- The source of a body that is there as a whole. -/
def Source.whole (content : String) : Source :=
  if content = "" then [] else [.frame (.data content)]

end Transfer
end SidecarProxy
