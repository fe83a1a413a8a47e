import SidecarProxy.Exchange.Failure
import SidecarProxy.Exchange.Record
import SidecarProxy.Exchange.Request
import SidecarProxy.Route.Location
import SidecarProxy.Settings.Basic

/-!
# Forwarding a request

A request is sent once and never again, because it may not be safe to repeat.
The answer has to begin within the timeout; after that the timeout bounds the
pauses in the bodies.  The exchange is recorded when it has ended, which for an
answer with a body is the end of the transfer of that body.
-/

namespace SidecarProxy
namespace Exchange

open Message Route

/-- How requests are forwarded. -/
structure Forwarder where
  /-- The longest time until an answer begins, and the longest pause in a body. -/
  timeout : Span
  /-- The frames of a body that are held between reading and writing. -/
  queueFrames : Nat
  signature : Signature
  deriving DecidableEq, Repr

/-- The forwarder that the settings describe. -/
def Forwarder.ofSettings (s : ProxySettings) (signature : Signature) : Forwarder where
  timeout := .ofMillis s.requestTimeoutMillis
  queueFrames := s.writeQueueFrames
  signature := signature

/-- An answer as the caller gets it. -/
structure Answer where
  status : Nat
  headers : Headers
  body : Option Transfer.State
  deriving DecidableEq, Repr

/-- What forwarding gives to the caller. -/
inductive Result where
  | answered (answer : Answer)
  | failed (failure : Failure)
  /-- There is no room for the header fields, or no queue of the configured length. -/
  | crashed
  deriving DecidableEq, Repr

/-- A record that waits for the end of the transfer of a body. -/
structure Pending extends Subject where
  status : Nat
  deriving DecidableEq, Repr

/-- The record, once the end of the transfer was reported. -/
def Pending.record (p : Pending) (transfer : Transfer.Outcome) : Record :=
  { p with outcome := .answered transfer }

/-- An exchange when the caller gets its result. -/
structure Exchanged where
  result : Result
  /-- The requests that were sent. -/
  sent : List Sent := []
  /-- The records made so far. -/
  records : List Record := []
  /-- The record that the end of the body of the answer leads to. -/
  pending : Option Pending := none
  deriving DecidableEq, Repr

/-- The records of an exchange when the transfer of the body of its answer is in a state. -/
def Exchanged.recordsAt (x : Exchanged) (body : Transfer.State) : List Record :=
  match x.pending, body.reported? with
  | some pending, some outcome => x.records ++ [pending.record outcome]
  | _, _ => x.records

namespace Forwarder

/-- The transfer of a body; nothing when its queue cannot be made. -/
def transfer? (f : Forwarder) : Option Transfer.Source → Option (Option Transfer.State)
  | none => some none
  | some source => (Transfer.start? f.queueFrames (some f.timeout) source).map some

/-- The status of the refusal that follows a failure after sending, and the recorded outcome. -/
def unanswered (f : Forwarder) (destination : String) :
    DeadlineError String → Failure × Nat × Outcome
  | .elapsed _ => (.timeout destination f.timeout, 504, .timeout)
  | .failed cause => (.unreachable destination cause, 502, .unreachable)

/-- An exchange in which a request was sent and an answer came. -/
def answered (f : Forwarder) (subject : Subject) (sent : Sent) (response : Response) : Exchanged :=
  let pending : Pending := { subject with status := response.status }
  match towardsCaller? response.headers, f.transfer? response.body with
  | some headers, some body =>
    let answer : Answer := ⟨response.status, headers, body⟩
    match body with
    | none =>
      { result := .answered answer, sent := [sent], records := [pending.record (.completed 0)] }
    | some _ => { result := .answered answer, sent := [sent], pending := some pending }
  | _, _ => { result := .crashed, sent := [sent] }

/-- Sends a request to a URL on behalf of a module. -/
def forward (f : Forwarder) (target : Target) (draw : Nat) (r : Request) (destination : String)
    (direction : Direction) (moduleId : String) : Exchanged :=
  match parseLocation destination with
  | .error why => { result := .failed (.invalidDestination destination why.message) }
  | .ok uri =>
    let chain := r.chain draw uri
    match sentHeaders? f.signature direction chain r.headers, f.transfer? r.body with
    | some headers, some body =>
      let subject : Subject := ⟨direction, r.method, r.uri.path, moduleId, chain⟩
      let sent : Sent := ⟨r.method, uri, headers, body⟩
      match (awaitWithin f.timeout (target sent)).1 with
      | .ok response => f.answered subject sent response
      | .error e =>
        let (failure, status, outcome) := f.unanswered destination e
        { result := .failed failure, sent := [sent]
          records := [{ subject with status := status, outcome := outcome }] }
    | _, _ => { result := .crashed }

end Forwarder
end Exchange
end SidecarProxy
