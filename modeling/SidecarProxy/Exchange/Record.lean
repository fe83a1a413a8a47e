import SidecarProxy.Metrics
import SidecarProxy.Transfer.Basic

/-!
# Records of exchanges

Every exchange with a target is recorded once, when it has ended: who exchanged
what with whom, the status that the caller got and how it ended.  A record also
counts as a measurement.
-/

namespace SidecarProxy
namespace Exchange

open Route

/-- How an exchange with a target ended. -/
inductive Outcome where
  /-- An answer came, and its body was transferred with this outcome. -/
  | answered (transfer : Transfer.Outcome)
  /-- No answer began in time. -/
  | timeout
  /-- The target could not be reached, or the exchange broke off before an answer. -/
  | unreachable
  deriving DecidableEq, Repr

/-- The written name of an outcome. -/
def Outcome.name : Outcome → String
  | .answered transfer => transfer.name
  | .timeout => "timeout"
  | .unreachable => "unreachable"

/-- Who exchanges what with whom. -/
structure Subject where
  direction : Direction
  method : String
  /-- The path under which the request came in. -/
  path : String
  moduleId : String
  /-- The chain of ids that is sent on. -/
  requestId : String
  deriving DecidableEq, Repr

/-- The record of an exchange that has ended. -/
structure Record extends Subject where
  /-- The status that the caller gets. -/
  status : Nat
  outcome : Outcome
  deriving DecidableEq, Repr

/-- What a record counts as. -/
def Record.events (r : Record) : List Metrics.Event :=
  Metrics.exchangeEnded r.direction r.method r.status

end Exchange
end SidecarProxy
