import SidecarProxy.Dispatch.Destination
import SidecarProxy.Dispatch.Reply
import SidecarProxy.Resolve.Run

/-!
# Dispatching requests

The route of a request is searched for once.  With a route the request is
forwarded, and without one it is refused, so that a request leads to at most one
exchange with a target.
-/

namespace SidecarProxy
namespace Dispatch

open Exchange Message Resolve

/-- A sidecar that serves requests. -/
structure Sidecar (σ : Type) where
  lookups : Lookups σ
  forwarder : Forwarder

/-- What became of a request. -/
structure Served where
  /-- What the caller gets; nothing when the request broke off. -/
  reply : Option Reply
  /-- The exchange with a target, if the route had a location. -/
  exchanged : Option Exchanged := none
  /-- The measurements made here, those of the exchange and of the cache apart. -/
  events : List Metrics.Event := []

/-- What the sidecar itself answers to a request. -/
def Served.refuse (r : Refusal) : Served :=
  { reply := some (.ofRefusal r) }

/-- What a forwarded request leads to. -/
def Served.ofExchanged (x : Exchanged) : Served :=
  { reply := Reply.ofResult? x.result, exchanged := some x }

/-- All measurements of a request but those of the cache, when its reply is there. -/
def Served.measurements (s : Served) : List Metrics.Event :=
  s.events ++ (s.exchanged.toList.flatMap (·.records)).flatMap Record.events

namespace Sidecar

variable {σ : Type}

/-- Forwards a request whose route was found. -/
def handOn (s : Sidecar σ) (target : Target) (draw : Nat) (r : Request) (inbound : Inbound)
    (found : Found) : Served :=
  match destination s.lookups.resolver.mount found inbound with
  | .error e => .refuse (.ofExchange e)
  | .ok url =>
    .ofExchanged (s.forwarder.forward target draw r url found.direction found.entry.moduleId)

/-- Answers a request by the result of the search for its route. -/
def conclude (s : Sidecar σ) (target : Target) (draw : Nat) (r : Request) (inbound : Inbound) :
    Except Resolve.Failure (Option Found) → Served
  | .error e => .refuse (.ofResolve e)
  | .ok none =>
    { reply := some (.ofRefusal (.routeNotFound inbound.method inbound.path))
      events := [.count .routeMisses] }
  | .ok (some found) => s.handOn target draw r inbound found

/-- Searches for the route of a request and acts on what was found. -/
def dispatch (s : Sidecar σ) (ask : ModuleCache.Source σ) (target : Target) (draw : Nat)
    (r : Request) : Served × Sidecar σ :=
  let inbound := Inbound.ofParts r.method r.uri r.headers s.forwarder.signature
  let (result, lookups) := s.lookups.run ask (s.lookups.resolver.search inbound)
  (s.conclude target draw r inbound result, { s with lookups := lookups })

/-- Serves a request from outside: only paths are dispatched, and `HEAD` carries nothing back. -/
def serve (s : Sidecar σ) (ask : ModuleCache.Source σ) (target : Target) (draw : Nat)
    (r : Request) : Served × Sidecar σ :=
  if r.uri.path.toList.head? = some '/' then
    let (served, s) := s.dispatch ask target draw r
    (if r.method = "HEAD" then { served with reply := served.reply.map Reply.bare } else served, s)
  else ({ reply := some .noPath }, s)

end Sidecar
end Dispatch
end SidecarProxy
