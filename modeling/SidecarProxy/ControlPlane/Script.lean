import SidecarProxy.ControlPlane.Failure

/-!
# A control plane that answers from a script

For every module there is a list of prepared answers, which are given one after
the other; the last one is repeated.  A module without answers is not found.
-/

namespace SidecarProxy
namespace ControlPlane

/-- An answer that was prepared. -/
inductive Reply (α : Type) where
  | document (d : α)
  | status (n : Nat)
  | invalidUrl (url : String)
  deriving Repr

/-- What an answer means to whoever asked at a URL. -/
def Reply.result {α : Type} (url : String) : Reply α → Except Failure α
  | .document d => .ok d
  | .status n => .error (.unsuccessful url n)
  | .invalidUrl u => .error (.invalidUrl u)

/-- The next answer of a list, and the list afterwards. -/
def Reply.next {α : Type} : List (Reply α) → Reply α × List (Reply α)
  | [] => (.status 404, [])
  | [r] => (r, [r])
  | r :: rest => (r, rest)

/-- A control plane that answers from a script. -/
structure Script (α : Type) where
  /-- What stands behind the id of the module in a URL. -/
  suffix : String := ""
  replies : List (String × List (Reply α)) := []
  /-- The ids that were asked for. -/
  asked : List String := []

/-- The URL that is asked for a module. -/
def Script.url {α : Type} (s : Script α) (moduleId : String) : String :=
  "http://control-plane/modules/" ++ moduleId ++ s.suffix

/-- Asks for a module. -/
def Script.ask {α : Type} (moduleId : String) (s : Script α) : Except Failure α × Script α :=
  let (reply, rest) := Reply.next ((s.replies.lookup moduleId).getD [])
  (reply.result (s.url moduleId),
    { s with
      replies := s.replies.map fun r => if r.1 = moduleId then (r.1, rest) else r
      asked := s.asked ++ [moduleId] })

end ControlPlane
end SidecarProxy
