import SidecarProxy.Json.Basic

/-!
# Records in documents

A record is an object with named members, or an array of the same values in
order.  A member that is missing takes its default and a member that is not
known is passed over, but a known member may not occur twice.  Whether an array
may hold more values than there are members depends on the document.
-/

namespace SidecarProxy
namespace Json
namespace Record

/-- What becomes of the values of an array for which there is no member. -/
inductive Surplus where
  | refused
  | ignored
  deriving DecidableEq, Repr

/-- The members of a record by name. -/
abbrev Members := String → Option Value

/-- The members of an object, unless one of the known names occurs twice. -/
def ofObject (names : List String) (ms : List (Option String × Value)) : Option Members :=
  if ms.any (·.1.isNone) || names.any (fun n => (ms.filter (·.1 == some n)).length > 1) then none
  else some fun n => ms.lookup (some n)

/-- The values of an array as the members of the given names. -/
def ofArray (names : List String) (items : List Value) : Members :=
  fun n => (names.zip items).lookup n

/-- Opens a record that has members of the given names in the given order. -/
def members (surplus : Surplus) (names : List String) : Value → Option Members
  | .object ms => ofObject names ms
  | .array items =>
    if surplus = .refused && items.length > names.length then none
    else some (ofArray names items)
  | _ => none

/-- A member, or its default when it is missing. -/
def member {α : Type} (ms : Members) (name : String) (read : Value → Option α) (default : α) :
    Option α :=
  match ms name with
  | none => some default
  | some v => read v

/-- A text. -/
def text : Value → Option String
  | .string s => s
  | _ => none

/-- A text that may be null. -/
def optionalText : Value → Option (Option String)
  | .null => some none
  | v => (text v).map some

/-- A list. -/
def list {α : Type} (read : Value → Option α) : Value → Option (List α)
  | .array items => items.mapM read
  | _ => none

/-- A number below `2 ^ bits`. -/
def unsigned (bits : Nat) : Value → Option Nat
  | .integer n => if 0 ≤ n && n < Nat.pow 2 bits then some n.toNat else none
  | _ => none

/-- A truth value. -/
def truth : Value → Option Bool
  | .bool b => some b
  | _ => none

end Record
end Json
end SidecarProxy
