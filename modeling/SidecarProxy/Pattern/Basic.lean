import SidecarProxy.Text.Utf8

/-!
# Path patterns

A pattern is a sequence of steps over the bytes of a path:

* `*` stands for any run of bytes, slashes included;
* `{name}` stands for one whole, non-empty segment, up to the next slash;
* every other byte stands for itself, and so does a `{` that no `}` follows.

A run is tried from the longest to the shortest, and each trial of a run costs
one unit of the matcher's budget.  When the budget is used up, the path does
not match.
-/

namespace SidecarProxy
namespace Pattern

open Text

/-- The byte of `*`. -/
def star : UInt8 := 0x2a

/-- The byte of `{`. -/
def brace : UInt8 := 0x7b

/-- The byte of `}`. -/
def closing : UInt8 := 0x7d

/-- The byte of `/`. -/
def slash : UInt8 := 0x2f

/-- One step of a pattern. -/
inductive Step where
  /-- The byte itself. -/
  | byte (b : UInt8)
  /-- A whole, non-empty segment. -/
  | segment
  /-- Any run of bytes. -/
  | run
  deriving DecidableEq, Repr

/-- The steps of a pattern; `inside` holds between a brace and its closing one. -/
def stepsFrom (inside : Bool) : List UInt8 → List Step
  | [] => []
  | b :: rest =>
    match inside with
    | true => stepsFrom (b != closing) rest
    | false =>
      if b = star then .run :: stepsFrom false rest
      else if b = brace ∧ closing ∈ rest then .segment :: stepsFrom true rest
      else .byte b :: stepsFrom false rest

/-- The steps of a pattern. -/
def steps (pattern : List UInt8) : List Step :=
  stepsFrom false pattern

/-- The suffixes of a list in front of `found`, the shortest first. -/
def suffixesOnto {α : Type} (found : List (List α)) : List α → List (List α)
  | [] => [] :: found
  | a :: rest => suffixesOnto ((a :: rest) :: found) rest

/-- The suffixes of a list, the shortest first. -/
def suffixes {α : Type} (xs : List α) : List (List α) :=
  suffixesOnto [] xs

/--
Tries `attempt` on each candidate until one succeeds.  Each trial costs one unit
of the budget; the second component is what is left of it.
-/
def firstOf {α : Type} (attempt : α → Nat → Bool × Nat) : List α → Nat → Bool × Nat
  | [], budget => (false, budget)
  | _ :: _, 0 => (false, 0)
  | x :: more, budget + 1 =>
    match attempt x budget with
    | (true, left) => (true, left)
    | (false, left) => firstOf attempt more left

/-- Whether the steps take up the whole path within the budget, and what is left of the budget. -/
def search : List Step → List UInt8 → Nat → Bool × Nat
  | [], path, budget => (path.isEmpty, budget)
  | .byte _ :: _, [], budget => (false, budget)
  | .byte b :: more, c :: path, budget =>
    if b = c then search more path budget else (false, budget)
  | .segment :: more, path, budget =>
    if (path.takeWhile (· != slash)).isEmpty then (false, budget)
    else search more (path.dropWhile (· != slash)) budget
  | .run :: more, path, budget => firstOf (search more) (suffixes path) budget

end Pattern

/-- A matcher of paths with the number of trials that one match may spend. -/
structure Matcher where
  /-- The most trials of runs in one match. -/
  limit : Nat := 100000
  deriving DecidableEq, Repr, Inhabited

/-- Whether a path belongs to a pattern, as far as the matcher's limit allows to find out. -/
def Matcher.matches (m : Matcher) (pattern path : String) : Bool :=
  (Pattern.search (Pattern.steps (Text.utf8 pattern)) (Text.utf8 path) m.limit).1

end SidecarProxy
