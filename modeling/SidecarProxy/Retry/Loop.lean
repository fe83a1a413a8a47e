import SidecarProxy.Retry.Backoff

/-!
# Repeated attempts

An operation is repeated until it succeeds, until the attempts are used up, or
until the next delay would end after the longest time allowed.
-/

namespace SidecarProxy
namespace Retry

/-- The bounds of a sequence of attempts. -/
structure Policy where
  maxAttempts : Nat
  baseDelay : Span
  maxDelay : Span
  /-- The longest time from the first attempt to the end of a delay. -/
  maxElapsed : Span
  deriving DecidableEq, Repr, Inhabited

/-- An operation that failed until its policy gave up. -/
structure Exhausted (ε : Type) where
  attempts : Nat
  /-- The failure of the last attempt. -/
  last : ε
  deriving DecidableEq, Repr

/-- The wording of a failure, given the name of the operation and the wording of its last failure. -/
def Exhausted.message {ε : Type} (e : Exhausted ε) (operation : String) (wording : ε → String) :
    String :=
  s!"{operation} failed after {e.attempts} attempts: {wording e.last}"

/-- What the surroundings decide in a sequence of attempts. -/
structure Surroundings where
  /-- The time since the start, read after the given attempt. -/
  elapsed : Nat → Span
  /-- The random draw for the delay after the given attempt. -/
  draw : Nat → Nat

/-- How a sequence of attempts ended. -/
inductive Ending (ε α : Type) where
  | succeeded (value : α)
  | exhausted (failure : Exhausted ε)
  /-- A sum of spans did not fit a clock. -/
  | overflow
  deriving Repr

/-- A finished sequence of attempts. -/
structure Run (σ ε α : Type) where
  ending : Ending ε α
  /-- The state of the operation afterwards. -/
  state : σ
  calls : Nat
  /-- The delays that were waited for. -/
  sleeps : List Span

/-- The delay to wait for after a failed attempt; nothing when it is time to give up. -/
def nextDelay (p : Policy) (w : Surroundings) (attempt : Nat) : Except Unit (Option Span) :=
  match delay? attempt p.baseDelay p.maxDelay (w.draw attempt) with
  | none => .error ()
  | some delay =>
    match (w.elapsed attempt).add? delay with
    | none => .error ()
    | some finish =>
      if attempt ≥ p.maxAttempts || finish.nanos > p.maxElapsed.nanos then .ok none
      else .ok (some delay)

/-- Repeats an operation; `attempt` is the number of the next attempt and `left` bounds the rest. -/
def runFrom {σ ε α : Type} (p : Policy) (w : Surroundings) (op : σ → Except ε α × σ)
    (attempt : Nat) (sleeps : List Span) (s : σ) (left : Nat) : Run σ ε α :=
  match op s with
  | (.ok value, s) => ⟨.succeeded value, s, attempt, sleeps⟩
  | (.error e, s) =>
    match nextDelay p w attempt with
    | .error () => ⟨.overflow, s, attempt, sleeps⟩
    | .ok none => ⟨.exhausted ⟨attempt, e⟩, s, attempt, sleeps⟩
    | .ok (some delay) =>
      match left with
      | 0 => ⟨.exhausted ⟨attempt, e⟩, s, attempt, sleeps⟩
      | left + 1 => runFrom p w op (attempt + 1) (sleeps ++ [delay]) s left

/-- Repeats an operation within the bounds of a policy. -/
def run {σ ε α : Type} (p : Policy) (w : Surroundings) (op : σ → Except ε α × σ) (s : σ) :
    Run σ ε α :=
  runFrom p w op 1 [] s p.maxAttempts

end Retry
end SidecarProxy
