import SidecarProxy.Proofs.Retry.Requests

/-!
# Delays on the clock

At most a tenth is added to a delay, and no delay before that is longer than the
longest one of the policy.  Main statement: as long as the longest delay is some
milliseconds in a 64-bit word, no sequence of attempts breaks off because a sum of
a delay and of a time that a clock can show is too long.
-/

namespace SidecarProxy
namespace Retry

/-- The longest delay is a number of milliseconds in a 64-bit word. -/
def Policy.InWords (p : Policy) : Prop :=
  p.maxDelay.nanos < 18446744073709551616 * 1000000

/-- The times since the start are times that a clock can show. -/
def Surroundings.OnClock (w : Surroundings) : Prop :=
  ∀ attempt, (w.elapsed attempt).nanos ≤ Span.latest.nanos

section Clock

variable {p : Policy} {w : Surroundings} {attempt : Nat}

theorem cappedDelay_le
    (attempt : Nat) (base longest : Span) :
    (cappedDelay attempt base longest).nanos ≤ longest.nanos :=
  Nat.min_le_right _ _

theorem jitterRange_le
    (capped : Span) :
    jitterRange capped * 10000000 ≤ capped.nanos := by
  have hword := Nat.mod_le capped.millis 18446744073709551616
  unfold jitterRange
  unfold Span.millis at hword ⊢
  omega

/-- The random part of a delay is at most a tenth of the rest. -/
theorem jitter_le
    (capped : Span) (draw : Nat) :
    10 * (jitter capped draw).nanos ≤ capped.nanos := by
  unfold jitter
  split
  · exact Nat.zero_le _
  · next hrange =>
    have hdraw := Nat.mod_lt draw (Nat.pos_of_ne_zero hrange)
    have hle := jitterRange_le capped
    simp only [Span.ofMillis]
    omega

/-- Every time that is due is one that a clock can hold. -/
theorem clockHolds_of_inWords
    (hp : p.InWords)
    (hw : w.OnClock)
    (attempt : Nat) :
    ClockHolds p w attempt := by
  have helapsed := hw attempt
  have hcapped := cappedDelay_le attempt p.baseDelay p.maxDelay
  have hjitter := jitter_le (cappedDelay attempt p.baseDelay p.maxDelay) (w.draw attempt)
  have hdue : (dueDelay p w attempt).nanos ≤
      (cappedDelay attempt p.baseDelay p.maxDelay).nanos +
        (jitter (cappedDelay attempt p.baseDelay p.maxDelay) (w.draw attempt)).nanos := by
    unfold dueDelay
    split
    · exact Nat.zero_le _
    · exact Nat.le_refl _
  unfold Policy.InWords at hp
  unfold Span.latest at helapsed
  unfold ClockHolds dueNanos Span.longest
  dsimp only at helapsed ⊢
  omega

/-- The sums behind an attempt fit the clock. -/
theorem nextDelay_ne_error
    (hp : p.InWords)
    (hw : w.OnClock)
    (attempt : Nat) :
    nextDelay p w attempt ≠ .error () :=
  fun herror => nextDelay_eq_error herror (clockHolds_of_inWords hp hw attempt)

end Clock

section Runs

variable {σ ε α : Type} {p : Policy} {w : Surroundings}

theorem run_stopped
    (op : σ → Except ε α × σ) (p : Policy) (w : Surroundings) (s : σ) :
    (run p w op s).Stopped op s p w 1 :=
  runFrom_stopped op p w 1 [] s p.maxAttempts (Nat.le_add_left _ _)

/-- No sequence of attempts breaks off. -/
theorem run_ne_overflow
    (hp : p.InWords)
    (hw : w.OnClock)
    (op : σ → Except ε α × σ) (s : σ) :
    (run p w op s).ending ≠ .overflow := by
  intro hoverflow
  exact nextDelay_ne_error hp hw _ ((run_stopped op p w s).overflow hoverflow)

/-- There are no more attempts than the policy says, or one. -/
theorem calls_run_le
    (op : σ → Except ε α × σ) (p : Policy) (w : Surroundings) (s : σ) :
    (run p w op s).calls ≤ max 1 p.maxAttempts := by
  have hstopped := run_stopped op p w s
  by_cases hone : (run p w op s).calls ≤ 1
  · omega
  · have hmore := hstopped.goesOn ((run p w op s).calls - 1) (by omega) (by omega)
    obtain ⟨-, -, -, -, hlt, -⟩ := hmore
    omega

end Runs

end Retry
end SidecarProxy
