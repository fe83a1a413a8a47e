import SidecarProxy.Retry.Loop

/-!
# Delays that are due

Whether a failed attempt is followed by another one, in exact numbers: by the
attempts that are left, and by the time at which the delay would end.  Main
statement: behind an attempt a policy says one of three things, and the clock and
these numbers tell which.
-/

namespace SidecarProxy
namespace Retry

section Dues

/-- The delay behind a failed attempt, whether or not a clock can hold it. -/
def dueDelay
    (p : Policy) (w : Surroundings) (attempt : Nat) :
    Span :=
  if attempt = 0 then .zero
  else
    let capped := cappedDelay attempt p.baseDelay p.maxDelay
    ⟨capped.nanos + (jitter capped (w.draw attempt)).nanos⟩

/-- The time since the start at which the delay behind a failed attempt would end. -/
def dueNanos
    (p : Policy) (w : Surroundings) (attempt : Nat) :
    Nat :=
  (w.elapsed attempt).nanos + (dueDelay p w attempt).nanos

/-- A failed attempt is the last one: no attempt is left, or the delay would end too late. -/
def StopsAt
    (p : Policy) (w : Surroundings) (attempt : Nat) :
    Prop :=
  p.maxAttempts ≤ attempt ∨ p.maxElapsed.nanos < dueNanos p w attempt

/-- A clock can hold the time at which the delay behind a failed attempt would end. -/
def ClockHolds
    (p : Policy) (w : Surroundings) (attempt : Nat) :
    Prop :=
  dueNanos p w attempt ≤ Span.longest.nanos

theorem add?_of_le
    {a b : Span}
    (h : a.nanos + b.nanos ≤ Span.longest.nanos) :
    a.add? b = some ⟨a.nanos + b.nanos⟩ :=
  if_pos h

theorem add?_of_not_le
    {a b : Span}
    (h : ¬a.nanos + b.nanos ≤ Span.longest.nanos) :
    a.add? b = none :=
  if_neg h

theorem delay?_eq
    (p : Policy) (w : Surroundings) (attempt : Nat) :
    delay? attempt p.baseDelay p.maxDelay (w.draw attempt) =
      if (dueDelay p w attempt).nanos ≤ Span.longest.nanos then some (dueDelay p w attempt)
      else none := by
  unfold delay? dueDelay
  by_cases hzero : attempt = 0
  · rw [if_pos hzero, if_pos hzero]
    exact (if_pos (Nat.zero_le _)).symm
  · rw [if_neg hzero, if_neg hzero]
    rfl

/-- What a policy says behind a failed attempt. -/
theorem nextDelay_cases
    (p : Policy) (w : Surroundings) (attempt : Nat) :
    (¬ClockHolds p w attempt ∧ nextDelay p w attempt = .error ()) ∨
      (ClockHolds p w attempt ∧ StopsAt p w attempt ∧ nextDelay p w attempt = .ok none) ∨
      (ClockHolds p w attempt ∧ ¬StopsAt p w attempt ∧
        nextDelay p w attempt = .ok (some (dueDelay p w attempt))) := by
  unfold nextDelay
  rw [delay?_eq]
  by_cases hholds : ClockHolds p w attempt
  · have hdue : (dueDelay p w attempt).nanos ≤ Span.longest.nanos :=
      Nat.le_trans (Nat.le_add_left _ _) hholds
    rw [if_pos hdue]
    dsimp only
    rw [add?_of_le hholds]
    by_cases hstops : StopsAt p w attempt
    · have htest :
          (attempt ≥ p.maxAttempts || dueNanos p w attempt > p.maxElapsed.nanos) = true := by
        simpa [StopsAt] using hstops
      exact .inr (.inl ⟨hholds, hstops, if_pos htest⟩)
    · have htest :
          ¬(attempt ≥ p.maxAttempts || dueNanos p w attempt > p.maxElapsed.nanos) = true := by
        simpa [StopsAt] using hstops
      exact .inr (.inr ⟨hholds, hstops, if_neg htest⟩)
  · refine .inl ⟨hholds, ?_⟩
    by_cases hdue : (dueDelay p w attempt).nanos ≤ Span.longest.nanos
    · rw [if_pos hdue]
      dsimp only
      rw [add?_of_not_le hholds]
    · rw [if_neg hdue]

variable {p : Policy} {w : Surroundings} {attempt : Nat}

theorem nextDelay_eq_some
    {delay : Span}
    (h : nextDelay p w attempt = .ok (some delay)) :
    ClockHolds p w attempt ∧ ¬StopsAt p w attempt ∧ delay = dueDelay p w attempt := by
  rcases nextDelay_cases p w attempt with ⟨-, hnext⟩ | ⟨-, -, hnext⟩ | ⟨hholds, hmore, hnext⟩
  · simp [h] at hnext
  · simp [h] at hnext
  · rw [h] at hnext
    cases hnext
    exact ⟨hholds, hmore, rfl⟩

theorem nextDelay_eq_none
    (h : nextDelay p w attempt = .ok none) :
    ClockHolds p w attempt ∧ StopsAt p w attempt := by
  rcases nextDelay_cases p w attempt with ⟨-, hnext⟩ | ⟨hholds, hstops, -⟩ | ⟨-, -, hnext⟩
  · simp [h] at hnext
  · exact ⟨hholds, hstops⟩
  · simp [h] at hnext

theorem nextDelay_eq_error
    (h : nextDelay p w attempt = .error ()) :
    ¬ClockHolds p w attempt := by
  rcases nextDelay_cases p w attempt with ⟨hholds, -⟩ | ⟨-, -, hnext⟩ | ⟨-, -, hnext⟩
  · exact hholds
  · simp [h] at hnext
  · simp [h] at hnext

end Dues

end Retry
end SidecarProxy
