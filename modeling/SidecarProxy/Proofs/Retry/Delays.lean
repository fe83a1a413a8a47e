import SidecarProxy.Proofs.Retry.Clock

/-!
# Delays in exact numbers

The factor of an attempt stops at the largest 32-bit word, a product of a factor
and a base delay at the longest span, and the random part of a delay is counted in
64-bit words.  Main statement: for delays that are given as milliseconds in 64-bit
words none of these limits can be seen in a delay, and the delay before the random
part is the base delay doubled from attempt to attempt, as far as the longest delay
allows.
-/

namespace SidecarProxy
namespace Retry

section Factors

/-- The factor of an attempt is a power of two that stops at the largest 32-bit word. -/
theorem factor_eq_min
    {attempt : Nat}
    (hattempt : 1 ≤ attempt) :
    factor attempt = min (Nat.pow 2 (attempt - 1)) 4294967295 := by
  have htop : Nat.pow 2 31 = 2147483648 := by
    decide
  unfold factor
  split
  · next hle =>
    have hpow : Nat.pow 2 (attempt - 1) ≤ Nat.pow 2 31 :=
      Nat.pow_le_pow_right (by decide) (by omega)
    omega
  · next hgt =>
    have hpow : Nat.pow 2 32 ≤ Nat.pow 2 (attempt - 1) :=
      Nat.pow_le_pow_right (by decide) (by omega)
    have hnext : Nat.pow 2 32 = 4294967296 := by
      decide
    omega

theorem factor_mono
    {attempt later : Nat}
    (hattempt : 1 ≤ attempt)
    (hlater : attempt ≤ later) :
    factor attempt ≤ factor later := by
  have hpow : Nat.pow 2 (attempt - 1) ≤ Nat.pow 2 (later - 1) :=
    Nat.pow_le_pow_right (by decide) (by omega)
  rw [factor_eq_min hattempt, factor_eq_min (Nat.le_trans hattempt hlater)]
  omega

theorem cappedDelay_mono
    {attempt later : Nat}
    (hattempt : 1 ≤ attempt)
    (hlater : attempt ≤ later)
    (base longest : Span) :
    (cappedDelay attempt base longest).nanos ≤ (cappedDelay later base longest).nanos := by
  have hproduct : base.nanos * factor attempt ≤ base.nanos * factor later :=
    Nat.mul_le_mul_left base.nanos (factor_mono hattempt hlater)
  unfold cappedDelay
  dsimp only
  omega

/-- The limit of the clock does not cut a delay whose longest one is below it. -/
theorem cappedDelay_eq_min
    {longest : Span}
    (hlongest : longest.nanos ≤ Span.longest.nanos)
    (attempt : Nat) (base : Span) :
    (cappedDelay attempt base longest).nanos =
      min longest.nanos (base.nanos * factor attempt) := by
  unfold cappedDelay
  dsimp only
  omega

end Factors

section Words

variable (base longest : UInt64)

/-- The delay of an attempt before anything is added to it, for delays in milliseconds. -/
def capped
    (attempt : Nat) :
    Span :=
  cappedDelay attempt (.ofMillis base.toNat) (.ofMillis longest.toNat)

theorem ofMillis_le_longest :
    (Span.ofMillis longest.toNat).nanos ≤ Span.longest.nanos := by
  have hword := longest.toNat_lt
  unfold Span.ofMillis Span.longest
  dsimp only
  omega

theorem capped_le
    (attempt : Nat) :
    (capped base longest attempt).nanos ≤ longest.toNat * 1000000 :=
  cappedDelay_le attempt _ _

theorem capped_eq
    (attempt : Nat) :
    capped base longest attempt =
      .ofMillis (min longest.toNat (base.toNat * factor attempt)) := by
  have hmin := cappedDelay_eq_min (ofMillis_le_longest longest) attempt (.ofMillis base.toNat)
  have hnanos : (capped base longest attempt).nanos =
      min longest.toNat (base.toNat * factor attempt) * 1000000 := by
    rw [capped, hmin, ← Nat.mul_min_mul_right]
    simp only [Span.ofMillis, Nat.mul_right_comm]
  exact congrArg Span.mk hnanos

/-- The milliseconds of a delay are counted in full. -/
theorem jitterRange_capped
    (attempt : Nat) :
    jitterRange (capped base longest attempt) = (capped base longest attempt).millis / 10 := by
  have hle := capped_le base longest attempt
  have hword := longest.toNat_lt
  have hmillis : (capped base longest attempt).millis < 18446744073709551616 := by
    unfold Span.millis
    omega
  rw [jitterRange, Nat.mod_eq_of_lt hmillis]

/-- The sum of a delay and of its random part fits the clock, and is the delay with both. -/
theorem delay?_eq_some
    {attempt : Nat}
    (hattempt : attempt ≠ 0)
    (draw : Nat) :
    delay? attempt (.ofMillis base.toNat) (.ofMillis longest.toNat) draw =
      some ⟨(capped base longest attempt).nanos +
        (jitter (capped base longest attempt) draw).nanos⟩ := by
  have hle := capped_le base longest attempt
  have hword := longest.toNat_lt
  have hjitter := jitter_le (capped base longest attempt) draw
  rw [delay?, if_neg hattempt]
  refine add?_of_le ?_
  change (capped base longest attempt).nanos +
    (jitter (capped base longest attempt) draw).nanos ≤ Span.longest.nanos
  unfold Span.longest
  dsimp only
  omega

/-- What is known of the delays of an attempt, told from the delay before the random part. -/
structure Doubling (attempt : UInt32) (c : Span) : Prop where
  /-- Up to the attempt at which the factor stops growing. -/
  doubled : attempt.toNat ≤ 32 →
    c = .ofMillis (min longest.toNat (base.toNat * Nat.pow 2 (attempt.toNat - 1)))
  le_longest : c.nanos ≤ (Span.ofMillis longest.toNat).nanos
  grows : ∀ later : UInt32, attempt.toNat ≤ later.toNat →
    c.nanos ≤ (capped base longest later.toNat).nanos
  /-- No sum is too long, and what is added is at most a tenth. -/
  bounded : ∀ draw, ∃ d,
    delay? attempt.toNat (.ofMillis base.toNat) (.ofMillis longest.toNat) draw = some d ∧
      c.nanos ≤ d.nanos ∧ 10 * (d.nanos - c.nanos) ≤ c.nanos
  /-- A draw of milliseconds below the tenth of a delay is added as it is. -/
  added : ∀ draw, draw < c.millis / 10 →
    delay? attempt.toNat (.ofMillis base.toNat) (.ofMillis longest.toNat) draw =
      some ⟨c.nanos + (Span.ofMillis draw).nanos⟩
  /-- Nothing is added to a delay of less than ten milliseconds. -/
  short : ∀ draw, c.millis < 10 →
    delay? attempt.toNat (.ofMillis base.toNat) (.ofMillis longest.toNat) draw = some c

/--
For a base delay and a longest delay in milliseconds, both any 64-bit words, every
attempt but the zeroth one has a delay for each draw: the base delay doubled
from attempt to attempt up to the longest delay, and at most a tenth more.
-/
theorem delay?_doubling :
    (∀ draw,
      delay? 0 (.ofMillis base.toNat) (.ofMillis longest.toNat) draw = some .zero) ∧
    ∀ attempt : UInt32, attempt.toNat ≠ 0 →
      Doubling base longest attempt (capped base longest attempt.toNat) := by
  refine ⟨fun _ => rfl, fun attempt hattempt => ?_⟩
  have hone : 1 ≤ attempt.toNat := Nat.one_le_iff_ne_zero.2 hattempt
  refine {
    doubled := fun hle => ?_
    le_longest := cappedDelay_le _ _ _
    grows := fun later hlater => cappedDelay_mono hone hlater _ _
    bounded := fun draw => ?_
    added := fun draw hdraw => ?_
    short := fun draw hshort => ?_ }
  · rw [capped_eq, factor, if_pos hle]
  · have hjitter := jitter_le (capped base longest attempt.toNat) draw
    refine ⟨_, delay?_eq_some base longest hattempt draw, ?_, ?_⟩ <;>
    · dsimp only
      omega
  · have hrange : jitterRange (capped base longest attempt.toNat) ≠ 0 := by
      rw [jitterRange_capped]
      omega
    rw [delay?_eq_some base longest hattempt draw, jitter, if_neg hrange, jitterRange_capped,
      Nat.mod_eq_of_lt hdraw]
  · have hrange : jitterRange (capped base longest attempt.toNat) = 0 := by
      rw [jitterRange_capped]
      omega
    rw [delay?_eq_some base longest hattempt draw, jitter, if_pos hrange, Span.zero,
      Nat.add_zero]

theorem delay?_doubling_largestWords :
    (4294967295 : UInt32).toNat ≠ 0 ∧
      Doubling 18446744073709551615 18446744073709551615 4294967295
        (capped 18446744073709551615 18446744073709551615 4294967295) :=
  ⟨by decide,
    (delay?_doubling 18446744073709551615 18446744073709551615).2 4294967295 (by decide)⟩

end Words

end Retry
end SidecarProxy
