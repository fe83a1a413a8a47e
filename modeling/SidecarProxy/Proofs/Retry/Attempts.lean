import SidecarProxy.Proofs.Retry.FirstSuccess

/-!
# The attempts of a run

An operation is called until it succeeds or the policy stops, with the delays that
are due in between.  Main statement: what a sequence of attempts does from the first
to the last one, for every policy with delays in 64-bit words, every operation,
every clock and every draw.
-/

namespace SidecarProxy
namespace Retry

section Runs

variable {σ ε α : Type}

/-- The delays that are waited for are those due behind all attempts but the last one. -/
theorem sleeps_runFrom
    (op : σ → Except ε α × σ) (p : Policy) (w : Surroundings)
    (attempt : Nat) (sleeps : List Span) (s : σ) (left : Nat)
    (hleft : p.maxAttempts ≤ attempt + left) :
    (runFrom p w op attempt sleeps s left).sleeps =
      sleeps ++ (List.range' attempt ((runFrom p w op attempt sleeps s left).calls - attempt)).map
        (dueDelay p w) := by
  fun_induction runFrom p w op attempt sleeps s left with
  | case1 attempt sleeps s left value s' h =>
      simp
  | case2 attempt sleeps s left e s' h hnext =>
      simp
  | case3 attempt sleeps s left e s' h hnext =>
      simp
  | case4 attempt sleeps s e s' h delay hnext =>
      have hlt := lt_of_nextDelay hnext
      omega
  | case5 attempt sleeps s e s' h delay hnext left ih =>
      obtain ⟨repeats, hcalls, -⟩ :=
        runFrom_told op p w (attempt + 1) (sleeps ++ [delay]) s' left
      obtain ⟨-, -, hdelay⟩ := nextDelay_eq_some hnext
      have hmore : attempt + 1 + repeats - attempt = repeats + 1 := by
        omega
      rw [ih (by omega), hcalls, hmore, Nat.add_sub_cancel_left, List.range'_succ, hdelay,
        List.map_cons, List.append_assoc, List.singleton_append]

/-- What a run of attempts does under every policy, from the first attempt to the last one. -/
structure Run.Follows (r : Run σ ε α) (op : σ → Except ε α × σ) (s : σ) (p : Policy)
    (w : Surroundings) : Prop where
  one_le_calls : 1 ≤ r.calls
  calls_le : r.calls ≤ max 1 p.maxAttempts
  /-- The operation was called so many times and not once more. -/
  state : r.state = behind op s r.calls
  failed : ∀ n < r.calls - 1, (answerTo op s n).isOk = false
  /-- The last attempt is the first one at which the policy can stop. -/
  goesOn : ∀ attempt, 1 ≤ attempt → attempt < r.calls → ¬StopsAt p w attempt
  sleeps : r.sleeps = (List.range' 1 (r.calls - 1)).map (dueDelay p w)
  succeeded : ∀ a, answerTo op s (r.calls - 1) = .ok a → r.ending = .succeeded a
  /-- Behind a last attempt that failed the run gives up, unless no clock can tell. -/
  gaveUp :
    ∀ e, answerTo op s (r.calls - 1) = .error e →
      (r.ending = .exhausted ⟨r.calls, e⟩ ∧ ClockHolds p w r.calls ∧ StopsAt p w r.calls) ∨
        (r.ending = .overflow ∧ ¬ClockHolds p w r.calls)

/-- A run of attempts does what its policy says: it returns a value, or gives up where it must. -/
structure Run.Obeys (r : Run σ ε α) (op : σ → Except ε α × σ) (s : σ) (p : Policy)
    (w : Surroundings) : Prop extends r.Follows op s p w where
  exhausted :
    ∀ e, answerTo op s (r.calls - 1) = .error e →
      r.ending = .exhausted ⟨r.calls, e⟩ ∧ StopsAt p w r.calls

/-- A run whose last attempt failed ends where its policy stops, if a clock can tell. -/
theorem ending_of_failed
    {op : σ → Except ε α × σ} {p : Policy} {w : Surroundings} {s : σ} {e : ε}
    (h : answerTo op s ((run p w op s).calls - 1) = .error e) :
    ((run p w op s).ending = .exhausted ⟨(run p w op s).calls, e⟩ ∧
        ClockHolds p w (run p w op s).calls ∧ StopsAt p w (run p w op s).calls) ∨
      ((run p w op s).ending = .overflow ∧ ¬ClockHolds p w (run p w op s).calls) := by
  obtain ⟨repeats, hcalls, htold⟩ := run_told op p w s
  have hstopped := run_stopped op p w s
  cases hending : (run p w op s).ending with
  | succeeded a =>
      have hvalue := htold.value
      rw [hcalls, Nat.add_sub_cancel] at h
      rw [hending, h] at hvalue
      cases hvalue
  | exhausted failure =>
      obtain ⟨hattempts, hnone, hlast⟩ := hstopped.exhausted failure hending
      rw [h] at hlast
      cases hlast
      rw [← hattempts] at hnone ⊢
      exact .inl ⟨rfl, nextDelay_eq_none hnone⟩
  | overflow =>
      exact .inr ⟨rfl, nextDelay_eq_error (hstopped.overflow hending)⟩

theorem run_follows
    (op : σ → Except ε α × σ) (p : Policy) (w : Surroundings) (s : σ) :
    (run p w op s).Follows op s p w := by
  obtain ⟨repeats, hcalls, htold⟩ := run_told op p w s
  have hlast : (run p w op s).calls - 1 = repeats := by
    omega
  refine {
    one_le_calls := by omega
    calls_le := calls_run_le op p w s
    state := run_state op p w s
    failed := fun n hn => htold.failed n (hlast ▸ hn)
    goesOn := fun attempt hle hlt => ?_
    sleeps := sleeps_runFrom op p w 1 [] s p.maxAttempts (Nat.le_add_left _ _)
    succeeded := fun a ha => ?_
    gaveUp := fun e he => ending_of_failed he }
  · obtain ⟨delay, hdelay⟩ := goesOn_iff.1 ((run_stopped op p w s).goesOn attempt hle hlt)
    exact (nextDelay_eq_some hdelay).2.1
  · rw [hlast] at ha
    exact eq_succeeded_of_value? (by rw [htold.value, ha]; rfl)

/--
Every sequence of attempts obeys its policy when the longest delay is some
milliseconds in a 64-bit word and the times are those of a clock.
-/
theorem run_obeys
    {p : Policy} {w : Surroundings}
    (hp : p.InWords)
    (hw : w.OnClock)
    (op : σ → Except ε α × σ) (s : σ) :
    (run p w op s).Obeys op s p w := by
  have hfollows := run_follows op p w s
  refine ⟨hfollows, fun e he => ?_⟩
  rcases hfollows.gaveUp e he with ⟨hending, -, hstops⟩ | ⟨-, hnot⟩
  · exact ⟨hending, hstops⟩
  · exact absurd (clockHolds_of_inWords hp hw _) hnot

/-- Five attempts at most, and ten seconds. -/
def hurriedPolicy : Policy where
  maxAttempts := 5
  baseDelay := .ofMillis 100
  maxDelay := .ofMillis 1000
  maxElapsed := .ofSecs 10

/-- A clock on which every attempt takes four seconds, up to a minute. -/
def slowClock : Surroundings where
  elapsed attempt := .ofSecs (min (4 * attempt) 60)
  draw := id

theorem slowClock_onClock :
    slowClock.OnClock := by
  intro attempt
  simp only [slowClock, Span.ofSecs, Span.latest]
  omega

/-- An operation that never succeeds and counts its calls. -/
def countedFailure
    (calls : Nat) :
    Except Nat Unit × Nat :=
  (.error calls, calls + 1)

theorem run_obeys_outOfTime :
    hurriedPolicy.InWords ∧ slowClock.OnClock ∧
      (run hurriedPolicy slowClock countedFailure 0).calls = 3 ∧
      StopsAt hurriedPolicy slowClock 3 ∧
      (run hurriedPolicy slowClock countedFailure 0).ending = .exhausted ⟨3, 2⟩ := by
  have hp : hurriedPolicy.InWords := by
    unfold Policy.InWords
    decide
  have hobeys := run_obeys hp slowClock_onClock countedFailure 0
  have hcalls : (run hurriedPolicy slowClock countedFailure 0).calls = 3 := by
    rfl
  have hlast : answerTo countedFailure 0
      ((run hurriedPolicy slowClock countedFailure 0).calls - 1) = .error 2 := by
    rw [hcalls]
    rfl
  obtain ⟨hending, hstops⟩ := hobeys.exhausted 2 hlast
  rw [hcalls] at hending hstops
  exact ⟨hp, slowClock_onClock, hcalls, hstops, hending⟩

/-- A policy whose delays are as many milliseconds as a span can hold. -/
def endlessPolicy : Policy where
  maxAttempts := 1
  baseDelay := .ofMillis 18446744073709551615999
  maxDelay := .ofMillis 18446744073709551615999
  maxElapsed := .ofSecs 1

/-- The delay is added to the time before the attempts are counted, so even the last
attempt that such a policy allows breaks off. -/
theorem breaks_off_of_endlessPolicy :
    endlessPolicy.maxDelay.nanos ≤ Span.longest.nanos ∧ slowClock.OnClock ∧
      answerTo countedFailure 0 0 = .error 0 ∧
      (run endlessPolicy slowClock countedFailure 0).calls = 1 ∧
      (run endlessPolicy slowClock countedFailure 0).ending = .overflow ∧
      ¬(run endlessPolicy slowClock countedFailure 0).Obeys countedFailure 0 endlessPolicy
        slowClock := by
  have hending : (run endlessPolicy slowClock countedFailure 0).ending = .overflow := by
    rfl
  have hcalls : (run endlessPolicy slowClock countedFailure 0).calls = 1 := by
    rfl
  have hanswer : answerTo countedFailure 0 0 = .error 0 := rfl
  refine ⟨by decide, slowClock_onClock, hanswer, hcalls, hending, fun hobeys => ?_⟩
  have hexhausted := (hobeys.exhausted 0 (by rw [hcalls]; exact hanswer)).1
  rw [hending] at hexhausted
  cases hexhausted

end Runs

end Retry
end SidecarProxy
