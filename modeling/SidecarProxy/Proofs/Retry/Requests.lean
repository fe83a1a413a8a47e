import SidecarProxy.Proofs.Retry.Dues

/-!
# The requests of repeated attempts

Every attempt is one more request, and only the last one may succeed.  So the
requests of an operation can be numbered along its whole life, and a sequence of
attempts is told by the answers to them.
-/

namespace SidecarProxy
namespace Retry

section Requests

variable {σ ε α : Type}

/-- An operation behind so many requests. -/
def behind
    (op : σ → Except ε α × σ) (s : σ) :
    Nat → σ
  | 0 => s
  | n + 1 => (op (behind op s n)).2

/-- The answer to a request, counted from the first one. -/
def answerTo
    (op : σ → Except ε α × σ) (s : σ) (n : Nat) :
    Except ε α :=
  (op (behind op s n)).1

variable {op : σ → Except ε α × σ}

theorem behind_add
    (s : σ) (m n : Nat) :
    behind op s (m + n) = behind op (behind op s m) n := by
  induction n with
  | zero =>
      rfl
  | succ n ih =>
      exact congrArg (fun s => (op s).2) ih

theorem answerTo_add
    (s : σ) (m n : Nat) :
    answerTo op s (m + n) = answerTo op (behind op s m) n :=
  congrArg (fun s => (op s).1) (behind_add s m n)

/-- The result of an operation that succeeded. -/
def Ending.value? : Ending ε α → Option α
  | .succeeded value => some value
  | .exhausted _ => none
  | .overflow => none

/-- A sequence of attempts ends behind its requests, which failed except for the last one. -/
structure Run.Told (run : Run σ ε α) (op : σ → Except ε α × σ) (s : σ) (repeats : Nat) :
    Prop where
  state : run.state = behind op s (repeats + 1)
  failed : ∀ n < repeats, (answerTo op s n).isOk = false
  value : run.ending.value? = (answerTo op s repeats).toOption

variable {s : σ} {run : Run σ ε α}

/-- One more attempt in front, which failed. -/
theorem Run.Told.cons
    {repeats : Nat}
    (h : run.Told op (op s).2 repeats)
    (hfailed : (op s).1.isOk = false) :
    run.Told op s (repeats + 1) where
  state := by
    rw [h.state, Nat.add_comm (repeats + 1) 1, behind_add s 1]
    rfl
  failed n hn := by
    cases n with
    | zero =>
        exact hfailed
    | succ n =>
        rw [Nat.add_comm, answerTo_add]
        exact h.failed n (Nat.lt_of_succ_lt_succ hn)
  value := by
    rw [h.value, Nat.add_comm, answerTo_add]
    rfl

theorem told_of_first
    {answer : Except ε α} {s' : σ}
    (h : op s = (answer, s'))
    (hstate : run.state = s')
    (hvalue : run.ending.value? = answer.toOption) :
    run.Told op s 0 where
  state := by
    rw [hstate, behind, behind, h]
  failed n hn := absurd hn (Nat.not_lt_zero n)
  value := by
    rw [hvalue, answerTo, behind, h]

theorem runFrom_told
    (op : σ → Except ε α × σ) (p : Policy) (w : Surroundings)
    (attempt : Nat) (sleeps : List Span) (s : σ) (left : Nat) :
    ∃ repeats, (runFrom p w op attempt sleeps s left).calls = attempt + repeats ∧
      (runFrom p w op attempt sleeps s left).Told op s repeats := by
  fun_induction runFrom p w op attempt sleeps s left with
  | case1 _ _ s left value s' h =>
      exact ⟨0, rfl, told_of_first h rfl rfl⟩
  | case2 _ _ s _ e s' h =>
      exact ⟨0, rfl, told_of_first h rfl rfl⟩
  | case3 _ _ s _ e s' h =>
      exact ⟨0, rfl, told_of_first h rfl rfl⟩
  | case4 _ _ s e s' h =>
      exact ⟨0, rfl, told_of_first h rfl rfl⟩
  | case5 attempt _ s e s' h _ _ left ih =>
      obtain ⟨repeats, hcalls, htold⟩ := ih
      have hs' : s' = (op s).2 := by rw [h]
      rw [hs'] at hcalls htold ⊢
      refine ⟨repeats + 1, by omega, htold.cons ?_⟩
      rw [h]
      rfl

/-- Only an attempt that is not the last one is followed by a delay. -/
theorem lt_of_nextDelay
    {p : Policy} {w : Surroundings} {attempt : Nat} {delay : Span}
    (h : nextDelay p w attempt = .ok (some delay)) :
    attempt < p.maxAttempts := by
  obtain ⟨-, hmore, -⟩ := nextDelay_eq_some h
  exact Nat.not_le.1 fun hlast => hmore (.inl hlast)

/-- The policy allows another attempt after a failed one: there is one left, and the delay before
it ends in time. -/
def GoesOn (p : Policy) (w : Surroundings) (attempt : Nat) : Prop :=
  ∃ delay finish, delay? attempt p.baseDelay p.maxDelay (w.draw attempt) = some delay ∧
    (w.elapsed attempt).add? delay = some finish ∧
      attempt < p.maxAttempts ∧ finish.nanos ≤ p.maxElapsed.nanos

theorem goesOn_iff
    {p : Policy} {w : Surroundings} {attempt : Nat} :
    GoesOn p w attempt ↔ ∃ delay, nextDelay p w attempt = .ok (some delay) := by
  unfold GoesOn nextDelay
  cases hdelay : delay? attempt p.baseDelay p.maxDelay (w.draw attempt) with
  | none => simp
  | some delay =>
      cases hfinish : (w.elapsed attempt).add? delay with
      | none => simp [hfinish]
      | some finish =>
          by_cases hstop : attempt ≥ p.maxAttempts ∨ finish.nanos > p.maxElapsed.nanos
          · have hnot : ¬ (attempt < p.maxAttempts ∧ finish.nanos ≤ p.maxElapsed.nanos) := by
              omega
            simp [hfinish, hstop, hnot]
          · have hmore : attempt < p.maxAttempts ∧ finish.nanos ≤ p.maxElapsed.nanos := by
              omega
            simp [hfinish, hstop, hmore]

/-- Why a sequence of attempts ended where it did, its first attempt being a given one. -/
structure Run.Stopped (run : Run σ ε α) (op : σ → Except ε α × σ) (s : σ) (p : Policy)
    (w : Surroundings) (first : Nat) : Prop where
  goesOn : ∀ attempt, first ≤ attempt → attempt < run.calls → GoesOn p w attempt
  exhausted :
    ∀ failure, run.ending = .exhausted failure →
      failure.attempts = run.calls ∧ nextDelay p w run.calls = .ok none ∧
        answerTo op s (run.calls - first) = .error failure.last
  overflow : run.ending = .overflow → nextDelay p w run.calls = .error ()

/-- One more attempt in front, after which the policy goes on. -/
theorem Run.Stopped.cons
    {p : Policy} {w : Surroundings} {attempt : Nat}
    (h : run.Stopped op (op s).2 p w (attempt + 1))
    (hcalls : attempt < run.calls)
    (hmore : GoesOn p w attempt) :
    run.Stopped op s p w attempt where
  goesOn n hle hlt := by
    rcases Nat.eq_or_lt_of_le hle with rfl | hle
    · exact hmore
    · exact h.goesOn n hle hlt
  exhausted failure hfailure := by
    obtain ⟨hattempts, hstop, hlast⟩ := h.exhausted failure hfailure
    have hsub : run.calls - attempt = 1 + (run.calls - (attempt + 1)) := by omega
    rw [hsub, answerTo_add]
    exact ⟨hattempts, hstop, hlast⟩
  overflow := h.overflow

theorem runFrom_stopped
    (op : σ → Except ε α × σ) (p : Policy) (w : Surroundings)
    (attempt : Nat) (sleeps : List Span) (s : σ) (left : Nat)
    (hleft : p.maxAttempts ≤ attempt + left) :
    (runFrom p w op attempt sleeps s left).Stopped op s p w attempt := by
  fun_induction runFrom p w op attempt sleeps s left with
  | case1 attempt sleeps s left value s' h =>
      exact ⟨fun n hle hlt => absurd hle (by simpa using hlt), by simp, by simp⟩
  | case2 attempt sleeps s left e s' h hnext =>
      exact ⟨fun n hle hlt => absurd hle (by simpa using hlt), by simp, fun _ => hnext⟩
  | case3 attempt sleeps s left e s' h hnext =>
      refine ⟨fun n hle hlt => absurd hle (by simpa using hlt), ?_, by simp⟩
      rintro failure hfailure
      cases hfailure
      exact ⟨rfl, hnext, by simp [answerTo, behind, h]⟩
  | case4 attempt sleeps s e s' h delay hnext =>
      have hlt := lt_of_nextDelay hnext
      omega
  | case5 attempt sleeps s e s' h delay hnext left ih =>
      have hs' : s' = (op s).2 := by rw [h]
      rw [hs'] at ih ⊢
      have hcalls : attempt < (runFrom p w op (attempt + 1) (sleeps ++ [delay]) (op s).2
          left).calls := by
        obtain ⟨repeats, hrepeats, -⟩ :=
          runFrom_told op p w (attempt + 1) (sleeps ++ [delay]) (op s).2 left
        omega
      exact (ih (by omega)).cons hcalls (goesOn_iff.2 ⟨delay, hnext⟩)

end Requests

end Retry
end SidecarProxy
