import SidecarProxy.Proofs.Retry.Clock

/-!
# The first success

Whether repeated attempts succeed is decided by the answers to them and by the
policy.  Main statement: a sequence of attempts ends with the first success that
the policy lets come, and without one it ends with the last failure.
-/

namespace SidecarProxy
namespace Retry

section FirstSuccess

variable {σ ε α : Type} {op : σ → Except ε α × σ} {p : Policy} {w : Surroundings} {s : σ}

/-- A request is the first one to succeed, and the policy goes on behind all those before it. -/
structure FirstSuccess (op : σ → Except ε α × σ) (p : Policy) (w : Surroundings) (s : σ)
    (n : Nat) (a : α) : Prop where
  answer : answerTo op s n = .ok a
  failed : ∀ k < n, (answerTo op s k).isOk = false
  goesOn : ∀ attempt, 1 ≤ attempt → attempt ≤ n → GoesOn p w attempt

/-- So many requests failed, and the policy goes on behind all of them but the last one. -/
structure AllFailed (op : σ → Except ε α × σ) (p : Policy) (w : Surroundings) (s : σ)
    (calls : Nat) (last : ε) : Prop where
  answer : answerTo op s (calls - 1) = .error last
  failed : ∀ k < calls, (answerTo op s k).isOk = false
  goesOn : ∀ attempt, 1 ≤ attempt → attempt < calls → GoesOn p w attempt
  stops : ¬GoesOn p w calls

theorem run_told
    (op : σ → Except ε α × σ) (p : Policy) (w : Surroundings) (s : σ) :
    ∃ repeats, (run p w op s).calls = repeats + 1 ∧ (run p w op s).Told op s repeats := by
  obtain ⟨repeats, hcalls, htold⟩ := runFrom_told op p w 1 [] s p.maxAttempts
  exact ⟨repeats, hcalls.trans (Nat.add_comm _ _), htold⟩

theorem run_state
    (op : σ → Except ε α × σ) (p : Policy) (w : Surroundings) (s : σ) :
    (run p w op s).state = behind op s (run p w op s).calls := by
  obtain ⟨repeats, hcalls, htold⟩ := run_told op p w s
  rw [hcalls, htold.state]

/-- Attempts end without a success only where the policy does not go on. -/
theorem Run.Stopped.not_goesOn
    {r : Run σ ε α} {first : Nat}
    (h : r.Stopped op s p w first)
    (hvalue : r.ending.value? = none) :
    ¬GoesOn p w r.calls := by
  rw [goesOn_iff]
  rintro ⟨delay, hdelay⟩
  cases hending : r.ending with
  | succeeded a =>
      rw [hending] at hvalue
      cases hvalue
  | exhausted failure =>
      have hnone := (h.exhausted failure hending).2.1
      rw [hdelay] at hnone
      cases hnone
  | overflow =>
      have herror := h.overflow hending
      rw [hdelay] at herror
      cases herror

theorem eq_succeeded_of_value?
    {ending : Ending ε α} {a : α}
    (h : ending.value? = some a) :
    ending = .succeeded a := by
  cases ending with
  | succeeded b =>
      cases h
      rfl
  | exhausted failure =>
      cases h
  | overflow =>
      cases h

theorem run_of_firstSuccess
    {n : Nat} {a : α}
    (h : FirstSuccess op p w s n a) :
    (run p w op s).ending = .succeeded a ∧ (run p w op s).calls = n + 1 := by
  obtain ⟨repeats, hcalls, htold⟩ := run_told op p w s
  rcases Nat.lt_trichotomy repeats n with hearly | rfl | hlate
  · have hvalue : (run p w op s).ending.value? = none := by
      have hfailed := h.failed repeats hearly
      rw [htold.value]
      cases hanswer : answerTo op s repeats with
      | error e =>
          rfl
      | ok b =>
          rw [hanswer] at hfailed
          cases hfailed
    exact absurd (h.goesOn _ (by omega) (by omega)) ((run_stopped op p w s).not_goesOn hvalue)
  · have hvalue := htold.value
    rw [h.answer] at hvalue
    exact ⟨eq_succeeded_of_value? hvalue, hcalls⟩
  · have hfailed := htold.failed n hlate
    rw [h.answer] at hfailed
    cases hfailed

theorem firstSuccess_of_succeeded
    {a : α}
    (h : (run p w op s).ending = .succeeded a) :
    FirstSuccess op p w s ((run p w op s).calls - 1) a := by
  obtain ⟨repeats, hcalls, htold⟩ := run_told op p w s
  have hvalue := htold.value
  rw [h] at hvalue
  rw [hcalls, Nat.add_sub_cancel]
  refine ⟨?_, htold.failed, fun attempt hle hlt => ?_⟩
  · cases hanswer : answerTo op s repeats with
    | error e =>
        rw [hanswer] at hvalue
        cases hvalue
    | ok b =>
        rw [hanswer] at hvalue
        cases hvalue
        rfl
  · exact (run_stopped op p w s).goesOn attempt hle (by omega)

theorem allFailed_of_exhausted
    {failure : Exhausted ε}
    (h : (run p w op s).ending = .exhausted failure) :
    failure.attempts = (run p w op s).calls ∧
      AllFailed op p w s (run p w op s).calls failure.last := by
  obtain ⟨repeats, hcalls, htold⟩ := run_told op p w s
  have hstopped := run_stopped op p w s
  obtain ⟨hattempts, -, hlast⟩ := hstopped.exhausted failure h
  refine ⟨hattempts, hlast, fun k hk => ?_, hstopped.goesOn, hstopped.not_goesOn (by rw [h]; rfl)⟩
  rcases Nat.lt_succ_iff_lt_or_eq.1 (hcalls ▸ hk) with hlt | rfl
  · exact htold.failed k hlt
  · rw [hcalls, Nat.add_sub_cancel] at hlast
    rw [hlast]
    rfl

/-- Attempts end with the first success or, when there is none to come, with the last failure. -/
theorem run_cases
    (hp : p.InWords)
    (hw : w.OnClock)
    (op : σ → Except ε α × σ) (s : σ) :
    (∃ n a, FirstSuccess op p w s n a ∧ (run p w op s).ending = .succeeded a ∧
        (run p w op s).calls = n + 1) ∨
      ((∀ n a, ¬FirstSuccess op p w s n a) ∧
        ∃ failure, (run p w op s).ending = .exhausted failure ∧
          failure.attempts = (run p w op s).calls ∧
            AllFailed op p w s (run p w op s).calls failure.last) := by
  by_cases hfirst : ∃ n a, FirstSuccess op p w s n a
  · obtain ⟨n, a, h⟩ := hfirst
    exact .inl ⟨n, a, h, run_of_firstSuccess h⟩
  · refine .inr ⟨fun n a h => hfirst ⟨n, a, h⟩, ?_⟩
    cases hending : (run p w op s).ending with
    | succeeded a =>
        exact absurd ⟨_, a, firstSuccess_of_succeeded hending⟩ hfirst
    | exhausted failure =>
        exact ⟨failure, rfl, allFailed_of_exhausted hending⟩
    | overflow =>
        exact absurd hending (run_ne_overflow hp hw op s)

theorem FirstSuccess.unique
    {n n' : Nat} {a a' : α}
    (h : FirstSuccess op p w s n a)
    (h' : FirstSuccess op p w s n' a') :
    n = n' ∧ a = a' := by
  obtain ⟨hending, hcalls⟩ := run_of_firstSuccess h
  obtain ⟨hending', hcalls'⟩ := run_of_firstSuccess h'
  rw [hending] at hending'
  cases hending'
  exact ⟨by omega, rfl⟩

end FirstSuccess

end Retry
end SidecarProxy
