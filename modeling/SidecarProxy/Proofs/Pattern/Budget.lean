import SidecarProxy.Proofs.Pattern.Language

/-!
# The budget of a match

The search spends its budget on trials of runs.  `trials` counts those that it
makes when nothing stops it.  With that budget the answer is the one that the
language of the pattern gives, and what is left over is known; with a smaller
one the budget is used up and the path does not match.
-/

namespace SidecarProxy
namespace Pattern

open Text

section Trials

/-- The cost of trying candidates in order until one succeeds, one unit for each trial. -/
def trialsOf
    {α : Type}
    (hit : α → Bool) (cost : α → Nat) :
    List α → Nat
  | [] => 0
  | x :: more =>
      1 + cost x + if hit x then 0 else trialsOf hit cost more

/-- The trials that a search makes when its budget never runs out. -/
def trials : List Step → List UInt8 → Nat
  | [], _ => 0
  | .byte _ :: _, [] => 0
  | .byte b :: more, c :: path => if b = c then trials more path else 0
  | .segment :: more, path =>
      if (path.takeWhile (· != slash)).isEmpty then 0
      else trials more (path.dropWhile (· != slash))
  | .run :: more, path => trialsOf (covers more) (trials more) (suffixes path)

/-- An answer that takes so many units of a budget, or the miss when the budget is too small. -/
def within
    (answer : Bool) (cost budget : Nat) :
    Bool × Nat :=
  if cost ≤ budget then (answer, budget - cost) else (false, 0)

theorem within_of_le
    {answer : Bool} {cost budget : Nat}
    (h : cost ≤ budget) :
    within answer cost budget = (answer, budget - cost) := by
  simp [within, h]

theorem within_of_lt
    {answer : Bool} {cost budget : Nat}
    (h : budget < cost) :
    within answer cost budget = (false, 0) := by
  simp [within, Nat.not_le.2 h]

/-- What is left after some cost pays for the rest exactly as the whole pays for both. -/
theorem within_sub
    {answer : Bool} {first rest budget : Nat}
    (h : first ≤ budget) :
    within answer rest (budget - first) = within answer (first + rest) budget := by
  by_cases hrest : first + rest ≤ budget
  · rw [within_of_le hrest, within_of_le (by omega), Nat.sub_sub]
  · rw [within_of_lt (by omega), within_of_lt (by omega)]

theorem firstOf_zero
    {α : Type}
    (attempt : α → Nat → Bool × Nat)
    (candidates : List α) :
    firstOf attempt candidates 0 = (false, 0) := by
  cases candidates <;> rfl

/-- Attempts that are exact within their costs make an exact choice within the costs of all. -/
theorem firstOf_eq_within
    {α : Type}
    {attempt : α → Nat → Bool × Nat}
    {hit : α → Bool} {cost : α → Nat}
    (hattempt : ∀ x budget, attempt x budget = within (hit x) (cost x) budget)
    (candidates : List α) (budget : Nat) :
    firstOf attempt candidates budget =
      within (candidates.any hit) (trialsOf hit cost candidates) budget := by
  induction candidates generalizing budget with
  | nil =>
      rfl
  | cons x more ih =>
      cases budget with
      | zero =>
          rw [firstOf_zero, within_of_lt (by rw [trialsOf]; omega)]
      | succ budget =>
          rw [firstOf, hattempt]
          by_cases hpaid : cost x ≤ budget
          · rw [within_of_le hpaid]
            cases hx : hit x with
            | true =>
                have hcost : trialsOf hit cost (x :: more) = 1 + cost x := by
                  simp [trialsOf, hx]
                rw [List.any_cons, hx, hcost, within_of_le (by omega)]
                simp only [Bool.true_or, Prod.mk.injEq, true_and]
                omega
            | false =>
                have hcost : trialsOf hit cost (x :: more) =
                    cost x + 1 + trialsOf hit cost more := by
                  simp [trialsOf, hx, Nat.add_comm]
                have hleft : budget - cost x = budget + 1 - (cost x + 1) := by
                  omega
                rw [List.any_cons, hx, Bool.false_or, hcost, ← within_sub (by omega), ← hleft]
                exact ih (budget - cost x)
          -- The trial itself ran out, so that nothing is left for the next ones.
          · rw [within_of_lt (Nat.not_le.1 hpaid),
              within_of_lt (by rw [trialsOf]; omega)]
            exact firstOf_zero attempt more

/-- A search is exact when its budget covers all trials, and a miss without leftovers otherwise. -/
theorem search_eq_within
    (ss : List Step) (path : List UInt8) (budget : Nat) :
    search ss path budget =
      within (covers ss path) (trials ss path) budget := by
  induction ss generalizing path budget with
  | nil =>
      simp [search, covers, trials, within]
  | cons s more ih =>
      cases s with
      | byte b =>
          cases path with
          | nil =>
              simp [search, covers, trials, within]
          | cons c path =>
              by_cases hbc : b = c
              · simp [search, covers, trials, hbc, ih]
              · simp [search, covers, trials, hbc, within]
      | segment =>
          by_cases hpart : (path.takeWhile (· != slash)).isEmpty
          · simp [search, covers, trials, hpart, within]
          · simp [search, covers, trials, hpart, ih]
      | run =>
          exact firstOf_eq_within ih (suffixes path) budget

end Trials

section Work

/-- The trials that the search for a path makes when its budget never runs out. -/
def work
    (pattern path : String) :
    Nat :=
  trials (steps (utf8 pattern)) (utf8 path)

/-- What a match leaves of the limit of its matcher. -/
def leftOver
    (m : Matcher) (pattern path : String) :
    Nat :=
  (search (steps (utf8 pattern)) (utf8 path) m.limit).2

/-- A path matches when it belongs to the pattern and the limit covers the trials. -/
theorem matches_iff_work_le
    (m : Matcher) (pattern path : String) :
    m.matches pattern path = true
      ↔
    Accepts (utf8 pattern) (utf8 path) ∧ work pattern path ≤ m.limit := by
  have hsearch :
      search (steps (utf8 pattern)) (utf8 path) m.limit =
        within (covers (steps (utf8 pattern)) (utf8 path)) (work pattern path) m.limit :=
    search_eq_within _ _ _
  rw [Matcher.matches, hsearch, ← covers_steps_iff]
  by_cases hpaid : work pattern path ≤ m.limit
  · simp [within_of_le hpaid, hpaid]
  · simp [within_of_lt (Nat.not_le.1 hpaid), hpaid]

/--
The matcher decides the language of a pattern with every limit that covers the
trials of the search, of which it then spends exactly as many.  A smaller limit
is spent as a whole, and nothing matches.
-/
theorem matches_iff_accepts
    (m : Matcher) (pattern path : String) :
    (work pattern path ≤ m.limit →
      (m.matches pattern path = true ↔
          Accepts (utf8 pattern) (utf8 path)) ∧
        leftOver m pattern path = m.limit - work pattern path) ∧
    (m.limit < work pattern path →
      m.matches pattern path = false ∧
        leftOver m pattern path = 0) := by
  have hsearch :
      search (steps (utf8 pattern)) (utf8 path) m.limit =
        within (covers (steps (utf8 pattern)) (utf8 path)) (work pattern path) m.limit :=
    search_eq_within _ _ _
  constructor
  · intro henough
    rw [within_of_le henough] at hsearch
    rw [Matcher.matches, leftOver, hsearch]
    exact ⟨covers_steps_iff _ _, rfl⟩
  · intro hshort
    rw [within_of_lt hshort] at hsearch
    rw [Matcher.matches, leftOver, hsearch]
    exact ⟨rfl, rfl⟩

theorem matches_iff_accepts_two_runs :
    work "/*/items/*" "/a/b/items/c" ≤ 20 ∧
      ((Matcher.mk 20).matches "/*/items/*" "/a/b/items/c" = true ↔
        Accepts (utf8 "/*/items/*") (utf8 "/a/b/items/c")) ∧
      3 < work "/*/items/*" "/a/b/items/c" ∧
        (Matcher.mk 3).matches "/*/items/*" "/a/b/items/c" = false := by
  have henough : work "/*/items/*" "/a/b/items/c" ≤ 20 := by
    decide
  have hshort : 3 < work "/*/items/*" "/a/b/items/c" := by
    decide
  exact ⟨henough, ((matches_iff_accepts ⟨20⟩ _ _).1 henough).1,
    hshort, ((matches_iff_accepts ⟨3⟩ _ _).2 hshort).1⟩

end Work

end Pattern
end SidecarProxy
