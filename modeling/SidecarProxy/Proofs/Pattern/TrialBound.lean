import Mathlib.Data.Nat.Choose.Basic
import SidecarProxy.Proofs.Pattern.Budget

/-!
# How many trials a match can take

A run is tried on every suffix of what is left of a path, and each of these trials
leads to the trials of the runs behind it.  So every trial places one more of the
first runs on the path.  Main statement: the trials of a search are the limit from
which on a match is decided, and a binomial coefficient of the stars of the pattern
and the bytes of the path bounds them.
-/

namespace SidecarProxy
namespace Pattern

open Text

section Suffixes

theorem suffixesOnto_eq_append
    {α : Type} (found : List (List α)) (xs : List α) :
    suffixesOnto found xs = suffixes xs ++ found := by
  induction xs generalizing found with
  | nil =>
      rfl
  | cons x xs ih =>
      rw [suffixesOnto, suffixes, suffixesOnto, ih, ih [x :: xs], List.append_assoc,
        List.singleton_append]

/-- The whole list is the last one of its suffixes. -/
theorem suffixes_cons
    {α : Type} (x : α) (xs : List α) :
    suffixes (x :: xs) = suffixes xs ++ [x :: xs] := by
  rw [suffixes, suffixesOnto, suffixesOnto_eq_append]

/-- One more candidate behind the others costs at most its own trial. -/
theorem trialsOf_concat_le
    {α : Type} (hit : α → Bool) (cost : α → Nat)
    (xs : List α) (x : α) :
    trialsOf hit cost (xs ++ [x]) ≤ trialsOf hit cost xs + (1 + cost x) := by
  induction xs with
  | nil =>
      simp [trialsOf]
  | cons y xs ih =>
      rw [List.cons_append, trialsOf, trialsOf]
      split <;> omega

end Suffixes

section Bound

/-- The ways to place the first runs on a path of so many bytes, from none of them up to all. -/
def placements
    (runs bytes : Nat) :
    Nat :=
  (bytes + runs + 1).choose runs

theorem placements_pos
    (runs bytes : Nat) :
    0 < placements runs bytes :=
  Nat.choose_pos (by omega)

/-- The first run is placed in front of the first byte, or no run is. -/
theorem placements_succ_succ
    (runs bytes : Nat) :
    placements (runs + 1) (bytes + 1) =
      placements runs (bytes + 1) + placements (runs + 1) bytes := by
  have hbytes : bytes + 1 + (runs + 1) + 1 = bytes + 1 + runs + 1 + 1 := by
    omega
  have hruns : bytes + (runs + 1) + 1 = bytes + 1 + runs + 1 := by
    omega
  rw [placements, placements, placements, hbytes, hruns, Nat.choose_succ_succ]

theorem placements_succ_zero
    (runs : Nat) :
    placements (runs + 1) 0 = placements runs 0 + 1 := by
  rw [placements, placements, Nat.zero_add, Nat.zero_add, Nat.choose_succ_self_right,
    Nat.choose_succ_self_right]

theorem placements_mono_bytes
    {bytes more : Nat}
    (h : bytes ≤ more)
    (runs : Nat) :
    placements runs bytes ≤ placements runs more :=
  Nat.choose_le_choose runs (by omega)

theorem placements_mono_runs
    {runs more : Nat}
    (h : runs ≤ more)
    (bytes : Nat) :
    placements runs bytes ≤ placements more bytes := by
  have hsymm : ∀ k, placements k bytes = (bytes + k + 1).choose (bytes + 1) :=
    fun k => Nat.choose_symm_of_eq_add (by omega)
  rw [hsymm runs, hsymm more]
  exact Nat.choose_le_choose (bytes + 1) (by omega)

/-- Trials on all suffixes of a path, each of them followed by those of one run less. -/
theorem trialsOf_suffixes_lt
    {hit : List UInt8 → Bool} {cost : List UInt8 → Nat} {runs : Nat}
    (hcost : ∀ path, cost path < placements runs path.length)
    (path : List UInt8) :
    trialsOf hit cost (suffixes path) < placements (runs + 1) path.length := by
  induction path with
  | nil =>
      have hnil : cost [] < placements runs 0 :=
        hcost []
      have hone := trialsOf_concat_le hit cost [] []
      rw [List.length_nil, placements_succ_zero]
      rw [trialsOf] at hone
      change trialsOf hit cost ([] ++ [[]]) < placements runs 0 + 1
      omega
  | cons b path ih =>
      have hlast := hcost (b :: path)
      have hconcat := trialsOf_concat_le hit cost (suffixes path) (b :: path)
      rw [suffixes_cons, List.length_cons, placements_succ_succ]
      rw [List.length_cons] at hlast
      omega

/-- The runs among the steps of a pattern. -/
def runsOf
    (ss : List Step) :
    Nat :=
  ss.count .run

theorem runsOf_byte
    (b : UInt8) (ss : List Step) :
    runsOf (.byte b :: ss) = runsOf ss :=
  List.count_cons_of_ne (by simp)

theorem runsOf_segment
    (ss : List Step) :
    runsOf (.segment :: ss) = runsOf ss :=
  List.count_cons_of_ne (by simp)

theorem runsOf_run
    (ss : List Step) :
    runsOf (.run :: ss) = runsOf ss + 1 :=
  List.count_cons_self

/-- A search makes fewer trials than there are ways to place the first runs. -/
theorem trials_lt_placements
    (ss : List Step) (path : List UInt8) :
    trials ss path < placements (runsOf ss) path.length := by
  induction ss generalizing path with
  | nil =>
      exact placements_pos _ _
  | cons s more ih =>
      cases s with
      | byte b =>
          rw [runsOf_byte]
          cases path with
          | nil =>
              exact placements_pos _ _
          | cons c path =>
              rw [trials]
              split
              · exact (ih path).trans_le (placements_mono_bytes (by simp) _)
              · exact placements_pos _ _
      | segment =>
          rw [runsOf_segment, trials]
          split
          · exact placements_pos _ _
          · exact (ih _).trans_le (placements_mono_bytes (List.length_dropWhile_le _ _) _)
      | run =>
          rw [runsOf_run]
          exact trialsOf_suffixes_lt ih path

/-- Every run of a pattern is a star; a star in the name of a segment is none. -/
theorem runsOf_stepsFrom_le
    (inside : Bool) (pattern : List UInt8) :
    runsOf (stepsFrom inside pattern) ≤ pattern.count star := by
  induction pattern generalizing inside with
  | nil =>
      simp [stepsFrom, runsOf]
  | cons b rest ih =>
      have hrest : rest.count star ≤ (b :: rest).count star :=
        List.count_le_count_cons
      cases inside with
      | true =>
          exact (ih _).trans hrest
      | false =>
          simp only [stepsFrom]
          split
          · next hstar =>
            rw [runsOf_run, hstar, List.count_cons_self]
            exact Nat.succ_le_succ (ih false)
          · split
            · rw [runsOf_segment]
              exact (ih true).trans hrest
            · rw [runsOf_byte]
              exact (ih false).trans hrest

end Bound

section Limits

/-- The stars of a pattern, counted in its bytes. -/
def stars
    (pattern : String) :
    Nat :=
  (utf8 pattern).count star

theorem work_lt_placements
    (pattern path : String) :
    work pattern path < placements (stars pattern) (utf8 path).length :=
  (trials_lt_placements _ _).trans_le (placements_mono_runs (runsOf_stepsFrom_le false _) _)

/-- The answer to a match whose trials nobody limits. -/
def unlimited
    (pattern path : String) :
    Bool :=
  covers (steps (utf8 pattern)) (utf8 path)

/-- A limit that covers the trials gives the answer that there is without a limit. -/
theorem matches_eq_unlimited
    {m : Matcher} {pattern path : String}
    (h : work pattern path ≤ m.limit) :
    m.matches pattern path = unlimited pattern path := by
  rw [Bool.eq_iff_iff, matches_iff_work_le, unlimited, covers_steps_iff]
  exact and_iff_left h

theorem placements_le_of_le_one
    {runs : Nat}
    (hruns : runs ≤ 1)
    (bytes : Nat) :
    placements runs bytes ≤ bytes + 2 := by
  have hone : placements 1 bytes = bytes + 2 :=
    Nat.choose_one_right _
  exact hone ▸ placements_mono_runs hruns bytes

/--
A limit costs a match only if it lies below the trials of the search.  From a
binomial coefficient of the stars and the bytes on, less one, every limit gives the
answer without a limit; for one star and a path of at most 99999 bytes the usual
limit does.
-/
theorem matches_threshold
    (pattern path : String) :
    (unlimited pattern path = true ↔ Accepts (utf8 pattern) (utf8 path)) ∧
      (∃ trials, ∀ limit,
        (Matcher.mk limit).matches pattern path = true ↔
          unlimited pattern path = true ∧ trials ≤ limit) ∧
      (∀ limit,
        ((utf8 path).length + stars pattern + 1).choose (stars pattern) - 1 ≤ limit →
          (Matcher.mk limit).matches pattern path = unlimited pattern path) ∧
      (stars pattern ≤ 1 → (utf8 path).length ≤ 99999 →
        ({} : Matcher).matches pattern path = unlimited pattern path) := by
  have hwork := work_lt_placements pattern path
  have hunlimited : unlimited pattern path = true ↔ Accepts (utf8 pattern) (utf8 path) :=
    covers_steps_iff _ _
  refine ⟨hunlimited, ⟨work pattern path, fun limit => ?_⟩, fun limit hlimit => ?_,
    fun hstars hbytes => ?_⟩
  · rw [hunlimited]
    exact matches_iff_work_le ⟨limit⟩ pattern path
  · have hbound : placements (stars pattern) (utf8 path).length - 1 ≤ limit :=
      hlimit
    exact matches_eq_unlimited (by dsimp only; omega)
  · have hbound := placements_le_of_le_one hstars (utf8 path).length
    exact matches_eq_unlimited (by dsimp only; omega)

theorem matches_threshold_oneStar :
    stars "/foo/*" ≤ 1 ∧ (utf8 "/foo/a/b").length ≤ 99999 ∧
      ({} : Matcher).matches "/foo/*" "/foo/a/b" = unlimited "/foo/*" "/foo/a/b" ∧
      ((utf8 "/a/x/b").length + stars "/*/x/*" + 1).choose (stars "/*/x/*") - 1 ≤ 35 ∧
      (Matcher.mk 35).matches "/*/x/*" "/a/x/b" = unlimited "/*/x/*" "/a/x/b" := by
  have hstars : stars "/foo/*" ≤ 1 := by
    decide
  have hbytes : (utf8 "/foo/a/b").length ≤ 99999 := by
    decide
  have hlimit :
      ((utf8 "/a/x/b").length + stars "/*/x/*" + 1).choose (stars "/*/x/*") - 1 ≤ 35 := by
    decide
  exact ⟨hstars, hbytes, (matches_threshold "/foo/*" "/foo/a/b").2.2.2 hstars hbytes,
    hlimit, (matches_threshold "/*/x/*" "/a/x/b").2.2.1 35 hlimit⟩

end Limits

end Pattern
end SidecarProxy
