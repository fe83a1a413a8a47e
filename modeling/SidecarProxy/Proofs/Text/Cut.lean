import Mathlib.Data.List.TakeWhile

/-!
# Cutting lists

Readers cut their input where a condition first fails.  When the two parts are
known, the cut gives exactly these parts back.
-/

namespace SidecarProxy
namespace Text

section Cut

variable {α : Type}
variable {p : α → Bool}

/-- A list is cut where its parts meet, if the condition holds in the first and fails at the second. -/
theorem takeWhile_append_eq
    {front back : List α}
    (hfront : ∀ a ∈ front, p a = true)
    (hback : ∀ a, back.head? = some a → p a = false) :
    (front ++ back).takeWhile p = front := by
  rw [List.takeWhile_append_of_pos hfront]
  cases back with
  | nil =>
      simp
  | cons a back =>
      simp [hback a rfl]

/-- What is left after the cut is the second part. -/
theorem dropWhile_append_eq
    {front back : List α}
    (hfront : ∀ a ∈ front, p a = true)
    (hback : ∀ a, back.head? = some a → p a = false) :
    (front ++ back).dropWhile p = back := by
  rw [List.dropWhile_append_of_pos hfront]
  cases back with
  | nil =>
      simp
  | cons a back =>
      simp [hback a rfl]

/-- Where the condition fails at the second part, only the first part is cut. -/
theorem dropWhile_append_of_head
    {front back : List α}
    (hback : ∀ a, back.head? = some a → p a = false) :
    (front ++ back).dropWhile p = front.dropWhile p ++ back := by
  have hself : back.dropWhile p = back := by
    cases back with
    | nil =>
        rfl
    | cons a back =>
        simp [hback a rfl]
  rw [List.dropWhile_append]
  split
  · next hempty =>
      rw [hself, List.isEmpty_iff.1 hempty, List.nil_append]
  · rfl

/-- The condition fails where a list is cut. -/
theorem of_head?_dropWhile
    {l : List α} {a : α}
    (h : (l.dropWhile p).head? = some a) :
    p a = false := by
  have hnot := List.head?_dropWhile_not p l
  rwa [h] at hnot

end Cut

end Text
end SidecarProxy
