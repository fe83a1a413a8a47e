import Mathlib.Data.List.Induction
import SidecarProxy.Metrics

/-!
# What series show

A series shows what its measurements come to, in the order in which they were
made.  Main statements: a counter shows how often it was counted, and a gauge
what it was set to last.
-/

namespace SidecarProxy
namespace Metrics

section Readings

variable {s : Series} {events : List Event}

/-- What a series shows; one that was never measured shows zero. -/
def reading (s : Series) (events : List Event) : Nat :=
  (value? s events).getD 0

/-- The value of a series behind one more measurement. -/
def Event.after (s : Series) (v : Option Nat) : Event → Option Nat
  | .count t => if t = s then some (v.getD 0 + 1) else v
  | .set t n => if t = s then some n else v

/-- What a measurement sets a series to. -/
def Event.setTo? (s : Series) : Event → Option Nat
  | .count _ => none
  | .set t n => if t = s then some n else none

theorem value?_concat
    (s : Series) (events : List Event) (e : Event) :
    value? s (events ++ [e]) = e.after s (value? s events) :=
  List.foldl_append

/-- A series that is only counted has no other value than how often it was. -/
theorem value?_of_never_set
    (h : ∀ n, Event.set s n ∉ events) :
    value? s events =
      if events.count (.count s) = 0 then none else some (events.count (.count s)) := by
  induction events using List.reverseRecOn with
  | nil =>
      rfl
  | append_singleton events e ih =>
      have hbefore : ∀ n, Event.set s n ∉ events :=
        fun n hn => h n (List.mem_append_left [e] hn)
      rw [value?_concat, ih hbefore, List.count_append]
      cases e with
      | count t =>
          by_cases hts : t = s
          · subst hts
            by_cases hzero : events.count (.count t) = 0 <;> simp [Event.after, hzero]
          · simp [Event.after, hts]
      | set t n =>
          have hts : t ≠ s := by
            rintro rfl
            exact h n (by simp)
          simp [Event.after, hts]

theorem reading_of_never_set
    (h : ∀ n, Event.set s n ∉ events) :
    reading s events = events.count (.count s) := by
  rw [reading, value?_of_never_set h]
  split
  · next hzero => rw [hzero, Option.getD_none]
  · rw [Option.getD_some]

/-- A series that is only set has the value that it was set to last. -/
theorem value?_of_never_counted
    (h : Event.count s ∉ events) :
    value? s events = (events.filterMap (Event.setTo? s)).getLast? := by
  induction events using List.reverseRecOn with
  | nil =>
      rfl
  | append_singleton events e ih =>
      have hbefore : Event.count s ∉ events :=
        fun hcount => h (List.mem_append_left [e] hcount)
      rw [value?_concat, ih hbefore, List.filterMap_append]
      cases e with
      | count t =>
          have hts : t ≠ s := by
            rintro rfl
            exact h (by simp)
          simp [Event.after, Event.setTo?, hts]
      | set t n =>
          by_cases hts : t = s <;> simp [Event.after, Event.setTo?, hts]

end Readings

end Metrics
end SidecarProxy
