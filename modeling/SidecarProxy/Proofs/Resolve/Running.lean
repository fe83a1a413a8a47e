import SidecarProxy.Proofs.Except
import SidecarProxy.Resolve.Run

/-!
# Searches and their answers

What a search comes to when its questions are answered.  A search in several
parts is answered part by part, and every part goes on where the one before it
left the services.
-/

namespace SidecarProxy
namespace Resolve

open Catalog Message Route

section Parts

variable {σ α β : Type}
variable (services : Services σ)

/-- The second part of a search is answered behind the first, unless this one failed. -/
theorem run_bind
    (search : Search α) (f : α → Search β) (s : σ) :
    (search >>= f).run services s =
      match search.run services s with
      | (.ok a, s') => (f a).run services s'
      | (.error e, s') => (.error e, s') := by
  change (search.bind f).run services s = _
  induction search generalizing s with
  | ended result =>
      cases result <;> rfl
  | read d next ih =>
      exact ih _ s
  | askEntitled tenant next ih =>
      exact ih _ _
  | askTable id next ih =>
      exact ih _ _

theorem run_bind_eq_ok
    {search : Search α} {f : α → Search β} {s s' : σ} {b : β}
    (h : (search >>= f).run services s = (.ok b, s')) :
    ∃ a middle,
      search.run services s = (.ok a, middle) ∧ (f a).run services middle = (.ok b, s') := by
  rw [run_bind] at h
  cases hfirst : search.run services s with
  | mk result middle =>
      rw [hfirst] at h
      cases result with
      | error e =>
          cases h
      | ok a =>
          exact ⟨a, middle, rfl, h⟩

end Parts

section Questions

variable {σ : Type}
variable (services : Services σ)

theorem run_entitled
    (tenant : String) (s : σ) :
    (Search.entitled tenant).run services s =
      ((services.entitled tenant s).1.mapError .entitlements, (services.entitled tenant s).2) := by
  simp only [Search.entitled, Search.run]
  cases (services.entitled tenant s).1 <;> rfl

end Questions

end Resolve
end SidecarProxy
