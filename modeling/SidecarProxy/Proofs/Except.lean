/-!
# Computations that can fail

How a computation of several steps came to succeed: each of its steps did.  One
that fails does so with the failure of the first step that fails.
-/

namespace SidecarProxy

section Except

variable {α β γ ε : Type}

theorem bind_eq_ok
    {x : Except ε α} {f : α → Except ε β} {b : β}
    (h : x >>= f = .ok b) :
    ∃ a, x = .ok a ∧ f a = .ok b := by
  cases x with
  | error e =>
      cases h
  | ok a =>
      exact ⟨a, rfl, h⟩

theorem bind_eq_error
    {x : Except ε α} {f : α → Except ε β} {e : ε}
    (h : x >>= f = .error e) :
    x = .error e ∨ ∃ a, x = .ok a ∧ f a = .error e := by
  cases x with
  | error e' =>
      cases h
      exact Or.inl rfl
  | ok a =>
      exact Or.inr ⟨a, rfl, h⟩

theorem map_eq_ok
    {x : Except ε α} {f : α → β} {b : β}
    (h : x.map f = .ok b) :
    ∃ a, x = .ok a ∧ f a = b := by
  cases x with
  | error e =>
      cases h
  | ok a =>
      cases h
      exact ⟨a, rfl, rfl⟩

theorem eq_ok_of_mapError
    {δ : Type} {x : Except ε α} {f : ε → δ} {a : α}
    (h : x.mapError f = .ok a) :
    x = .ok a := by
  cases x with
  | error e =>
      cases h
  | ok b =>
      cases h
      rfl

theorem mapM_cons_eq_ok
    {f : α → Except ε β}
    {x : α} {xs : List α} {ys : List β}
    (h : (x :: xs).mapM f = .ok ys) :
    ∃ y rest, f x = .ok y ∧ xs.mapM f = .ok rest ∧ ys = y :: rest := by
  rw [List.mapM_cons] at h
  obtain ⟨y, hy, h⟩ := bind_eq_ok h
  obtain ⟨rest, hrest, h⟩ := bind_eq_ok h
  cases h
  exact ⟨y, rest, hy, hrest, rfl⟩

theorem mapM_singleton_eq_ok
    {f : α → Except ε β}
    {x : α} {y : β}
    (h : f x = .ok y) :
    [x].mapM f = .ok [y] := by
  rw [List.mapM_cons, h]
  rfl

/-- Every result of a list of computations is that of one of them. -/
theorem exists_of_mem_mapM_eq_ok
    {f : α → Except ε β}
    {xs : List α} {ys : List β} {y : β}
    (h : xs.mapM f = .ok ys)
    (hy : y ∈ ys) :
    ∃ x ∈ xs, f x = .ok y := by
  induction xs generalizing ys with
  | nil =>
      cases h
      cases hy
  | cons x xs ih =>
      obtain ⟨z, rest, hx, hxs, rfl⟩ := mapM_cons_eq_ok h
      rcases List.mem_cons.1 hy with rfl | hy
      · exact ⟨x, List.mem_cons_self, hx⟩
      · obtain ⟨x', hx', hy⟩ := ih hxs hy
        exact ⟨x', List.mem_cons_of_mem x hx', hy⟩

/-- What is known of each result is known of the list of all results. -/
theorem map_eq_of_mapM_eq_ok
    {f : α → Except ε β} {g : β → γ} {k : α → γ}
    (hf : ∀ x y, f x = .ok y → g y = k x)
    {xs : List α} {ys : List β}
    (h : xs.mapM f = .ok ys) :
    ys.map g = xs.map k := by
  induction xs generalizing ys with
  | nil =>
      cases h
      rfl
  | cons x xs ih =>
      obtain ⟨y, rest, hx, hxs, rfl⟩ := mapM_cons_eq_ok h
      rw [List.map_cons, List.map_cons, hf x y hx, ih hxs]

end Except

section Failure

variable {α β ε : Type}

/-- The failure of a computation, if it failed. -/
def failure? : Except ε α → Option ε
  | .error e => some e
  | .ok _ => none

@[simp]
theorem failure?_error
    (e : ε) :
    failure? (.error e : Except ε α) = some e := rfl

@[simp]
theorem failure?_ok
    (a : α) :
    failure? (.ok a : Except ε α) = none := rfl

theorem failure?_eq_some_iff
    {x : Except ε α} {e : ε} :
    failure? x = some e ↔ x = .error e := by
  cases x <;> simp

theorem failure?_bind
    {x : Except ε α} {f : α → Except ε β} {g : Option ε}
    (h : ∀ a, failure? (f a) = g) :
    failure? (x >>= f) = (failure? x).or g := by
  cases x with
  | error e =>
      rfl
  | ok a =>
      exact h a

/-- A list of computations fails as the first of them that fails. -/
theorem failure?_mapM
    (f : α → Except ε β) (xs : List α) :
    failure? (xs.mapM f) = xs.findSome? fun x => failure? (f x) := by
  induction xs with
  | nil =>
      rfl
  | cons x xs ih =>
      have hrest : ∀ y, failure? (do let ys ← xs.mapM f; pure (y :: ys)) =
          xs.findSome? fun x => failure? (f x) := by
        intro y
        rw [failure?_bind (g := none) fun _ => rfl, Option.or_none, ih]
      rw [List.mapM_cons, failure?_bind hrest, List.findSome?_cons]
      cases failure? (f x) <;> rfl

/-- So does a fold whose steps fail whatever was made before. -/
theorem failure?_foldlM
    {f : β → α → Except ε β} {g : α → Option ε}
    (h : ∀ b a, failure? (f b a) = g a)
    (init : β) (xs : List α) :
    failure? (xs.foldlM f init) = xs.findSome? g := by
  induction xs generalizing init with
  | nil =>
      rfl
  | cons x xs ih =>
      rw [List.foldlM_cons, failure?_bind ih, h, List.findSome?_cons]
      cases g x <;> rfl

end Failure

end SidecarProxy
