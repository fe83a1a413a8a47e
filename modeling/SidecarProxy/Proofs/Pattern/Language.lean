import SidecarProxy.Pattern.Basic
import SidecarProxy.Proofs.Text.Cut

/-!
# The language of path patterns

A pattern stands for a set of paths.  `Accepts` says which ones, over the bytes
of the pattern and without reference to its steps.  Main statement: the steps of
a pattern cover exactly these paths when no budget stops the search.
-/

namespace SidecarProxy
namespace Pattern

open Text

section Language

/-- The paths that the bytes of a pattern stand for. -/
inductive Accepts :
    List UInt8 → List UInt8 → Prop
  | empty :
      Accepts [] []
  /-- A star stands for any bytes. -/
  | run
      (taken : List UInt8)
      {rest path : List UInt8}
      (h : Accepts rest path) :
      Accepts (star :: rest) (taken ++ path)
  /-- A name between braces stands for one whole segment, which is not empty. -/
  | segment
      {name rest part path : List UInt8}
      (hname : closing ∉ name)
      (hpart : part ≠ [])
      (hslash : slash ∉ part)
      (hend : path = [] ∨ ∃ more, path = slash :: more)
      (h : Accepts rest path) :
      Accepts (brace :: (name ++ closing :: rest)) (part ++ path)
  /-- Every other byte stands for itself, and so does a brace that is never closed. -/
  | byte
      {b : UInt8}
      {rest path : List UInt8}
      (hstar : b ≠ star)
      (hbrace : b = brace → closing ∉ rest)
      (h : Accepts rest path) :
      Accepts (b :: rest) (b :: path)

theorem ne_of_notMem
    {b : UInt8} {bs : List UInt8}
    (h : b ∉ bs) :
    ∀ x ∈ bs, (x != b) = true := by
  intro x hx
  simpa using fun hxb : x = b => h (hxb ▸ hx)

theorem accepts_nil_iff
    (path : List UInt8) :
    Accepts [] path ↔ path = [] := by
  constructor
  · intro h
    cases h
    rfl
  · rintro rfl
    exact Accepts.empty

theorem accepts_star_iff
    (rest path : List UInt8) :
    Accepts (star :: rest) path
      ↔
    ∃ v, v <:+ path ∧ Accepts rest v := by
  constructor
  · intro h
    cases h with
    | run taken h =>
        exact ⟨_, List.suffix_append _ _, h⟩
    | byte hstar _ _ =>
        exact absurd rfl hstar
  · rintro ⟨v, ⟨taken, rfl⟩, h⟩
    exact Accepts.run taken h

theorem accepts_byte_iff
    {b : UInt8}
    {rest : List UInt8}
    (hstar : b ≠ star)
    (hbrace : b = brace → closing ∉ rest)
    (path : List UInt8) :
    Accepts (b :: rest) path
      ↔
    ∃ p, path = b :: p ∧ Accepts rest p := by
  constructor
  · intro h
    cases h with
    | run => exact absurd rfl hstar
    | segment => exact absurd (by simp) (hbrace rfl)
    | byte _ _ h => exact ⟨_, rfl, h⟩
  · rintro ⟨p, rfl, h⟩
    exact Accepts.byte hstar hbrace h

/-- What is left of a path behind a segment is nothing or begins with a slash. -/
theorem dropWhile_slash_cases
    (path : List UInt8) :
    path.dropWhile (· != slash) = [] ∨
      ∃ more, path.dropWhile (· != slash) = slash :: more := by
  cases hd : path.dropWhile (· != slash) with
  | nil =>
      exact Or.inl rfl
  | cons b more =>
      have hb : (b != slash) = false :=
        of_head?_dropWhile (p := (· != slash)) (l := path) (by simp [hd])
      simp only [bne_eq_false_iff_eq] at hb
      exact Or.inr ⟨more, by rw [hb]⟩

theorem accepts_segment_iff
    {name : List UInt8}
    (hname : closing ∉ name)
    (rest path : List UInt8) :
    Accepts (brace :: (name ++ closing :: rest)) path
      ↔
    path.takeWhile (· != slash) ≠ [] ∧
      Accepts rest (path.dropWhile (· != slash)) := by
  constructor
  · intro h
    generalize hp : brace :: (name ++ closing :: rest) = pattern at h
    cases h with
    | empty => simp at hp
    | run => exact absurd (List.cons.inj hp).1 (by decide)
    | byte _ hbrace _ =>
        obtain ⟨rfl, rfl⟩ := List.cons.inj hp
        exact absurd (by simp) (hbrace rfl)
    | @segment name' rest' part path' hname' hpart hslash hend h =>
        have hrest : rest = rest' := by
          have hcut := (List.cons.inj hp).2
          have hdrop := congrArg (List.dropWhile (· != closing)) hcut
          rw [dropWhile_append_eq (ne_of_notMem hname) (by simp),
            dropWhile_append_eq (ne_of_notMem hname') (by simp)] at hdrop
          exact (List.cons.inj hdrop).2
        have hhead : ∀ b, path'.head? = some b → (b != slash) = false := by
          rcases hend with rfl | ⟨more, rfl⟩ <;> simp
        rw [takeWhile_append_eq (ne_of_notMem hslash) hhead,
          dropWhile_append_eq (ne_of_notMem hslash) hhead, hrest]
        exact ⟨hpart, h⟩
  · rintro ⟨hpart, h⟩
    rw [← List.takeWhile_append_dropWhile (p := (· != slash)) (l := path)]
    refine Accepts.segment hname hpart ?_ (dropWhile_slash_cases path) h
    intro hmem
    simpa using List.mem_takeWhile_imp hmem

/-- Bytes without placeholders in front of a pattern stand for themselves. -/
theorem accepts_literal_append
    {literal : List UInt8}
    (hstar : star ∉ literal)
    (hbrace : brace ∉ literal)
    {rest path : List UInt8}
    (h : Accepts (literal ++ rest) path) :
    ∃ more, path = literal ++ more ∧ Accepts rest more := by
  induction literal generalizing path with
  | nil =>
      exact ⟨path, rfl, h⟩
  | cons b literal ih =>
      rw [List.mem_cons, not_or] at hstar hbrace
      rw [List.cons_append,
        accepts_byte_iff (Ne.symm hstar.1) (fun hb => absurd hb.symm hbrace.1)] at h
      obtain ⟨path, rfl, h⟩ := h
      obtain ⟨more, rfl, hmore⟩ := ih hstar.2 hbrace.2 h
      exact ⟨more, rfl, hmore⟩

/-- Bytes at the end of a pattern that name nothing stand for themselves. -/
theorem literal_suffix_path
    {literal : List UInt8}
    (hstar : star ∉ literal)
    (hbrace : brace ∉ literal)
    (hclosing : closing ∉ literal)
    {pattern path : List UInt8}
    (h : Accepts pattern path)
    (hsuffix : literal <:+ pattern) :
    literal <:+ path := by
  induction h with
  | empty =>
      exact hsuffix
  | run taken _ ih =>
      rcases List.suffix_cons_iff.1 hsuffix with rfl | hrest
      · exact absurd List.mem_cons_self hstar
      · exact (ih hrest).trans (List.suffix_append _ _)
  | @segment name rest part path _ _ _ _ _ ih =>
      -- The closing brace cannot lie in the literal end, so this end is behind it.
      have hend : closing :: rest <:+ brace :: (name ++ closing :: rest) :=
        ⟨brace :: name, rfl⟩
      have hrest : literal <:+ rest := by
        rcases List.suffix_or_suffix_of_suffix hsuffix hend with hliteral | hmore
        · rcases List.suffix_cons_iff.1 hliteral with rfl | hrest
          · exact absurd List.mem_cons_self hclosing
          · exact hrest
        · exact absurd (hmore.subset List.mem_cons_self) hclosing
      exact (ih hrest).trans (List.suffix_append _ _)
  | @byte b rest path _ _ h ih =>
      rcases List.suffix_cons_iff.1 hsuffix with rfl | hrest
      · rw [List.mem_cons, not_or] at hstar hbrace
        rw [← List.append_nil rest] at h
        obtain ⟨more, rfl, hmore⟩ := accepts_literal_append hstar.2 hbrace.2 h
        have hall : rest ++ more = rest := by
          rw [(accepts_nil_iff more).1 hmore, List.append_nil]
        exact hall.symm ▸ List.suffix_rfl
      · exact (ih hrest).trans (List.suffix_cons _ _)

end Language

section Decision

/-- Whether steps take up a whole path, found without a budget. -/
def covers : List Step → List UInt8 → Bool
  | [], path => path.isEmpty
  | .byte _ :: _, [] => false
  | .byte b :: more, c :: path => b == c && covers more path
  | .segment :: more, path =>
      !(path.takeWhile (· != slash)).isEmpty &&
        covers more (path.dropWhile (· != slash))
  | .run :: more, path => (suffixes path).any (covers more)

theorem mem_suffixesOnto
    {found : List (List UInt8)} {v path : List UInt8} :
    v ∈ suffixesOnto found path ↔ v ∈ found ∨ v <:+ path := by
  induction path generalizing found with
  | nil =>
      simp [suffixesOnto, or_comm]
  | cons b path ih =>
      rw [suffixesOnto, ih, List.mem_cons, List.suffix_cons_iff,
        or_assoc, or_left_comm]

theorem mem_suffixes
    {v path : List UInt8} :
    v ∈ suffixes path ↔ v <:+ path := by
  simp [suffixes, mem_suffixesOnto]

theorem steps_star
    (rest : List UInt8) :
    steps (star :: rest) = .run :: steps rest := by
  simp [steps, stepsFrom]

theorem stepsFrom_inside
    {name : List UInt8}
    (hname : closing ∉ name)
    (rest : List UInt8) :
    stepsFrom true (name ++ closing :: rest) = steps rest := by
  induction name with
  | nil =>
      simp [stepsFrom, steps]
  | cons b name ih =>
      have hb : (b != closing) = true := ne_of_notMem hname b (by simp)
      rw [List.cons_append, stepsFrom, hb]
      exact ih fun h => hname (List.mem_cons_of_mem b h)

theorem steps_segment
    {name : List UInt8}
    (hname : closing ∉ name)
    (rest : List UInt8) :
    steps (brace :: (name ++ closing :: rest)) = .segment :: steps rest := by
  have hstar : brace ≠ star := by decide
  simp [steps, stepsFrom, hstar]
  exact stepsFrom_inside hname rest

theorem steps_byte
    {b : UInt8}
    {rest : List UInt8}
    (hstar : b ≠ star)
    (hbrace : b = brace → closing ∉ rest) :
    steps (b :: rest) = .byte b :: steps rest := by
  have hopen : ¬(b = brace ∧ closing ∈ rest) :=
    fun h => hbrace h.1 h.2
  simp [steps, stepsFrom, hstar, hopen]

/-- What the first byte of a pattern begins. -/
theorem pattern_cases
    (pattern : List UInt8) :
    pattern = [] ∨
      (∃ rest, pattern = star :: rest) ∨
      (∃ name rest, closing ∉ name ∧ pattern = brace :: (name ++ closing :: rest)) ∨
      (∃ b rest, b ≠ star ∧ (b = brace → closing ∉ rest) ∧ pattern = b :: rest) := by
  cases pattern with
  | nil =>
      exact Or.inl rfl
  | cons b rest =>
      by_cases hstar : b = star
      · exact Or.inr (Or.inl ⟨rest, by rw [hstar]⟩)
      · by_cases hopen : b = brace ∧ closing ∈ rest
        · obtain ⟨rfl, hmem⟩ := hopen
          obtain ⟨name, more, rfl, hname⟩ := List.eq_append_cons_of_mem hmem
          exact Or.inr (Or.inr (Or.inl ⟨name, more, hname, rfl⟩))
        · refine Or.inr (Or.inr (Or.inr ⟨b, rest, hstar, ?_, rfl⟩))
          exact fun hb hmem => hopen ⟨hb, hmem⟩

/-- Without a budget, the steps of a pattern cover exactly the paths that it stands for. -/
theorem covers_steps_iff
    (pattern path : List UInt8) :
    covers (steps pattern) path = true ↔ Accepts pattern path := by
  -- A brace skips a whole name, so the induction is on the length of the pattern.
  induction hn : pattern.length using Nat.strong_induction_on
    generalizing pattern path with
  | _ n ih =>
      subst hn
      rcases pattern_cases pattern with
        rfl | ⟨rest, rfl⟩ | ⟨name, rest, hname, rfl⟩ | ⟨b, rest, hstar, hbrace, rfl⟩
      · simp [accepts_nil_iff, steps, stepsFrom, covers]
      · have hrest := fun v => ih rest.length (by simp) rest v rfl
        simp [accepts_star_iff, steps_star, covers, mem_suffixes, hrest]
      · have hrest := fun v =>
          ih rest.length (by simp; omega) rest v rfl
        simp [accepts_segment_iff hname, steps_segment hname, covers, hrest]
      · have hrest := fun v => ih rest.length (by simp) rest v rfl
        rw [accepts_byte_iff hstar hbrace, steps_byte hstar hbrace]
        cases path with
        | nil =>
            simp [covers]
        | cons c path =>
            simp only [covers, Bool.and_eq_true, beq_iff_eq, hrest,
              List.cons.injEq]
            constructor
            · rintro ⟨rfl, h⟩
              exact ⟨path, ⟨rfl, rfl⟩, h⟩
            · rintro ⟨p, ⟨rfl, rfl⟩, h⟩
              exact ⟨rfl, h⟩

end Decision

end Pattern
end SidecarProxy
