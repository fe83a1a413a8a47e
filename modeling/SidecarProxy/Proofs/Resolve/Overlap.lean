import SidecarProxy.Proofs.Resolve.Running
import SidecarProxy.Proofs.Route.PublishedRuns
import SidecarProxy.Proofs.Runs

/-!
# A search beside bootstraps

A bootstrap publishes its two tables one after the other, and a search reads the
two tables one after the other.  Whoever is not held up goes on, so both may
happen in any order.  Main statements: which tables are published at any time,
and that a search may be put off until so many bootstraps are complete.
-/

namespace SidecarProxy
namespace Resolve

open Catalog Route

section Turns

/-- A search beside bootstraps that follow one another. -/
structure Overlap where
  published : Published
  /-- The bootstraps that have not begun, in order. -/
  waiting : List Bootstrap
  /-- What the bootstrap under way has still to publish. -/
  pending : List (Direction × Table) := []
  search : Search (Option Found)

/-- What may happen next, without interruption. -/
inductive Turn where
  /-- The next bootstrap compiles its tables. -/
  | compile
  /-- A compiled table takes the place of the published one. -/
  | publish
  /-- The search reads a published table. -/
  | read
  deriving DecidableEq, Repr

def Overlap.turn?
    (o : Overlap) : Turn → Option Overlap
  | .compile =>
    match o.pending, o.waiting with
    | [], b :: bs =>
      some { o with
        waiting := bs
        pending := (Update.bootstrap b).tables o.published.moduleUrl }
    | _, _ => none
  | .publish =>
    match o.pending with
    | x :: rest =>
      some { o with published := o.published.publish x.1 x.2, pending := rest }
    | [] => none
  | .read =>
    match o.search with
    | .read d next => some { o with search := next (o.published.snapshot d).table }
    | _ => none

def Overlap.run?
    (o : Overlap) (turns : List Turn) : Option Overlap :=
  runOf? Overlap.turn? o turns

end Turns

section Generations

/-- What is published when so many bootstraps are complete. -/
def generation
    (p : Published) (bs : List Bootstrap) (k : Nat) : Published :=
  (bs.take k).foldl (fun p b => (p.update (.bootstrap b)).published) p

theorem generation_succ
    {bs : List Bootstrap} {k : Nat} {b : Bootstrap}
    (p : Published)
    (h : bs[k]? = some b) :
    generation p bs (k + 1) =
      (generation p bs k).publishAll
        ((Update.bootstrap b).tables (generation p bs k).moduleUrl) := by
  rw [generation, List.take_add_one, h, List.foldl_append, ← generation, ← (update_spec _ _).2]
  rfl

/-- A bootstrap publishes both tables, the ingress table first, or none. -/
theorem tables_bootstrap
    (url : Option String) (b : Bootstrap) :
    (Update.bootstrap b).tables url = [] ∨
      ∃ t t', (Update.bootstrap b).tables url = [(.ingress, t), (.egress, t')] := by
  cases haccepted : (Update.bootstrap b).accepted url with
  | false =>
      exact Or.inl (by simp [Update.tables, Update.table?, haccepted])
  | true =>
      obtain ⟨t, ht⟩ := Option.ne_none_iff_exists'.1 (table?_bootstrap_ne_none haccepted .ingress)
      obtain ⟨t', ht'⟩ := Option.ne_none_iff_exists'.1 (table?_bootstrap_ne_none haccepted .egress)
      exact Or.inr ⟨t, t', by simp [Update.tables, ht, ht']⟩

end Generations

section Stages

variable {p : Published} {bs : List Bootstrap} {o o' : Overlap} {i j : Nat}

/--
How far the bootstraps have come: the published ingress table is of the first
generation, and the egress table of the second one.
-/
inductive Overlap.Stage (p : Published) (bs : List Bootstrap) (o : Overlap) : Nat → Nat → Prop
  /-- No bootstrap is under way. -/
  | idle
      {k : Nat}
      (hk : k ≤ bs.length)
      (hpublished : o.published = generation p bs k)
      (hpending : o.pending = [])
      (hwaiting : o.waiting = bs.drop k) :
      Stage p bs o k k
  | compiled
      {k : Nat} {t t' : Table}
      (hk : k < bs.length)
      (hpublished : o.published = generation p bs k)
      (hpending : o.pending = [(.ingress, t), (.egress, t')])
      (hnext : generation p bs (k + 1) = (o.published.publish .ingress t).publish .egress t')
      (hwaiting : o.waiting = bs.drop (k + 1)) :
      Stage p bs o k k
  | halfway
      {k : Nat} {t t' : Table}
      (hk : k < bs.length)
      (hpublished : o.published = (generation p bs k).publish .ingress t)
      (hpending : o.pending = [(.egress, t')])
      (hnext : generation p bs (k + 1) = o.published.publish .egress t')
      (hwaiting : o.waiting = bs.drop (k + 1)) :
      Stage p bs o (k + 1) k

theorem Overlap.Stage.bounds
    (h : o.Stage p bs i j) :
    i ≤ bs.length ∧ j ≤ bs.length ∧ i ≤ j + 1 := by
  cases h with
  | idle hk | compiled hk | halfway hk => omega

/-- The published tables are those of their generations. -/
theorem Overlap.Stage.published
    (h : o.Stage p bs i j) :
    o.published.ingress = (generation p bs i).ingress ∧
      o.published.egress = (generation p bs j).egress := by
  cases h with
  | idle hk hpublished =>
      rw [hpublished]
      exact ⟨rfl, rfl⟩
  | compiled hk hpublished =>
      rw [hpublished]
      exact ⟨rfl, rfl⟩
  | halfway hk hpublished hpending hnext =>
      rw [hnext, hpublished]
      exact ⟨rfl, rfl⟩

theorem stage_compile
    (h : o.Stage p bs i j)
    (hturn : o.turn? .compile = some o') :
    o'.search = o.search ∧ ∃ i' j', i ≤ i' ∧ j ≤ j' ∧ o'.Stage p bs i' j' := by
  rw [Overlap.turn?] at hturn
  cases h with
  | idle hk hpublished hpending hwaiting =>
      rw [hpending] at hturn
      cases hdrop : bs.drop i with
      | nil =>
          rw [hwaiting, hdrop] at hturn
          cases hturn
      | cons b rest =>
          rw [hwaiting, hdrop] at hturn
          cases hturn
          have hb : bs[i]? = some b := by
            rw [← List.head?_drop, hdrop, List.head?_cons]
          have hrest : rest = bs.drop (i + 1) := by
            rw [← List.drop_drop, hdrop, List.drop_one, List.tail_cons]
          have hlt : i < bs.length := (List.getElem?_eq_some_iff.1 hb).1
          have hnext := generation_succ p hb
          rw [← hpublished] at hnext
          refine ⟨rfl, ?_⟩
          rcases tables_bootstrap o.published.moduleUrl b with htables | ⟨t, t', htables⟩
          · -- A rejected bootstrap is complete at once: both generations are the same.
            rw [htables] at hnext ⊢
            exact ⟨i + 1, i + 1, by omega, by omega, .idle hlt hnext.symm rfl hrest⟩
          · rw [htables] at hnext ⊢
            exact ⟨i, i, le_rfl, le_rfl, .compiled hlt hpublished rfl hnext hrest⟩
  | compiled hk hpublished hpending =>
      rw [hpending] at hturn
      cases hturn
  | halfway hk hpublished hpending =>
      rw [hpending] at hturn
      cases hturn

theorem stage_publish
    (h : o.Stage p bs i j)
    (hturn : o.turn? .publish = some o') :
    o'.search = o.search ∧ ∃ i' j', i ≤ i' ∧ j ≤ j' ∧ o'.Stage p bs i' j' := by
  rw [Overlap.turn?] at hturn
  cases h with
  | idle hk hpublished hpending =>
      rw [hpending] at hturn
      cases hturn
  | compiled hk hpublished hpending hnext hwaiting =>
      rw [hpending] at hturn
      cases hturn
      exact ⟨rfl, i + 1, i, by omega, le_rfl,
        .halfway hk (by rw [hpublished]) rfl hnext hwaiting⟩
  | halfway hk hpublished hpending hnext hwaiting =>
      rw [hpending] at hturn
      cases hturn
      exact ⟨rfl, j + 1, j + 1, le_rfl, by omega, .idle hk hnext.symm rfl hwaiting⟩

theorem stage_read
    (h : o.Stage p bs i j)
    (hturn : o.turn? .read = some o') :
    o'.Stage p bs i j ∧
      ∃ d next, o.search = .read d next ∧ o'.search = next (o.published.snapshot d).table := by
  rw [Overlap.turn?] at hturn
  split at hturn
  · next d next hsearch =>
      cases hturn
      refine ⟨?_, d, next, hsearch, rfl⟩
      cases h with
      | idle hk hpublished hpending hwaiting =>
          exact .idle hk hpublished hpending hwaiting
      | compiled hk hpublished hpending hnext hwaiting =>
          exact .compiled hk hpublished hpending hnext hwaiting
      | halfway hk hpublished hpending hnext hwaiting =>
          exact .halfway hk hpublished hpending hnext hwaiting
  · cases hturn

end Stages

section Between

variable {p : Published} {bs : List Bootstrap} {k k' : Nat}

/-- The moment at which so many bootstraps are complete and the next one has not begun. -/
def Overlap.between
    (p : Published) (bs : List Bootstrap) (k : Nat) (search : Search (Option Found)) :
    Overlap where
  published := generation p bs k
  waiting := bs.drop k
  search := search

theorem stage_between
    (hk : k ≤ bs.length)
    (search : Search (Option Found)) :
    (Overlap.between p bs k search).Stage p bs k k :=
  .idle hk rfl rfl rfl

theorem run?_append
    (o : Overlap) (front back : List Turn) :
    o.run? (front ++ back) = (o.run? front).bind (·.run? back) :=
  runOf?_append o front back

/--
The next bootstrap is complete at once if it is rejected.  Otherwise there is a
moment at which only its ingress table is published.
-/
theorem run?_bootstrap
    (hk : k < bs.length)
    (search : Search (Option Found)) :
    (generation p bs (k + 1) = generation p bs k ∧
      (Overlap.between p bs k search).run? [.compile] =
        some (Overlap.between p bs (k + 1) search)) ∨
    ∃ o, (Overlap.between p bs k search).run? [.compile, .publish] = some o ∧
      o.search = search ∧ o.Stage p bs (k + 1) k ∧
        o.run? [.publish] = some (Overlap.between p bs (k + 1) search) := by
  obtain ⟨b, hb⟩ : ∃ b, bs[k]? = some b := ⟨_, List.getElem?_eq_getElem hk⟩
  have hdrop : bs.drop k = b :: bs.drop (k + 1) := by
    rw [List.drop_eq_getElem?_toList_append, hb, Option.toList_some, List.singleton_append]
  have hnext := generation_succ p hb
  rcases tables_bootstrap (generation p bs k).moduleUrl b with htables | ⟨t, t', htables⟩
  · rw [htables] at hnext
    refine Or.inl ⟨hnext, ?_⟩
    simp [Overlap.run?, Overlap.turn?, Overlap.between, hdrop, htables, hnext, Published.publishAll]
  · rw [htables] at hnext
    refine Or.inr ⟨⟨(generation p bs k).publish .ingress t, bs.drop (k + 1), [(.egress, t')],
      search⟩, ?_, rfl, .halfway hk rfl rfl hnext rfl, ?_⟩
    · simp [Overlap.run?, Overlap.turn?, Overlap.between, hdrop, htables]
    · simp [Overlap.run?, Overlap.turn?, Overlap.between, hnext, Published.publishAll]

/-- Bootstraps may go on while a search is held up. -/
theorem exists_run?_between
    (hle : k ≤ k')
    (hk' : k' ≤ bs.length)
    (search : Search (Option Found)) :
    ∃ turns, (Overlap.between p bs k search).run? turns =
      some (Overlap.between p bs k' search) := by
  induction k', hle using Nat.le_induction with
  | base =>
      exact ⟨[], rfl⟩
  | succ k' hle ih =>
      obtain ⟨turns, hturns⟩ := ih (by omega)
      rcases run?_bootstrap hk' search with ⟨-, hnext⟩ | ⟨o, ho, -, -, hnext⟩
      · refine ⟨turns ++ [.compile], ?_⟩
        rw [run?_append, hturns, Option.bind_some, hnext]
      · refine ⟨turns ++ ([.compile, .publish] ++ [.publish]), ?_⟩
        rw [run?_append, hturns, Option.bind_some, run?_append, ho, Option.bind_some, hnext]

end Between

end Resolve
end SidecarProxy
