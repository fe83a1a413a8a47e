import SidecarProxy.Proofs.Retry.Requests
import SidecarProxy.Proofs.Route.PublishedRuns
import SidecarProxy.Refresh.Fetch

/-!
# Refreshing in turns

Events are taken one after the other, and for each of them a document is fetched
and applied before the next event is taken.  Main statement: each table is
compiled from the last document that was applied to it, documents are applied in
the order in which they were fetched, and a turn changes no other table than the
ones that its event names.
-/

namespace SidecarProxy
namespace Refresh

open Catalog Route

section Documents

/-- Whether the table of a direction is compiled for an event. -/
def Event.covers : Event → Direction → Bool
  | .moduleChanged, .ingress => true
  | .moduleChanged, .egress => false
  | .dependenciesChanged, .ingress => false
  | .dependenciesChanged, .egress => true
  | .full, _ => true

/-- A document that was fetched for an event. -/
structure Document where
  event : Event
  bootstrap : Bootstrap
  /-- The number of the request that it answers; requests are counted from zero. -/
  request : Nat

/-- The half of a document that is for a direction, compiled. -/
def Document.compiled
    (url : Option String) (doc : Document) :
    Direction → Except ConfigError Table
  | .ingress => Table.ofModule doc.bootstrap.module url
  | .egress => Table.ofModules doc.bootstrap.requiredModules

/-- Whether all halves of a document compile that its event names. -/
def Document.applies
    (url : Option String) (doc : Document) :
    Bool :=
  [Direction.ingress, .egress].all fun d => !doc.event.covers d || (doc.compiled url d).isOk

/-- Whether a document is applied to the table of a direction. -/
def Document.appliesTo
    (url : Option String) (d : Direction) (doc : Document) :
    Bool :=
  doc.event.covers d && doc.applies url

variable {url : Option String} {doc : Document} {d : Direction}

theorem applies_iff :
    doc.applies url = true
      ↔
    ∀ d, doc.event.covers d = true → (doc.compiled url d).isOk = true := by
  rw [Document.applies, List.all_eq_true]
  constructor
  · intro h d hcovers
    have hhalf := h d (by cases d <;> simp)
    simpa [hcovers] using hhalf
  · intro h d _
    cases hcovers : doc.event.covers d with
    | false =>
        rfl
    | true =>
        exact h d hcovers

theorem exists_compiled_of_appliesTo
    (h : doc.appliesTo url d = true) :
    ∃ t, doc.compiled url d = .ok t := by
  obtain ⟨hcovers, happlies⟩ := Bool.and_eq_true_iff.1 h
  have hok := applies_iff.1 happlies d hcovers
  cases hcompiled : doc.compiled url d with
  | error e =>
      rw [hcompiled] at hok
      cases hok
  | ok t =>
      exact ⟨t, rfl⟩

/-- A document is an update with the halves that its event names. -/
theorem compiled_update
    (url : Option String) (doc : Document) (d : Direction) :
    (doc.event.update doc.bootstrap).compiled url d =
      if doc.event.covers d then some (doc.compiled url d) else none := by
  obtain ⟨e, b, n⟩ := doc
  cases e <;> cases d <;> rfl

theorem accepted_update
    (url : Option String) (doc : Document) :
    (doc.event.update doc.bootstrap).accepted url = doc.applies url := by
  have hhalf (d : Direction) :
      ((doc.event.update doc.bootstrap).compiled url d).all Except.isOk =
        (!doc.event.covers d || (doc.compiled url d).isOk) := by
    rw [compiled_update]
    cases doc.event.covers d <;> rfl
  simp [Update.accepted, Document.applies, hhalf]

theorem table?_update
    (url : Option String) (d : Direction) (doc : Document) :
    (doc.event.update doc.bootstrap).table? url d =
      if doc.appliesTo url d then (doc.compiled url d).toOption else none := by
  rw [Update.table?, accepted_update, compiled_update, Document.appliesTo]
  cases doc.event.covers d <;> cases doc.applies url <;> rfl

/-- A document puts its table in place where it is applied, and leaves everything else as it was. -/
theorem update_snapshot
    {p : Published} {history : List Table}
    (hp : p.On history)
    (hurl : p.moduleUrl = url)
    (doc : Document) (d : Direction) :
    let next := (p.update (doc.event.update doc.bootstrap)).published.snapshot d
    if doc.appliesTo url d then
      doc.compiled url d = .ok next.table ∧ next ≠ p.snapshot d
    else
      next = p.snapshot d := by
  intro next
  subst hurl
  have hnext : next = (p.publishAll ((doc.event.update doc.bootstrap).tables p.moduleUrl)).snapshot
      d := by
    rw [← (update_spec p _).2]
  have hlast := lastFor_tables_update p.moduleUrl d (doc.event.update doc.bootstrap)
  rw [table?_update] at hlast
  split
  · next happlies =>
    obtain ⟨t, ht⟩ := exists_compiled_of_appliesTo happlies
    rw [if_pos happlies, ht, Except.toOption] at hlast
    constructor
    · rw [ht, hnext, publishAll_snapshot_table, hlast]
      rfl
    · have hnew := length_le_generation_publishAll hp (hlast ▸ Option.some_ne_none t)
      have hold := (hp.snapshot d).generation_lt
      rw [← hnext] at hnew
      intro hsame
      rw [hsame] at hnew
      omega
  · next happlies =>
    rw [if_neg happlies] at hlast
    rw [hnext, publishAll_snapshot_of_lastFor_eq_none hlast]

end Documents

section Turns

variable {σ : Type}

/-- Who fetches the documents: within which bounds, from whom and for which module. -/
structure Refresher (σ : Type) where
  policy : Retry.Policy
  ask : Source σ
  moduleId : String

/-- An event, with what its surroundings decide while a document is fetched for it. -/
structure Turn where
  event : Event
  surroundings : Retry.Surroundings

/-- The tables between two turns, and how far the source is. -/
structure Standing (σ : Type) where
  published : Published
  source : σ
  /-- The number of requests that were sent. -/
  sent : Nat := 0

namespace Refresher

variable (r : Refresher σ) (k : Standing σ) (t : Turn)

def attempts : Retry.Run σ ControlPlane.Failure Bootstrap :=
  Retry.run r.policy t.surroundings (r.ask r.moduleId) k.source

/-- What a turn leads to. -/
def fetched : Fetched σ :=
  fetch r.policy t.surroundings r.ask r.moduleId t.event k.published k.source

/-- The document that a turn brings. -/
def brought? : Option Document :=
  (r.attempts k t).ending.value?.map fun b =>
    { event := t.event, bootstrap := b, request := k.sent + ((r.attempts k t).calls - 1) }

def turn : Standing σ where
  published := (r.fetched k t).published
  source := (r.fetched k t).source
  sent := k.sent + (r.fetched k t).calls

/-- The tables after some turns. -/
def run (turns : List Turn) : Standing σ :=
  turns.foldl r.turn k

/-- The documents that some turns bring, in their order. -/
def documents : Standing σ → List Turn → List Document
  | _, [] => []
  | k, t :: rest => (r.brought? k t).toList ++ documents (r.turn k t) rest

end Refresher

variable {r : Refresher σ} {k : Standing σ} {t : Turn}

theorem run_snoc
    (r : Refresher σ) (k : Standing σ) (turns : List Turn) (t : Turn) :
    r.run k (turns ++ [t]) = r.turn (r.run k turns) t :=
  List.foldl_append

theorem documents_snoc
    (r : Refresher σ) (k : Standing σ) (turns : List Turn) (t : Turn) :
    r.documents k (turns ++ [t]) =
      r.documents k turns ++ (r.brought? (r.run k turns) t).toList := by
  induction turns generalizing k with
  | nil =>
      simp [Refresher.documents, Refresher.run]
  | cons first turns ih =>
      rw [List.cons_append, Refresher.documents, ih, Refresher.documents, List.append_assoc]
      rfl

theorem event_of_brought
    {doc : Document}
    (h : r.brought? k t = some doc) :
    doc.event = t.event := by
  obtain ⟨b, -, rfl⟩ := Option.map_eq_some_iff.1 h
  rfl

theorem fetched_source :
    (r.fetched k t).source = (r.attempts k t).state ∧
      (r.fetched k t).calls = (r.attempts k t).calls := by
  unfold Refresher.fetched fetch
  rw [← Refresher.attempts]
  dsimp only
  cases (r.attempts k t).ending <;> exact ⟨rfl, rfl⟩

/-- A turn that brings no document fails and changes nothing. -/
theorem fetched_of_brought_none
    (h : r.brought? k t = none) :
    (r.fetched k t).published = k.published ∧ (r.fetched k t).outcome.isOk = false := by
  rw [Refresher.brought?, Option.map_eq_none_iff] at h
  unfold Refresher.fetched fetch
  rw [← Refresher.attempts]
  dsimp only
  cases hending : (r.attempts k t).ending with
  | succeeded b =>
      rw [hending] at h
      cases h
  | exhausted failure =>
      exact ⟨rfl, rfl⟩
  | overflow =>
      exact ⟨rfl, rfl⟩

/-- A turn that brings a document makes an update of it. -/
theorem fetched_of_brought
    {doc : Document}
    (h : r.brought? k t = some doc) :
    (r.fetched k t).published = (k.published.update (doc.event.update doc.bootstrap)).published ∧
      (r.fetched k t).outcome.isOk = doc.applies k.published.moduleUrl := by
  obtain ⟨b, hvalue, rfl⟩ := Option.map_eq_some_iff.1 h
  rw [← accepted_update, ← (update_spec _ _).1]
  unfold Refresher.fetched fetch
  rw [← Refresher.attempts]
  dsimp only
  cases hending : (r.attempts k t).ending with
  | succeeded b' =>
      rw [hending] at hvalue
      cases hvalue
      refine ⟨rfl, ?_⟩
      dsimp only
      cases (k.published.update (t.event.update b)).outcome <;> rfl
  | exhausted failure =>
      rw [hending] at hvalue
      cases hvalue
  | overflow =>
      rw [hending] at hvalue
      cases hvalue

end Turns

section Answers

variable {σ : Type}
variable {r : Refresher σ} {k : Standing σ} {t : Turn}

/-- What whoever is asked answers to a request, counted from the start. -/
def Refresher.answerTo
    (r : Refresher σ) (start : Standing σ) (n : Nat) :
    Except ControlPlane.Failure Bootstrap :=
  Retry.answerTo (r.ask r.moduleId) start.source n

/-- The documents among the answers to so many requests, with the numbers of the requests. -/
def Refresher.answered
    (r : Refresher σ) (start : Standing σ) (sent : Nat) :
    List (Nat × Bootstrap) :=
  (List.range sent).filterMap fun n => (r.answerTo start n).toOption.map (n, ·)

theorem answered_add
    (r : Refresher σ) (start : Standing σ) (sent repeats : Nat)
    (hfailed : ∀ n < repeats, (r.answerTo start (sent + n)).isOk = false) :
    r.answered start (sent + (repeats + 1)) =
      r.answered start sent ++
        ((r.answerTo start (sent + repeats)).toOption.map (sent + repeats, ·)).toList := by
  have hnone : (List.map (sent + ·) (List.range repeats)).filterMap
      (fun n => (r.answerTo start n).toOption.map (n, ·)) = [] := by
    rw [List.filterMap_eq_nil_iff, List.forall_mem_map]
    intro n hn
    have hn := hfailed n (List.mem_range.1 hn)
    cases hanswer : r.answerTo start (sent + n) with
    | error e =>
        rfl
    | ok b =>
        rw [hanswer] at hn
        cases hn
  rw [Refresher.answered, ← Nat.add_assoc, List.range_succ, List.range_add, List.filterMap_append,
    List.filterMap_append, hnone, List.append_nil, List.filterMap_cons, List.filterMap_nil]
  cases (r.answerTo start (sent + repeats)).toOption <;> rfl

/-- The requests of a turn failed, except for the one that brought a document. -/
theorem turn_told
    (r : Refresher σ) (k : Standing σ) (t : Turn) :
    ∃ repeats, (r.turn k t).sent = k.sent + (repeats + 1) ∧
      (r.turn k t).source = Retry.behind (r.ask r.moduleId) k.source (repeats + 1) ∧
      (∀ n < repeats, (r.answerTo k n).isOk = false) ∧
      r.brought? k t =
        (r.answerTo k repeats).toOption.map fun b => ⟨t.event, b, k.sent + repeats⟩ := by
  obtain ⟨repeats, hcalls, htold⟩ := Retry.runFrom_told (r.ask r.moduleId) r.policy
    t.surroundings 1 [] k.source r.policy.maxAttempts
  change (r.attempts k t).calls = 1 + repeats at hcalls
  change (r.attempts k t).Told _ _ _ at htold
  rw [Nat.add_comm] at hcalls
  refine ⟨repeats, ?_, ?_, htold.failed, ?_⟩
  · rw [Refresher.turn, fetched_source.2, hcalls]
  · rw [Refresher.turn, fetched_source.1, htold.state]
  · rw [Refresher.brought?, htold.value, hcalls]
    rfl

/-- A refresher that has sent its requests to the source since a start. -/
def Standing.Since (k : Standing σ) (r : Refresher σ) (start : Standing σ) : Prop :=
  k.source = Retry.behind (r.ask r.moduleId) start.source k.sent

theorem Standing.Since.answerTo
    {start : Standing σ}
    (h : k.Since r start)
    (n : Nat) :
    r.answerTo k n = r.answerTo start (k.sent + n) := by
  rw [Refresher.answerTo, Refresher.answerTo, Retry.answerTo_add, h]

theorem Standing.Since.turn
    {start : Standing σ}
    (h : k.Since r start)
    (t : Turn) :
    (r.turn k t).Since r start := by
  obtain ⟨repeats, hsent, hsource, -⟩ := turn_told r k t
  rw [Standing.Since, hsent, hsource, h]
  exact (Retry.behind_add start.source k.sent (repeats + 1)).symm

theorem since_run
    (r : Refresher σ) (p : Published) (s : σ) (turns : List Turn) :
    (r.run { published := p, source := s } turns).Since r { published := p, source := s } := by
  induction turns using List.reverseRecOn with
  | nil =>
      rfl
  | append_singleton turns t ih =>
      rw [run_snoc]
      exact ih.turn t

/-- The documents are the good answers, in the order of the requests. -/
theorem documents_eq_answered
    (r : Refresher σ) (p : Published) (s : σ) (turns : List Turn) :
    let start : Standing σ := { published := p, source := s }
    (r.documents start turns).map (fun doc => (doc.request, doc.bootstrap)) =
      r.answered start (r.run start turns).sent := by
  intro start
  induction turns using List.reverseRecOn with
  | nil =>
      rfl
  | append_singleton turns t ih =>
      have hsince : (r.run start turns).Since r start := since_run r p s turns
      obtain ⟨repeats, hsent, -, hfailed, hbrought⟩ := turn_told r (r.run start turns) t
      simp only [hsince.answerTo] at hfailed hbrought
      rw [documents_snoc, run_snoc, hsent, answered_add _ _ _ _ hfailed, List.map_append, ih,
        hbrought]
      cases (r.answerTo start ((r.run start turns).sent + repeats)).toOption <;> rfl

theorem pairwise_documents
    (r : Refresher σ) (p : Published) (s : σ) (turns : List Turn) :
    (r.documents { published := p, source := s } turns).Pairwise (·.request < ·.request) := by
  have hanswered := documents_eq_answered r p s turns
  have hsorted : ((r.documents { published := p, source := s } turns).map
      (fun doc => (doc.request, doc.bootstrap))).Pairwise (·.1 < ·.1) := by
    rw [hanswered, Refresher.answered, List.pairwise_filterMap]
    refine List.pairwise_lt_range.imp ?_
    rintro m n hlt b hb b' hb'
    obtain ⟨-, -, rfl⟩ := Option.map_eq_some_iff.1 hb
    obtain ⟨-, -, rfl⟩ := Option.map_eq_some_iff.1 hb'
    exact hlt
  rwa [List.pairwise_map] at hsorted

end Answers

section Main

variable {σ : Type}
variable {r : Refresher σ} {k : Standing σ} {t : Turn} {history : List Table}

/-- Where the table of a direction comes from: the last document that was applied to it, or else
where it came from before. -/
def Compiles
    (url : Option String) (d : Direction) (docs : List Document) (before now : Snapshot) : Prop :=
  match (docs.filter (·.appliesTo url d)).getLast? with
  | some doc => doc.compiled url d = .ok now.table
  | none => now = before

theorem compiles_snoc_of_applied
    {url : Option String} {d : Direction} {docs : List Document} {doc : Document}
    {before now : Snapshot}
    (happlies : doc.appliesTo url d = true)
    (hcompiled : doc.compiled url d = .ok now.table) :
    Compiles url d (docs ++ [doc]) before now := by
  simp [Compiles, List.filter_append, happlies, hcompiled]

theorem compiles_snoc_of_not_applied
    {url : Option String} {d : Direction} {docs : List Document} {doc : Document}
    {before now : Snapshot}
    (happlies : doc.appliesTo url d = false)
    (h : Compiles url d docs before now) :
    Compiles url d (docs ++ [doc]) before now := by
  simpa [Compiles, List.filter_append, happlies] using h

/-- What the next turn does. -/
structure Refresher.Applies (r : Refresher σ) (k : Standing σ) (t : Turn) : Prop where
  replaced_iff :
    (r.fetched k t).replaced = true
      ↔
    ∃ doc, r.brought? k t = some doc ∧
      ∀ d, t.event.covers d = true → (doc.compiled k.published.moduleUrl d).isOk = true
  changed_iff :
    ∀ d, (r.fetched k t).published.snapshot d ≠ k.published.snapshot d
        ↔
      (r.fetched k t).replaced = true ∧ t.event.covers d = true
  /-- A turn tells whether it put a table in place of another. -/
  told_iff :
    (r.fetched k t).replaced = true
      ↔
    ∃ d, (r.fetched k t).published.snapshot d ≠ k.published.snapshot d
  kept :
    ∀ e, (r.fetched k t).outcome = .error e → (r.fetched k t).published = k.published

theorem replaced_of_brought
    {doc : Document}
    (h : r.brought? k t = some doc) :
    (r.fetched k t).replaced = doc.applies k.published.moduleUrl :=
  (fetched_of_brought h).2

theorem replaced_of_brought_none
    (h : r.brought? k t = none) :
    (r.fetched k t).replaced = false :=
  (fetched_of_brought_none h).2

theorem turn_on
    (h : k.published.On history)
    (r : Refresher σ) (t : Turn) :
    (r.turn k t).published.moduleUrl = k.published.moduleUrl ∧
      ∃ more, (r.turn k t).published.On (history ++ more) := by
  cases hbrought : r.brought? k t with
  | none =>
      have hsame := (fetched_of_brought_none hbrought).1
      rw [Refresher.turn, hsame]
      exact ⟨rfl, [], by rwa [List.append_nil]⟩
  | some doc =>
      have hupdate := (fetched_of_brought hbrought).1
      rw [Refresher.turn, hupdate, (update_spec _ _).2]
      exact ⟨publishAll_moduleUrl _ _, _, h.publishAll _⟩

theorem run_on
    (h : k.published.On history)
    (r : Refresher σ) (turns : List Turn) :
    (r.run k turns).published.moduleUrl = k.published.moduleUrl ∧
      ∃ more, (r.run k turns).published.On (history ++ more) := by
  induction turns using List.reverseRecOn with
  | nil =>
      exact ⟨rfl, [], by rwa [List.append_nil]⟩
  | append_singleton turns t ih =>
      obtain ⟨hurl, more, hmore⟩ := ih
      obtain ⟨hurl', more', hmore'⟩ := turn_on hmore r t
      rw [run_snoc]
      exact ⟨hurl'.trans hurl, more ++ more', by rwa [← List.append_assoc]⟩

theorem changed_iff
    (h : k.published.On history)
    (r : Refresher σ) (t : Turn) (d : Direction) :
    (r.fetched k t).published.snapshot d ≠ k.published.snapshot d
      ↔
    (r.fetched k t).replaced = true ∧ t.event.covers d = true := by
  cases hbrought : r.brought? k t with
  | none =>
      simp [replaced_of_brought_none hbrought, (fetched_of_brought_none hbrought).1]
  | some doc =>
      have hsnapshot := update_snapshot h rfl doc d
      rw [replaced_of_brought hbrought, (fetched_of_brought hbrought).1, ← event_of_brought hbrought,
        and_comm, ← Bool.and_eq_true_iff, ← Document.appliesTo]
      cases happlies : doc.appliesTo k.published.moduleUrl d with
      | true =>
          simp only [happlies, if_true] at hsnapshot
          simpa using hsnapshot.2
      | false =>
          simp only [happlies, Bool.false_eq_true, if_false] at hsnapshot
          simpa using hsnapshot

theorem exists_covers
    (e : Event) :
    ∃ d, e.covers d = true := by
  cases e with
  | moduleChanged => exact ⟨.ingress, rfl⟩
  | dependenciesChanged => exact ⟨.egress, rfl⟩
  | full => exact ⟨.ingress, rfl⟩

theorem applies_of_on
    (h : k.published.On history)
    (r : Refresher σ) (t : Turn) :
    r.Applies k t where
  replaced_iff := by
    cases hbrought : r.brought? k t with
    | none =>
        simp [replaced_of_brought_none hbrought]
    | some doc =>
        simp [replaced_of_brought hbrought, applies_iff, event_of_brought hbrought]
  changed_iff := changed_iff h r t
  told_iff := by
    simp only [changed_iff h r t, exists_and_left, exists_covers, and_true]
  kept e hfailed := by
    have hnot : (r.fetched k t).replaced = false := by
      rw [Fetched.replaced, hfailed]
      rfl
    cases hbrought : r.brought? k t with
    | none =>
        exact (fetched_of_brought_none hbrought).1
    | some doc =>
        rw [replaced_of_brought hbrought, ← accepted_update] at hnot
        rw [(fetched_of_brought hbrought).1]
        exact update_published_of_rejected hnot

theorem compiles_run
    (h : k.published.On history)
    (r : Refresher σ) (turns : List Turn) (d : Direction) :
    Compiles k.published.moduleUrl d (r.documents k turns) (k.published.snapshot d)
      ((r.run k turns).published.snapshot d) := by
  induction turns using List.reverseRecOn with
  | nil =>
      rfl
  | append_singleton turns t ih =>
      obtain ⟨hurl, more, hmore⟩ := run_on h r turns
      rw [run_snoc, documents_snoc, Refresher.turn]
      cases hbrought : r.brought? (r.run k turns) t with
      | none =>
          rw [(fetched_of_brought_none hbrought).1, Option.toList_none, List.append_nil]
          exact ih
      | some doc =>
          have hsnapshot := update_snapshot hmore hurl doc d
          rw [(fetched_of_brought hbrought).1]
          cases happlies : doc.appliesTo k.published.moduleUrl d with
          | true =>
              simp only [happlies, if_true] at hsnapshot
              exact compiles_snoc_of_applied happlies hsnapshot.1
          | false =>
              simp only [happlies, Bool.false_eq_true, if_false] at hsnapshot
              rw [hsnapshot]
              exact compiles_snoc_of_not_applied happlies ih

/-- What a refresher keeps to behind any turns. -/
structure Refresher.KeepsUp (r : Refresher σ) (start : Standing σ) (turns : List Turn) :
    Prop where
  url : (r.run start turns).published.moduleUrl = start.published.moduleUrl
  compiles :
    ∀ d, Compiles start.published.moduleUrl d (r.documents start turns)
      (start.published.snapshot d) ((r.run start turns).published.snapshot d)
  /-- The documents are the good answers to the requests, none of which is left out. -/
  answers :
    (r.documents start turns).map (fun doc => (doc.request, doc.bootstrap)) =
      r.answered start (r.run start turns).sent
  /-- A document of a later turn was fetched later. -/
  ordered : (r.documents start turns).Pairwise (·.request < ·.request)
  next : ∀ t, r.Applies (r.run start turns) t
  brought :
    ∀ t doc, r.brought? (r.run start turns) t = some doc →
      doc.event = t.event ∧ ∀ earlier ∈ r.documents start turns, earlier.request < doc.request

theorem keepsUp_of_on
    {p : Published}
    (h : p.On history)
    (r : Refresher σ) (s : σ) (turns : List Turn) :
    r.KeepsUp { published := p, source := s } turns where
  url := (run_on h r turns).1
  compiles := compiles_run h r turns
  answers := documents_eq_answered r p s turns
  ordered := pairwise_documents r p s turns
  next t := by
    have hrun := run_on (k := { published := p, source := s }) h r turns
    obtain ⟨more, hmore⟩ := hrun.2
    exact applies_of_on hmore r t
  brought t doc hdoc := by
    have hordered := pairwise_documents r p s (turns ++ [t])
    rw [documents_snoc, hdoc, List.pairwise_append] at hordered
    exact ⟨event_of_brought hdoc, fun earlier hearlier =>
      hordered.2.2 earlier hearlier doc List.mem_cons_self⟩

end Main

end Refresh
end SidecarProxy
