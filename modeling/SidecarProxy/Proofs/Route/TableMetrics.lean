import SidecarProxy.Proofs.Metrics.Readings
import SidecarProxy.Proofs.Route.PublishedRuns
import SidecarProxy.Proofs.Route.Reference

/-!
# What updates of the published tables measure

An update measures each table that it publishes and each document that is
rejected, for the direction that it is for.  Main statement: behind any updates
the counters of a direction tell how many of them were accepted and how many
were rejected for it, and its gauge tells how many entries the buckets of its
published table hold.
-/

namespace SidecarProxy
namespace Route

open Catalog

section Sizes

theorem size_file
    {t : Table}
    (h : t.size = t.buckets.total)
    (x : String × Entry) :
    (t.file x).size = (t.file x).buckets.total := by
  unfold Table.file
  split
  · exact h
  · rw [Buckets.total_push, h]

theorem size_foldl_file
    {t : Table}
    (h : t.size = t.buckets.total)
    (xs : List (String × Entry)) :
    (xs.foldl Table.file t).size = (xs.foldl Table.file t).buckets.total := by
  induction xs generalizing t with
  | nil =>
      exact h
  | cons x xs ih =>
      exact ih (size_file h x)

/-- A compiled table counts the entries of all its buckets. -/
theorem size_of_compiled
    {url : Option String} {u : Update} {d : Direction} {t : Table}
    (h : u.compiled url d = some (.ok t)) :
    t.size = t.buckets.total := by
  have hmodule : ∀ {m : ModuleDescription} {location : Option String},
      Table.ofModule m location = .ok t → t.size = t.buckets.total := by
    intro m location hm
    obtain ⟨keyed, -, rfl⟩ := addModule_eq_ok hm
    exact size_foldl_file rfl keyed
  have hmodules : ∀ {ms : List ModuleDescription},
      Table.ofModules ms = .ok t → t.size = t.buckets.total := by
    intro ms hms
    obtain ⟨keyed, -, rfl⟩ := addModules_eq_ok hms
    exact size_foldl_file rfl keyed
  cases u with
  | bootstrap b =>
      cases d with
      | ingress => exact hmodule (Option.some.inj h)
      | egress => exact hmodules (Option.some.inj h)
  | ingress m =>
      cases d with
      | ingress => exact hmodule (Option.some.inj h)
      | egress => cases h
  | egress ms =>
      cases d with
      | ingress => cases h
      | egress => exact hmodules (Option.some.inj h)

end Sizes

section Measured

/-- Whether an update has documents for a direction. -/
def Update.touches : Update → Direction → Bool
  | .bootstrap _, _ => true
  | .ingress _, d => d == .ingress
  | .egress _, d => d == .egress

/--
Whether the table of a direction is compiled and fails.  A bootstrap whose
ingress table fails is not compiled for egress at all.
-/
def Update.failsFor
    (url : Option String) (u : Update) :
    Direction → Bool
  | .ingress => (u.compiled url .ingress).any (!Except.isOk ·)
  | .egress =>
    (u.compiled url .ingress).all Except.isOk && (u.compiled url .egress).any (!Except.isOk ·)

/-- What an update measures: each table that it publishes, and the document that is rejected. -/
def Update.measured
    (url : Option String) (u : Update) :
    List Metrics.Event :=
  (u.tables url).flatMap (fun x => Metrics.tablePublished x.1 x.2.size) ++
    ((bif u.failsFor url .ingress then Metrics.tableRejected .ingress else []) ++
      bif u.failsFor url .egress then Metrics.tableRejected .egress else [])

theorem update_events
    (p : Published) (u : Update) :
    (p.update u).events = u.measured p.moduleUrl := by
  unfold Published.update Update.measured Update.tables Update.table? Update.accepted
  simp only [Update.failsFor]
  cases u with
  | bootstrap b =>
      simp only [Update.compiled, Published.compileIngress, Published.compileEgress]
      cases Table.ofModule b.module p.moduleUrl with
      | error e =>
          rfl
      | ok ingress =>
          cases Table.ofModules b.requiredModules <;> rfl
  | ingress m =>
      simp only [Update.compiled, Published.compileIngress]
      cases Table.ofModule m p.moduleUrl <;> rfl
  | egress ms =>
      simp only [Update.compiled, Published.compileEgress]
      cases Table.ofModules ms <;> rfl

/-- An accepted update has a table exactly for the directions that it touches. -/
theorem isSome_table?
    (url : Option String) (d : Direction) (u : Update) :
    (u.table? url d).isSome = (u.touches d && u.accepted url) := by
  unfold Update.table? Update.accepted
  cases u with
  | bootstrap b =>
      cases d <;> simp only [Update.compiled, Update.touches] <;>
        cases Table.ofModule b.module url <;> cases Table.ofModules b.requiredModules <;> rfl
  | ingress m =>
      cases d <;> simp only [Update.compiled] <;> cases Table.ofModule m url <;> rfl
  | egress ms =>
      cases d <;> simp only [Update.compiled] <;> cases Table.ofModules ms <;> rfl

theorem mem_measured
    {url : Option String} {u : Update} {e : Metrics.Event}
    (he : e ∈ u.measured url) :
    (∃ d n, e = .set (.tableEntries d) n) ∨ ∃ d published, e = .count (.rebuilds d published) := by
  have hrejected : ∀ (failed : Bool) (d : Direction),
      e ∈ (bif failed then Metrics.tableRejected d else []) → e = .count (.rebuilds d false) := by
    intro failed d hmem
    cases failed with
    | false =>
        cases hmem
    | true =>
        exact List.mem_singleton.1 hmem
  rcases List.mem_append.1 he with hpublished | hfailed
  · obtain ⟨x, -, hx⟩ := List.mem_flatMap.1 hpublished
    simp only [Metrics.tablePublished, List.mem_cons, List.not_mem_nil, or_false] at hx
    rcases hx with rfl | rfl
    · exact Or.inl ⟨_, _, rfl⟩
    · exact Or.inr ⟨_, _, rfl⟩
  · rcases List.mem_append.1 hfailed with hfailed | hfailed
    · exact Or.inr ⟨_, _, hrejected _ _ hfailed⟩
    · exact Or.inr ⟨_, _, hrejected _ _ hfailed⟩

end Measured

section Counted

variable (url : Option String) (u : Update) (d : Direction)

theorem count_published
    (tables : List (Direction × Table)) :
    (tables.flatMap fun x => Metrics.tablePublished x.1 x.2.size).count
      (.count (.rebuilds d true)) = ((tables.filter (·.1 == d)).map (·.2)).length := by
  induction tables with
  | nil =>
      rfl
  | cons x tables ih =>
      rw [List.flatMap_cons, List.count_append, ih]
      by_cases hd : x.1 = d <;> simp [Metrics.tablePublished, hd, Nat.add_comm]

theorem setTo?_published
    (tables : List (Direction × Table)) :
    (tables.flatMap fun x => Metrics.tablePublished x.1 x.2.size).filterMap
      (Metrics.Event.setTo? (.tableEntries d)) =
        ((tables.filter (·.1 == d)).map (·.2)).map (·.size) := by
  induction tables with
  | nil =>
      rfl
  | cons x tables ih =>
      rw [List.flatMap_cons, List.filterMap_append, ih]
      by_cases hd : x.1 = d <;> simp [Metrics.tablePublished, Metrics.Event.setTo?, hd]

theorem count_rejected
    (failed : Bool) (d other : Direction) :
    (bif failed then Metrics.tableRejected other else []).count (.count (.rebuilds d false)) =
      (failed && other == d).toNat := by
  cases failed <;> cases other <;> cases d <;> rfl

/-- An update counts one published table for a direction that it has one for. -/
theorem count_measured_published :
    (u.measured url).count (.count (.rebuilds d true)) = (u.table? url d).isSome.toNat := by
  have hrejected : ∀ (failed : Bool) (other : Direction),
      (bif failed then Metrics.tableRejected other else []).count
        (.count (.rebuilds d true)) = 0 := by
    intro failed other
    cases failed <;> simp [Metrics.tableRejected]
  rw [Update.measured, List.count_append, List.count_append, hrejected, hrejected, count_published,
    tables_for]
  cases u.table? url d <;> rfl

/-- An update counts one rejected table for a direction that its document fails for. -/
theorem count_measured_rejected :
    (u.measured url).count (.count (.rebuilds d false)) = (u.failsFor url d).toNat := by
  have hpublished : ∀ tables : List (Direction × Table),
      (tables.flatMap fun x => Metrics.tablePublished x.1 x.2.size).count
        (.count (.rebuilds d false)) = 0 := by
    intro tables
    rw [List.count_eq_zero]
    simp [Metrics.tablePublished]
  rw [Update.measured, List.count_append, List.count_append, hpublished, count_rejected,
    count_rejected]
  cases d <;> simp

/-- An update sets a gauge to the size of the table that it has for its direction. -/
theorem setTo?_measured :
    (u.measured url).filterMap (Metrics.Event.setTo? (.tableEntries d)) =
      ((u.table? url d).map (·.size)).toList := by
  have hrejected : ∀ (failed : Bool) (other : Direction),
      (bif failed then Metrics.tableRejected other else []).filterMap
        (Metrics.Event.setTo? (.tableEntries d)) = [] := by
    intro failed other
    cases failed <;> rfl
  rw [Update.measured, List.filterMap_append, List.filterMap_append, hrejected, hrejected,
    setTo?_published, tables_for]
  cases u.table? url d <;> rfl

end Counted

section Runs

/-- Updates one after another, each with what became of it. -/
def Published.results
    (p : Published) :
    List Update → List (Update × UpdateResult)
  | [] => []
  | u :: us => (u, p.update u) :: (p.update u).published.results us

/-- The measurements of updates one after another. -/
def Published.measurements
    (p : Published) (us : List Update) :
    List Metrics.Event :=
  (p.results us).flatMap (·.2.events)

/-- Whether an update was accepted and has a document for a direction. -/
def UpdateResult.changed
    (d : Direction) (x : Update × UpdateResult) :
    Bool :=
  x.1.touches d && x.2.outcome.isOk

variable {p : Published} {url : Option String} (us : List Update) (d : Direction)

theorem update_moduleUrl
    (p : Published) (u : Update) :
    (p.update u).published.moduleUrl = p.moduleUrl := by
  rw [(update_spec p u).2, publishAll_moduleUrl]

theorem measurements_eq
    (h : p.moduleUrl = url) :
    p.measurements us = us.flatMap (Update.measured url) := by
  induction us generalizing p with
  | nil =>
      rfl
  | cons u us ih =>
      have hrest := ih ((update_moduleUrl p u).trans h)
      simp only [Published.measurements, Published.results, List.flatMap_cons] at hrest ⊢
      rw [hrest, update_events, h]

theorem changed_results
    (h : p.moduleUrl = url) :
    (p.results us).map (UpdateResult.changed d) = us.map fun u => (u.table? url d).isSome := by
  induction us generalizing p with
  | nil =>
      rfl
  | cons u us ih =>
      have houtcome := (update_spec p u).1
      rw [Published.results, List.map_cons, List.map_cons, ih ((update_moduleUrl p u).trans h),
        UpdateResult.changed, houtcome, h, isSome_table?]

/-- What updates have counted, when each counts one or nothing for a series. -/
theorem count_flatMap_measured
    {e : Metrics.Event} {counts : Update → Bool}
    (h : ∀ u : Update, (u.measured url).count e = (counts u).toNat) :
    (us.flatMap (Update.measured url)).count e = us.countP counts := by
  induction us with
  | nil =>
      rfl
  | cons u us ih =>
      rw [List.flatMap_cons, List.count_append, ih, h, List.countP_cons]
      cases counts u <;> simp [Nat.add_comm]

theorem setTo?_flatMap_measured :
    (us.flatMap (Update.measured url)).filterMap (Metrics.Event.setTo? (.tableEntries d)) =
      (us.filterMap (Update.table? url d)).map (·.size) := by
  induction us with
  | nil =>
      rfl
  | cons u us ih =>
      rw [List.flatMap_cons, List.filterMap_append, ih, setTo?_measured, List.filterMap_cons]
      cases u.table? url d <;> rfl

/-- Counters of tables are only counted, and gauges are only set. -/
theorem measured_kinds
    (url : Option String) (us : List Update) (d : Direction) :
    (∀ published n, Metrics.Event.set (.rebuilds d published) n ∉
      us.flatMap (Update.measured url)) ∧
    Metrics.Event.count (.tableEntries d) ∉ us.flatMap (Update.measured url) := by
  constructor
  · intro published n hset
    obtain ⟨u, -, hu⟩ := List.mem_flatMap.1 hset
    rcases mem_measured hu with ⟨other, m, hm⟩ | ⟨other, result, hresult⟩
    · cases hm
    · cases hresult
  · intro hcount
    obtain ⟨u, -, hu⟩ := List.mem_flatMap.1 hcount
    rcases mem_measured hu with ⟨other, m, hm⟩ | ⟨other, result, hresult⟩
    · cases hm
    · cases hresult

/-- The published table of a direction is the last one that an update had for it. -/
theorem snapshot_of_updates
    (url : Option String) (us : List Update) (d : Direction) :
    (((Session.fresh url).run (us.map .update)).published.snapshot d).table =
      (us.filterMap (Update.table? url d)).getLast?.getD Table.empty := by
  have htables : (us.map Call.update).filterMap (Call.table? url d) =
      us.filterMap (Update.table? url d) := by
    rw [List.filterMap_map]
    rfl
  rw [run_published, publishAll_snapshot_table]
  change (lastFor d ((us.map Call.update).flatMap (·.tables url))).getD _ = _
  rw [lastFor_tables, htables]
  cases d <;> rfl

/-- The gauge of a direction shows the size of the last table that an update had for it. -/
theorem value?_tableEntries
    (url : Option String) (us : List Update) (d : Direction) :
    Metrics.value? (.tableEntries d) (us.flatMap (Update.measured url)) =
      (us.filterMap (Update.table? url d)).getLast?.map (·.buckets.total) := by
  rw [Metrics.value?_of_never_counted (measured_kinds url us d).2, setTo?_flatMap_measured,
    List.getLast?_map]
  cases hlast : (us.filterMap (Update.table? url d)).getLast? with
  | none =>
      rfl
  | some t =>
      obtain ⟨u, -, ht⟩ := List.mem_filterMap.1 (List.mem_of_getLast? hlast)
      rw [Option.map_some, Option.map_some, size_of_compiled (compiled_of_table? ht)]

theorem any_isSome_table?
    (url : Option String) (us : List Update) (d : Direction) :
    us.any (fun u => (u.table? url d).isSome) =
      (us.filterMap (Update.table? url d)).getLast?.isSome := by
  rw [Bool.eq_iff_iff, List.any_eq_true, List.getLast?_isSome, ne_eq,
    List.filterMap_eq_nil_iff]
  simp [Option.isSome_iff_ne_none]

/--
Behind any updates the counters of a direction tell how many of them were
accepted with a document for it, and for how many a document for it was compiled
and failed.  The gauge of the direction, which is set from the first accepted one
on, tells how many entries all buckets of its published table hold.
-/
theorem readings_of_updates
    (url : Option String) (us : List Update) (d : Direction) :
    let fresh := (Session.fresh url).published
    let events := fresh.measurements us
    let published := ((Session.fresh url).run (us.map .update)).published
    Metrics.reading (.rebuilds d true) events =
      (fresh.results us).countP (UpdateResult.changed d) ∧
    Metrics.reading (.rebuilds d false) events = us.countP (·.failsFor url d) ∧
    (Metrics.value? (.tableEntries d) events =
      if (fresh.results us).any (UpdateResult.changed d) then
        some (published.snapshot d).table.buckets.total
      else
        none) ∧
    Metrics.reading (.tableEntries d) events = (published.snapshot d).table.buckets.total := by
  intro fresh events published
  have hevents : events = us.flatMap (Update.measured url) := measurements_eq us rfl
  have hchanged : (fresh.results us).map (UpdateResult.changed d) =
      us.map fun u => (u.table? url d).isSome :=
    changed_results us d rfl
  refine ⟨?_, ?_, ?_⟩
  · have hcount := congrArg (List.countP id) hchanged
    rw [List.countP_map, List.countP_map] at hcount
    rw [hevents, Metrics.reading_of_never_set ((measured_kinds url us d).1 true),
      count_flatMap_measured us (count_measured_published url · d)]
    exact hcount.symm
  · rw [hevents, Metrics.reading_of_never_set ((measured_kinds url us d).1 false),
      count_flatMap_measured us (count_measured_rejected url · d)]
  · have hany := congrArg (List.any · id) hchanged
    simp only [List.any_map, Function.id_comp] at hany
    rw [Metrics.reading, hevents, value?_tableEntries, hany, any_isSome_table?,
      snapshot_of_updates]
    cases (us.filterMap (Update.table? url d)).getLast? <;> exact ⟨rfl, rfl⟩

end Runs

end Route
end SidecarProxy
