import SidecarProxy.Proofs.Route.Orderly
import SidecarProxy.Route.Published

/-!
# Runs of the published tables

The published tables are exchanged call by call, and in between readers take
snapshots that they keep.  Every call comes down to the tables that it publishes,
in order; what a run does is said once for a list of publications, and the
history of all of them is what snapshots are compared with.

Main statement: behind any calls the table of a direction is compiled from the
last accepted document, rejected calls change nothing, and what a reader holds
stays as it was taken.
-/

namespace SidecarProxy
namespace Route

open Catalog

section Compiled

/-- What the document of an update compiles to in a direction, if it has one for it. -/
def Update.compiled
    (url : Option String) :
    Update → Direction → Option (Except ConfigError Table)
  | .bootstrap b, .ingress => some (Table.ofModule b.module url)
  | .bootstrap b, .egress => some (Table.ofModules b.requiredModules)
  | .ingress d, .ingress => some (Table.ofModule d url)
  | .egress ds, .egress => some (Table.ofModules ds)
  | .ingress _, .egress => none
  | .egress _, .ingress => none

def Update.accepted
    (url : Option String) (u : Update) :
    Bool :=
  (u.compiled url .ingress).all Except.isOk && (u.compiled url .egress).all Except.isOk

/-- The table that an accepted update has for a direction. -/
def Update.table?
    (url : Option String) (d : Direction) (u : Update) :
    Option Table :=
  bif u.accepted url then (u.compiled url d).bind Except.toOption else none

theorem compiled_of_table?
    {url : Option String} {d : Direction} {u : Update} {t : Table}
    (h : u.table? url d = some t) :
    u.compiled url d = some (.ok t) := by
  unfold Update.table? at h
  cases haccepted : u.accepted url with
  | false =>
      rw [haccepted] at h
      cases h
  | true =>
      rw [haccepted, cond_true] at h
      obtain ⟨result, hresult, ht⟩ := Option.bind_eq_some_iff.1 h
      cases result with
      | error e =>
          cases ht
      | ok t' =>
          cases ht
          exact hresult

def Update.tables
    (url : Option String) (u : Update) :
    List (Direction × Table) :=
  ((u.table? url .ingress).map (Direction.ingress, ·)).toList ++
    ((u.table? url .egress).map (Direction.egress, ·)).toList

theorem tables_for
    (url : Option String) (d : Direction) (u : Update) :
    ((u.tables url).filter (·.1 == d)).map (·.2) = (u.table? url d).toList := by
  unfold Update.tables
  cases hingress : u.table? url .ingress <;> cases hegress : u.table? url .egress <;>
    cases d <;> simp [hingress, hegress]

theorem table?_bootstrap_ne_none
    {url : Option String} {b : Bootstrap}
    (h : (Update.bootstrap b).accepted url = true)
    (d : Direction) :
    (Update.bootstrap b).table? url d ≠ none := by
  rw [Update.table?, h, cond_true]
  simp only [Update.accepted, Update.compiled, Option.all_some, Bool.and_eq_true] at h
  cases d with
  | ingress =>
      cases hmodule : Table.ofModule b.module url with
      | error e =>
          rw [hmodule] at h
          cases h.1
      | ok t =>
          simp [Update.compiled, hmodule, Except.toOption]
  | egress =>
      cases hmodules : Table.ofModules b.requiredModules with
      | error e =>
          rw [hmodules] at h
          cases h.2
      | ok t =>
          simp [Update.compiled, hmodules, Except.toOption]

def Published.publishAll
    (p : Published) (tables : List (Direction × Table)) :
    Published :=
  tables.foldl (fun p x => p.publish x.1 x.2) p

/-- An accepted update publishes its tables, and a rejected one leaves everything in place. -/
theorem update_spec
    (p : Published) (u : Update) :
    (p.update u).outcome.isOk = u.accepted p.moduleUrl ∧
      (p.update u).published = p.publishAll (u.tables p.moduleUrl) := by
  unfold Published.update Update.tables Update.table? Update.accepted
  cases u with
  | bootstrap b =>
      simp only [Update.compiled, Published.compileIngress, Published.compileEgress]
      cases Table.ofModule b.module p.moduleUrl with
      | error e =>
          exact ⟨rfl, rfl⟩
      | ok ingress =>
          cases Table.ofModules b.requiredModules <;> exact ⟨rfl, rfl⟩
  | ingress d =>
      simp only [Update.compiled, Published.compileIngress]
      cases Table.ofModule d p.moduleUrl <;> exact ⟨rfl, rfl⟩
  | egress ds =>
      simp only [Update.compiled, Published.compileEgress]
      cases Table.ofModules ds <;> exact ⟨rfl, rfl⟩

end Compiled

section Publications

def lastFor
    (d : Direction) (tables : List (Direction × Table)) :
    Option Table :=
  ((tables.filter (·.1 == d)).map (·.2)).getLast?

theorem lastFor_cons
    (d : Direction) (x : Direction × Table) (tables : List (Direction × Table)) :
    lastFor d (x :: tables) =
      (lastFor d tables).or (if x.1 = d then some x.2 else none) := by
  by_cases hd : x.1 = d
  · cases hlast : ((tables.filter (·.1 == d)).map (·.2)).getLast? <;>
      simp [lastFor, hd, List.getLast?_cons, hlast]
  · simp [lastFor, hd]

theorem publishAll_cons
    (p : Published) (x : Direction × Table) (tables : List (Direction × Table)) :
    p.publishAll (x :: tables) = (p.publish x.1 x.2).publishAll tables := by
  rfl

theorem publishAll_append
    (p : Published) (first rest : List (Direction × Table)) :
    p.publishAll (first ++ rest) = (p.publishAll first).publishAll rest :=
  List.foldl_append

theorem lastFor_tables_update
    (url : Option String) (d : Direction) (u : Update) :
    lastFor d (u.tables url) = u.table? url d := by
  rw [lastFor, tables_for]
  cases u.table? url d <;> rfl

theorem update_published_of_rejected
    {p : Published} {u : Update}
    (h : u.accepted p.moduleUrl = false) :
    (p.update u).published = p := by
  rw [(update_spec p u).2]
  simp [Update.tables, Update.table?, h, Published.publishAll]

theorem publish_moduleUrl
    (p : Published) (d : Direction) (t : Table) :
    (p.publish d t).moduleUrl = p.moduleUrl := by
  cases d <;> rfl

theorem publish_nextGeneration
    (p : Published) (d : Direction) (t : Table) :
    (p.publish d t).nextGeneration = p.nextGeneration + 1 := by
  cases d <;> rfl

theorem publish_snapshot
    (p : Published) (d other : Direction) (t : Table) :
    (p.publish d t).snapshot other =
      if d = other then ⟨p.nextGeneration, t⟩ else p.snapshot other := by
  cases d <;> cases other <;> rfl

theorem publishAll_moduleUrl
    (p : Published) (tables : List (Direction × Table)) :
    (p.publishAll tables).moduleUrl = p.moduleUrl := by
  induction tables generalizing p with
  | nil =>
      rfl
  | cons x tables ih =>
      rw [publishAll_cons, ih, publish_moduleUrl]

/-- The last published table of a direction is in place, or else the one that was. -/
theorem publishAll_snapshot_table
    (p : Published) (tables : List (Direction × Table)) (d : Direction) :
    ((p.publishAll tables).snapshot d).table =
      (lastFor d tables).getD (p.snapshot d).table := by
  induction tables generalizing p with
  | nil =>
      rfl
  | cons x tables ih =>
      rw [publishAll_cons, ih, publish_snapshot, lastFor_cons]
      cases lastFor d tables <;> by_cases hd : x.1 = d <;> simp [hd]

theorem publishAll_snapshot_of_lastFor_eq_none
    {d : Direction} {tables : List (Direction × Table)}
    (h : lastFor d tables = none)
    (p : Published) :
    (p.publishAll tables).snapshot d = p.snapshot d := by
  induction tables generalizing p with
  | nil =>
      rfl
  | cons x tables ih =>
      rw [lastFor_cons, Option.or_eq_none_iff] at h
      have hx : x.1 ≠ d := by
        simpa using h.2
      rw [publishAll_cons, ih h.1, publish_snapshot, if_neg hx]

end Publications

section History

/-- A snapshot is one of the published tables, and its generation says which one. -/
def Snapshot.In
    (x : Snapshot) (history : List Table) :
    Prop :=
  history[x.generation]? = some x.table

theorem Snapshot.In.append
    {x : Snapshot} {history : List Table}
    (h : x.In history)
    (more : List Table) :
    x.In (history ++ more) := by
  obtain ⟨hlt, -⟩ := List.getElem?_eq_some_iff.1 h
  rw [Snapshot.In, List.getElem?_append_left hlt]
  exact h

theorem Snapshot.In.generation_lt
    {x : Snapshot} {history : List Table}
    (h : x.In history) :
    x.generation < history.length :=
  (List.getElem?_eq_some_iff.1 h).1

theorem Snapshot.In.eq
    {x y : Snapshot} {history : List Table}
    (hx : x.In history)
    (hy : y.In history)
    (h : x.generation = y.generation) :
    x = y := by
  obtain ⟨generation, table⟩ := x
  obtain ⟨generation', table'⟩ := y
  cases h
  cases hx.symm.trans hy
  rfl

/-- The published tables are in the history, and the next one goes to its end. -/
structure Published.On (p : Published) (history : List Table) : Prop where
  next : p.nextGeneration = history.length
  snapshot : ∀ d, (p.snapshot d).In history

theorem Published.On.publish
    {p : Published} {history : List Table}
    (h : p.On history)
    (d : Direction) (t : Table) :
    (p.publish d t).On (history ++ [t]) where
  next := by
    rw [publish_nextGeneration, h.next, List.length_append, List.length_singleton]
  snapshot := by
    intro other
    rw [publish_snapshot]
    split
    · simp [Snapshot.In, h.next]
    · exact (h.snapshot other).append [t]

theorem Published.On.publishAll
    {p : Published} {history : List Table}
    (h : p.On history)
    (tables : List (Direction × Table)) :
    (p.publishAll tables).On (history ++ tables.map (·.2)) := by
  induction tables generalizing p history with
  | nil =>
      rwa [List.map_nil, List.append_nil]
  | cons x tables ih =>
      have hrest := ih (h.publish x.1 x.2)
      rwa [List.append_assoc] at hrest

/-- A direction with a new table gets a snapshot that no one has seen before. -/
theorem length_le_generation_publishAll
    {p : Published} {history : List Table}
    (h : p.On history)
    {d : Direction} {tables : List (Direction × Table)}
    (hlast : lastFor d tables ≠ none) :
    history.length ≤ ((p.publishAll tables).snapshot d).generation := by
  induction tables generalizing p history with
  | nil =>
      exact absurd rfl hlast
  | cons x tables ih =>
      rw [publishAll_cons]
      have hstep := h.publish x.1 x.2
      by_cases hrest : lastFor d tables = none
      · have hx : x.1 = d := by
          by_contra hne
          exact hlast (by rw [lastFor_cons, hrest, if_neg hne, Option.none_or])
        rw [publishAll_snapshot_of_lastFor_eq_none hrest, publish_snapshot, if_pos hx, h.next]
      · have hle := ih hstep hrest
        rw [List.length_append] at hle
        omega

end History

section Sessions

/-- A call: new documents arrive, or a reader takes a snapshot. -/
inductive Call where
  | update (u : Update)
  | hold (d : Direction)

structure Session where
  published : Published
  held : List Snapshot

def Session.fresh
    (url : Option String) :
    Session where
  published := { moduleUrl := url }
  held := []

def Session.step
    (s : Session) : Call → Session
  | .update u => { s with published := (s.published.update u).published }
  | .hold d => { s with held := s.held ++ [s.published.snapshot d] }

def Session.run
    (s : Session) (calls : List Call) :
    Session :=
  calls.foldl Session.step s

/-- What a reader may work with: what is held or published. -/
def Session.Seen
    (s : Session) (x : Snapshot) :
    Prop :=
  x ∈ s.held ∨ ∃ d, x = s.published.snapshot d

def Call.tables
    (url : Option String) :
    Call → List (Direction × Table)
  | .update u => u.tables url
  | .hold _ => []

def Call.table?
    (url : Option String) (d : Direction) :
    Call → Option Table
  | .update u => u.table? url d
  | .hold _ => none

theorem run_published
    (s : Session) (calls : List Call) :
    (s.run calls).published =
      s.published.publishAll (calls.flatMap (·.tables s.published.moduleUrl)) := by
  induction calls generalizing s with
  | nil =>
      rfl
  | cons c calls ih =>
      have hstep : (s.step c).published =
          s.published.publishAll (c.tables s.published.moduleUrl) := by
        cases c with
        | update u =>
            exact (update_spec s.published u).2
        | hold d =>
            rfl
      rw [Session.run, List.foldl_cons, ← Session.run, ih, hstep, publishAll_moduleUrl,
        List.flatMap_cons, publishAll_append]

theorem held_prefix_run
    (s : Session) (calls : List Call) :
    s.held <+: (s.run calls).held := by
  induction calls generalizing s with
  | nil =>
      exact List.prefix_rfl
  | cons c calls ih =>
      refine List.IsPrefix.trans ?_ (ih (s.step c))
      cases c with
      | update u =>
          exact List.prefix_rfl
      | hold d =>
          exact List.prefix_append _ _

structure Session.On (s : Session) (history : List Table) : Prop where
  published : s.published.On history
  held : ∀ x ∈ s.held, x.In history

theorem Session.On.seen
    {s : Session} {history : List Table}
    (h : s.On history)
    {x : Snapshot}
    (hx : s.Seen x) :
    x.In history := by
  rcases hx with hx | ⟨d, rfl⟩
  · exact h.held x hx
  · exact h.published.snapshot d

theorem Session.On.step
    {s : Session} {history : List Table}
    (h : s.On history)
    (c : Call) :
    (s.step c).On (history ++ (c.tables s.published.moduleUrl).map (·.2)) := by
  cases c with
  | update u =>
      have hpublished := (update_spec s.published u).2
      refine ⟨?_, fun x hx => (h.held x hx).append _⟩
      change (s.published.update u).published.On _
      rw [hpublished]
      exact h.published.publishAll _
  | hold d =>
      simp only [Call.tables, List.map_nil, List.append_nil]
      refine ⟨h.published, fun x hx => ?_⟩
      rcases List.mem_append.1 hx with hx | hx
      · exact h.held x hx
      · rw [List.mem_singleton.1 hx]
        exact h.published.snapshot d

theorem Session.On.run
    {s : Session} {history : List Table}
    (h : s.On history)
    (calls : List Call) :
    ∃ more, (s.run calls).On (history ++ more) := by
  induction calls generalizing s history with
  | nil =>
      exact ⟨[], by rwa [List.append_nil]⟩
  | cons c calls ih =>
      obtain ⟨more, hmore⟩ := ih (h.step c)
      exact ⟨_, by rwa [List.append_assoc] at hmore⟩

theorem Session.on_fresh
    (url : Option String) :
    (Session.fresh url).On [Table.empty, Table.empty] where
  published :=
    { next := rfl
      snapshot := fun d => by cases d <;> rfl }
  held := by simp [Session.fresh]

theorem lastFor_tables
    (url : Option String) (d : Direction) (calls : List Call) :
    lastFor d (calls.flatMap (·.tables url)) = (calls.filterMap (Call.table? url d)).getLast? := by
  have hcall : ∀ c : Call,
      ((c.tables url).filter (·.1 == d)).map (·.2) = (c.table? url d).toList := by
    intro c
    cases c with
    | update u =>
        exact tables_for url d u
    | hold other =>
        rfl
  rw [lastFor, List.filter_flatMap, List.map_flatMap, List.filterMap_eq_flatMap_toList]
  simp only [hcall]

/-- Entries compiled for a URL of the local module have that URL as their location. -/
theorem location_of_ofModule
    {d : ModuleDescription} {text : String} {t : Table}
    (h : Table.ofModule d (some text) = .ok t) :
    ∀ e ∈ t.entries, e.location = some text := by
  intro e he
  obtain ⟨key, hget, -⟩ := (Table.Built.add .empty h).filed.mem_get he
  rw [get_of_addModule (m := {}) h, List.mem_eraseDups] at hget
  obtain ⟨i, -, hi⟩ := List.mem_flatMap.1 (List.mem_filter.1 hget).1
  obtain ⟨endpoint, -, rfl⟩ := List.mem_map.1 hi
  rfl

theorem ofModule_of_table?
    {url : Option String} {u : Update} {t : Table}
    (h : u.table? url .ingress = some t) :
    ∃ d, Table.ofModule d url = .ok t := by
  have hcompiled := compiled_of_table? h
  cases u with
  | bootstrap b =>
      exact ⟨b.module, Option.some.inj hcompiled⟩
  | ingress d =>
      exact ⟨d, Option.some.inj hcompiled⟩
  | egress ds =>
      cases hcompiled

/--
Behind any calls, the table of a direction is that of the last accepted update
with a document for it.  A rejected update leaves the very same snapshots in
place, and a bootstrap publishes two tables that no one has seen or none at all.
What readers hold stays with them, and a generation names one snapshot for good.
With a URL of the local module all ingress entries lead there.
-/
theorem run_fresh
    (url : Option String) (calls : List Call) :
    let s := (Session.fresh url).run calls
    (∀ d, (s.published.snapshot d).table =
      (calls.filterMap (Call.table? url d)).getLast?.getD Table.empty) ∧
    (∀ u, (s.published.update u).outcome.isOk = u.accepted url ∧
      (u.accepted url = false → (s.published.update u).published = s.published)) ∧
    (∀ b, let p := (s.published.update (.bootstrap b)).published
      p = s.published ∨
        ∀ d, (Update.bootstrap b).table? url d = some (p.snapshot d).table ∧
          ∀ x, s.Seen x → x.generation ≠ (p.snapshot d).generation) ∧
    (∀ more, s.held <+: (s.run more).held ∧
      ∀ x y, s.Seen x → (s.run more).Seen y → x.generation = y.generation → x = y) ∧
    ∀ text ∈ url, ∀ e ∈ (s.published.snapshot .ingress).table.entries,
      e.location = some text := by
  intro s
  have hpublished := run_published (.fresh url) calls
  have hurl : s.published.moduleUrl = url := by
    rw [hpublished, publishAll_moduleUrl]
    rfl
  obtain ⟨history, hs⟩ := (Session.on_fresh url).run calls
  have htable : ∀ d, (s.published.snapshot d).table =
      (calls.filterMap (Call.table? url d)).getLast?.getD Table.empty := by
    intro d
    rw [hpublished, publishAll_snapshot_table, ← lastFor_tables]
    cases d <;> rfl
  refine ⟨htable, fun u => ?_, fun b => ?_, fun more => ⟨held_prefix_run s more, ?_⟩, ?_⟩
  · exact ⟨hurl ▸ (update_spec s.published u).1, fun hrejected =>
      update_published_of_rejected (hurl.symm ▸ hrejected)⟩
  · cases haccepted : (Update.bootstrap b).accepted url with
    | false =>
        exact Or.inl (update_published_of_rejected (hurl.symm ▸ haccepted))
    | true =>
        refine Or.inr fun d => ?_
        have hlast := lastFor_tables_update url d (.bootstrap b)
        have hsome := table?_bootstrap_ne_none haccepted d
        rw [(update_spec s.published (.bootstrap b)).2, hurl]
        constructor
        · obtain ⟨t, ht⟩ := Option.ne_none_iff_exists'.1 hsome
          rw [publishAll_snapshot_table, hlast, ht, Option.getD_some]
        · intro x hx
          have hnew := length_le_generation_publishAll hs.published (hlast ▸ hsome)
          exact Nat.ne_of_lt (Nat.lt_of_lt_of_le (hs.seen hx).generation_lt hnew)
  · intro x y hx hy hgeneration
    obtain ⟨later, hlater⟩ := hs.run more
    exact ((hs.seen hx).append later).eq (hlater.seen hy) hgeneration
  · rintro text rfl e he
    rw [htable] at he
    cases hlast : (calls.filterMap (Call.table? (some text) .ingress)).getLast? with
    | none =>
        rw [hlast] at he
        cases he
    | some t =>
        rw [hlast] at he
        obtain ⟨c, -, hc⟩ := List.mem_filterMap.1 (List.mem_of_getLast? hlast)
        cases c with
        | update u =>
            obtain ⟨d, hd⟩ := ofModule_of_table? hc
            exact location_of_ofModule hd e he
        | hold d =>
            cases hc

end Sessions

end Route
end SidecarProxy
