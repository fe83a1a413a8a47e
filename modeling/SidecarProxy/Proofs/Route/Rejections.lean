import SidecarProxy.Proofs.Except
import SidecarProxy.Proofs.Text.Trim
import SidecarProxy.Route.Table

/-!
# Why modules are rejected

A module is checked in a fixed order, and modules one after the other.  Main
statement: modules are rejected exactly when one of them is faulty, and the
rejection names the first faulty one and the first check that it fails.
-/

namespace SidecarProxy
namespace Route

open Catalog Text

section Checks

/-- What is checked of a module description. -/
inductive Check where
  | moduleId (id : String)
  | location (text : String)
  | interfaceId (i : Interface)
  | path (i : Interface) (e : Endpoint)
  | methods (i : Interface) (e : Endpoint)

/-- The checks of an interface: its id, and then its endpoints one by one. -/
def interfaceChecks (i : Interface) : List Check :=
  .interfaceId i :: i.endpoints.flatMap fun e => [.path i e, .methods i e]

/-- The checks of a module in their order; a given location takes the place of its own. -/
def checks (d : ModuleDescription) (location : Option String) : List Check :=
  .moduleId d.moduleId ::
    ((Table.locationFor d location).toList.map .location ++ d.interfaces.flatMap interfaceChecks)

/-- An endpoint has a text that starts with a slash when it is trimmed. -/
def HasPath (e : Endpoint) : Prop :=
  ∃ text, (e.pathPattern = some text ∨ e.path = some text) ∧
    (trim text).toList.head? = some '/'

/-- How a check fails. -/
inductive Check.Fails : Check → ConfigFault → Prop
  | moduleId
      {id : String}
      (h : trim id = "") :
      Fails (.moduleId id) .blankModuleId
  | location
      {text : String} {why : LocationError}
      (h : parseLocation text = .error why) :
      Fails (.location text) (.badLocation text why)
  | interfaceId
      {i : Interface}
      (h : trim i.id = "") :
      Fails (.interfaceId i) .blankInterfaceId
  | path
      {i : Interface} {e : Endpoint}
      (h : ¬ HasPath e) :
      Fails (.path i e) (.noUsablePath i.id)
  | methods
      {i : Interface} {e : Endpoint} {key : String}
      (hkey : endpointKey? e = some key)
      (h : e.methods = []) :
      Fails (.methods i e) (.noMethods key i.id)

/-- The fault that a check finds. -/
def Check.fault? : Check → Option ConfigFault
  | .moduleId id => if isBlank id then some .blankModuleId else none
  | .location text => failure? (Table.checkLocation (some text))
  | .interfaceId i => if isBlank i.id then some .blankInterfaceId else none
  | .path i e => if endpointKey? e = none then some (.noUsablePath i.id) else none
  | .methods i e =>
    (endpointKey? e).bind fun key =>
      if e.methods.isEmpty then some (.noMethods key i.id) else none

theorem rooted?_eq_none_iff
    {text : String} :
    rooted? text = none ↔ (trim text).toList.head? ≠ some '/' := by
  simp [rooted?]

theorem endpointKey?_eq_none_iff
    {e : Endpoint} :
    endpointKey? e = none ↔ ¬ HasPath e := by
  have hboth :
      endpointKey? e = none ↔ e.pathPattern.bind rooted? = none ∧ e.path.bind rooted? = none := by
    unfold endpointKey?
    cases e.pathPattern.bind rooted? <;> simp
  simp only [hboth, Option.bind_eq_none_iff, rooted?_eq_none_iff, HasPath, not_exists, not_and]
  constructor
  · rintro ⟨hpattern, hpath⟩ text (htext | htext)
    · exact hpattern text htext
    · exact hpath text htext
  · intro hno
    exact ⟨fun text htext => hno text (.inl htext), fun text htext => hno text (.inr htext)⟩

theorem failure?_checkLocation_eq_some_iff
    {text : String} {fault : ConfigFault} :
    failure? (Table.checkLocation (some text)) = some fault
      ↔
    ∃ why, parseLocation text = .error why ∧ .badLocation text why = fault := by
  rw [Table.checkLocation]
  cases parseLocation text <;> simp

/-- The fault that is found is the one of the check that fails. -/
theorem fault?_eq_some_iff
    {c : Check} {fault : ConfigFault} :
    c.fault? = some fault ↔ c.Fails fault := by
  constructor
  · intro h
    cases c with
    | moduleId id =>
        obtain ⟨hblank, ⟨⟩⟩ := Option.ite_none_right_eq_some.1 h
        exact .moduleId ((trim_eq_empty_iff id).2 hblank)
    | location text =>
        obtain ⟨why, hwhy, rfl⟩ := failure?_checkLocation_eq_some_iff.1 h
        exact .location hwhy
    | interfaceId i =>
        obtain ⟨hblank, ⟨⟩⟩ := Option.ite_none_right_eq_some.1 h
        exact .interfaceId ((trim_eq_empty_iff i.id).2 hblank)
    | path i e =>
        obtain ⟨hnone, ⟨⟩⟩ := Option.ite_none_right_eq_some.1 h
        exact .path (endpointKey?_eq_none_iff.1 hnone)
    | methods i e =>
        obtain ⟨key, hkey, h⟩ := Option.bind_eq_some_iff.1 h
        obtain ⟨hempty, ⟨⟩⟩ := Option.ite_none_right_eq_some.1 h
        exact .methods hkey (List.isEmpty_iff.1 hempty)
  · intro h
    cases h with
    | moduleId h =>
        exact if_pos ((trim_eq_empty_iff _).1 h)
    | location h =>
        exact failure?_checkLocation_eq_some_iff.2 ⟨_, h, rfl⟩
    | interfaceId h =>
        exact if_pos ((trim_eq_empty_iff _).1 h)
    | path h =>
        exact if_pos (endpointKey?_eq_none_iff.2 h)
    | methods hkey h =>
        simp [Check.fault?, hkey, h]

end Checks

section Modules

variable {d : ModuleDescription} {location : Option String}

theorem findSome?_flatMap
    {α β γ : Type}
    (f : β → Option γ) (g : α → List β) (xs : List α) :
    (xs.flatMap g).findSome? f = xs.findSome? fun x => (g x).findSome? f := by
  induction xs with
  | nil =>
      rfl
  | cons x xs ih =>
      rw [List.flatMap_cons, List.findSome?_append, ih, List.findSome?_cons]
      cases (g x).findSome? f <;> rfl

theorem failure?_entryOf
    (moduleId : String) (location : Option String) (i : Interface) (e : Endpoint) :
    failure? (Table.entryOf moduleId location i e) =
      [Check.path i e, Check.methods i e].findSome? Check.fault? := by
  unfold Table.entryOf
  cases hkey : endpointKey? e with
  | none =>
      simp [Check.fault?, hkey]
  | some key =>
      cases hmethods : e.methods.isEmpty <;> simp [Check.fault?, hkey, hmethods]

theorem failure?_interfaceEntries
    (moduleId : String) (location : Option String) (i : Interface) :
    failure? (Table.interfaceEntries moduleId location i) =
      (interfaceChecks i).findSome? Check.fault? := by
  rw [Table.interfaceEntries, interfaceChecks, List.findSome?_cons, findSome?_flatMap, Check.fault?]
  split
  · rfl
  · simp only [failure?_mapM, failure?_entryOf]

theorem failure?_checkLocation
    (location : Option String) :
    failure? (Table.checkLocation location) =
      (location.toList.map Check.location).findSome? Check.fault? := by
  cases location with
  | none =>
      rfl
  | some text =>
      simp [Check.fault?]

/-- A module is refused for the first check that it fails. -/
theorem failure?_moduleEntries
    (d : ModuleDescription) (location : Option String) :
    failure? (Table.moduleEntries d location) =
      (checks d location).findSome? Check.fault? := by
  rw [checks, List.findSome?_cons, List.findSome?_append, findSome?_flatMap, Check.fault?]
  unfold Table.moduleEntries
  cases isBlank d.moduleId with
  | true =>
      rfl
  | false =>
      have hinterfaces : ∀ u : Unit,
          failure? (do
            let entries ← d.interfaces.mapM
              (Table.interfaceEntries (trim d.moduleId) (Table.locationFor d location))
            pure entries.flatten) =
            d.interfaces.findSome? fun i => (interfaceChecks i).findSome? Check.fault? := by
        intro _
        rw [failure?_bind (g := none) fun _ => rfl, Option.or_none, failure?_mapM]
        simp only [failure?_interfaceEntries]
      change failure? (Table.checkLocation (Table.locationFor d location) >>= fun _ => _) = _
      rw [failure?_bind hinterfaces, failure?_checkLocation]
      rfl

theorem mem_checks_iff
    {c : Check} :
    c ∈ checks d location
      ↔
    c = .moduleId d.moduleId ∨
      (∃ text, Table.locationFor d location = some text ∧ c = .location text) ∨
        ∃ i ∈ d.interfaces, c = .interfaceId i ∨
          ∃ e ∈ i.endpoints, c = .path i e ∨ c = .methods i e := by
  simp [checks, interfaceChecks, eq_comm]

theorem exists_fails_of_moduleEntries
    {fault : ConfigFault}
    (h : Table.moduleEntries d location = .error fault) :
    ∃ c ∈ checks d location, c.Fails fault := by
  rw [← failure?_eq_some_iff, failure?_moduleEntries] at h
  obtain ⟨c, hc, hfault⟩ := List.exists_of_findSome?_eq_some h
  exact ⟨c, hc, fault?_eq_some_iff.1 hfault⟩

end Modules

section Main

/-- A module that must not be taken into a table. -/
def Faulty (d : ModuleDescription) : Prop :=
  trim d.moduleId = "" ∨
    (∃ text why, d.location = some text ∧ parseLocation text = .error why) ∨
    (∃ i ∈ d.interfaces, trim i.id = "") ∨
    ∃ i ∈ d.interfaces, ∃ e ∈ i.endpoints, ¬ HasPath e ∨ e.methods = []

/-- The first check of a module that fails, and how it fails. -/
def FirstFails (d : ModuleDescription) (fault : ConfigFault) : Prop :=
  ∃ earlier check later,
    checks d none = earlier ++ check :: later ∧ check.Fails fault ∧
      ∀ passed ∈ earlier, ∀ other, ¬ passed.Fails other

variable {d : ModuleDescription} {ds : List ModuleDescription} {e : ConfigError}

theorem fault?_eq_none_iff
    {c : Check} :
    c.fault? = none ↔ ∀ fault, ¬ c.Fails fault := by
  simp only [← fault?_eq_some_iff, Option.eq_none_iff_forall_ne_some]

theorem findSome?_checks_eq_some_iff
    {fault : ConfigFault} :
    (checks d none).findSome? Check.fault? = some fault ↔ FirstFails d fault := by
  simp only [List.findSome?_eq_some_iff, fault?_eq_some_iff, fault?_eq_none_iff, FirstFails]

theorem exists_fails_iff_faulty :
    (∃ c ∈ checks d none, ∃ fault, c.Fails fault) ↔ Faulty d := by
  constructor
  · rintro ⟨c, hc, fault, hfails⟩
    rcases mem_checks_iff.1 hc with
      rfl | ⟨text, htext, rfl⟩ | ⟨i, hi, rfl | ⟨e, he, rfl | rfl⟩⟩
    · cases hfails with
      | moduleId h => exact .inl h
    · cases hfails with
      | location h => exact .inr (.inl ⟨text, _, htext, h⟩)
    · cases hfails with
      | interfaceId h => exact .inr (.inr (.inl ⟨i, hi, h⟩))
    · cases hfails with
      | path h => exact .inr (.inr (.inr ⟨i, hi, e, he, .inl h⟩))
    · cases hfails with
      | methods hkey h => exact .inr (.inr (.inr ⟨i, hi, e, he, .inr h⟩))
  · rintro (h | ⟨text, why, htext, h⟩ | ⟨i, hi, h⟩ | ⟨i, hi, e, he, h⟩)
    · exact ⟨_, mem_checks_iff.2 (.inl rfl), _, .moduleId h⟩
    · exact ⟨_, mem_checks_iff.2 (.inr (.inl ⟨text, htext, rfl⟩)), _, .location h⟩
    · exact ⟨_, mem_checks_iff.2 (.inr (.inr ⟨i, hi, .inl rfl⟩)), _, .interfaceId h⟩
    · -- Methods are only missed where there is a key to name.
      cases hkey : endpointKey? e with
      | none =>
          have hpath : Check.path i e ∈ checks d none :=
            mem_checks_iff.2 (.inr (.inr ⟨i, hi, .inr ⟨e, he, .inl rfl⟩⟩))
          exact ⟨_, hpath, _, .path (endpointKey?_eq_none_iff.1 hkey)⟩
      | some key =>
          have hmethods : Check.methods i e ∈ checks d none :=
            mem_checks_iff.2 (.inr (.inr ⟨i, hi, .inr ⟨e, he, .inr rfl⟩⟩))
          refine ⟨_, hmethods, _, .methods hkey (h.resolve_left fun hno => ?_)⟩
          rw [endpointKey?_eq_none_iff.2 hno] at hkey
          cases hkey

/-- A module passes all checks exactly when it is not faulty. -/
theorem findSome?_checks_eq_none_iff :
    (checks d none).findSome? Check.fault? = none ↔ ¬ Faulty d := by
  rw [← exists_fails_iff_faulty]
  simp only [List.findSome?_eq_none_iff, fault?_eq_none_iff, not_exists, not_and]

theorem reportedId_eq
    (d : ModuleDescription) :
    Table.reportedId d = if trim d.moduleId = "" then "<blank>" else trim d.moduleId := by
  simp only [Table.reportedId, ← trim_eq_empty_iff]

/-- The rejection of a module as far as its own checks decide about it. -/
def rejection? (d : ModuleDescription) : Option ConfigError :=
  ((checks d none).findSome? Check.fault?).map (⟨Table.reportedId d, ·⟩)

theorem rejection?_eq_some_iff :
    rejection? d = some e
      ↔
    FirstFails d e.fault ∧
      e.moduleId = if trim d.moduleId = "" then "<blank>" else trim d.moduleId := by
  rw [rejection?, Option.map_eq_some_iff, ← reportedId_eq]
  simp only [findSome?_checks_eq_some_iff]
  constructor
  · rintro ⟨fault, hfault, rfl⟩
    exact ⟨hfault, rfl⟩
  · rintro ⟨hfault, hid⟩
    exact ⟨e.fault, hfault, by rw [← hid]⟩

theorem rejection?_eq_none_iff :
    rejection? d = none ↔ ¬ Faulty d := by
  rw [rejection?, Option.map_eq_none_iff, findSome?_checks_eq_none_iff]

theorem failure?_ofModules
    (ds : List ModuleDescription) :
    failure? (Table.ofModules ds) = ds.findSome? rejection? := by
  refine failure?_foldlM (fun t d => ?_) Table.empty ds
  rw [rejection?, ← failure?_moduleEntries, Table.addModule]
  cases Table.moduleEntries d none <;> rfl

/--
A list of modules is rejected exactly when one of them is faulty.  The rejection
names the first faulty module by its trimmed id, and its reason is that of the
first check of this module that fails.
-/
theorem ofModules_rejects :
    ((∃ e, Table.ofModules ds = .error e) ↔ ∃ d ∈ ds, Faulty d) ∧
      ∀ e, Table.ofModules ds = .error e ↔
        ∃ before d after,
          ds = before ++ d :: after ∧ (∀ other ∈ before, ¬ Faulty other) ∧
            FirstFails d e.fault ∧
            e.moduleId = if trim d.moduleId = "" then "<blank>" else trim d.moduleId := by
  simp only [← failure?_eq_some_iff, failure?_ofModules]
  refine ⟨?_, fun e => ?_⟩
  · rw [← Option.isSome_iff_exists, List.findSome?_isSome_iff]
    simp only [Option.isSome_iff_ne_none, ne_eq, rejection?_eq_none_iff, not_not]
  · simp only [List.findSome?_eq_some_iff, rejection?_eq_some_iff, rejection?_eq_none_iff]
    constructor
    · rintro ⟨before, d, after, hds, hfails, hbefore⟩
      exact ⟨before, d, after, hds, hbefore, hfails⟩
    · rintro ⟨before, d, after, hds, hbefore, hfails⟩
      exact ⟨before, d, after, hds, hfails, hbefore⟩

/-- Of the three faults of the second module the first one counts, and the third module never. -/
example :
    Table.ofModules
        [{ moduleId := "mod-a-1.0.0" },
          { moduleId := " mod-b-1.0.0 "
            interfaces := [{ id := "b", endpoints := [{ path := some "b" }] }, { id := " " }] },
          { moduleId := "" }] =
      .error ⟨"mod-b-1.0.0", .noUsablePath "b"⟩ := by
  decide

end Main

end Route
end SidecarProxy
