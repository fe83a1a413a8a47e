import SidecarProxy.Route.Table

/-!
# Adding modules in place

A table that grows module by module may also be one that is changed in place.
Then the checks of a module and the filing of its entries are steps of a single
program, and a check that fails after something was filed would leave a table
that holds half a module.  Main statement: adding a module in place changes the
table exactly when the module is accepted, and then as a whole.
-/

namespace SidecarProxy
namespace Route

open Catalog Text

section InPlace

/-- Work on a table in place, which may end early and leaves what it has changed by then. -/
abbrev Building (α : Type) : Type :=
  ExceptT ConfigError (StateM Table) α

def checkLocationInPlace
    (id : String) (location : Option String) :
    Building Unit := do
  if let some text := location then
    match parseLocation text with
    | .ok _ => pure ()
    | .error why => throw ⟨id, .badLocation text why⟩

def entryInPlace
    (id : String) (location : Option String) (i : Interface) (e : Endpoint) :
    Building (String × Entry) := do
  let some key := endpointKey? e
    | throw ⟨id, .noUsablePath i.id⟩
  if e.methods.isEmpty then
    throw ⟨id, .noMethods key i.id⟩
  return (key,
    { moduleId := id, location := location, interfaceId := i.id, kind := i.kind, endpoint := e })

/-- Checks an interface and collects its entries behind those that were found before. -/
def collectInPlace
    (id : String) (location : Option String) (i : Interface)
    (found : List (String × Entry)) :
    Building (List (String × Entry)) := do
  if isBlank i.id then
    throw ⟨id, .blankInterfaceId⟩
  let mut keyed := found
  for e in i.endpoints do
    keyed := keyed ++ [← entryInPlace id location i e]
  return keyed

/--
Adds the routes of a module, interface by interface and endpoint by endpoint; the
first fault that is met ends the work.
-/
def addInPlace
    (d : ModuleDescription) (location : Option String) :
    Building Unit := do
  if isBlank d.moduleId then
    throw ⟨"<blank>", .blankModuleId⟩
  let location := location.or d.location
  checkLocationInPlace (trim d.moduleId) location
  let mut keyed := []
  for i in d.interfaces do
    keyed ← collectInPlace (trim d.moduleId) location i keyed
  for x in keyed do
    modify (·.file x)

/-- What is left of a table behind work in place, and how the work ended. -/
def Building.on
    {α : Type} (work : Building α) (t : Table) :
    Except ConfigError α × Table :=
  work.run.run t

def check
    {α : Type} (id : String) (x : Except ConfigFault α) :
    Building α :=
  match x with
  | .ok a => pure a
  | .error fault => throw ⟨id, fault⟩

variable {α β γ : Type}

theorem check_pure
    (id : String) (a : α) :
    check id (pure a) = pure a := by
  rfl

theorem check_bind
    (id : String) (x : Except ConfigFault α) (f : α → Except ConfigFault β) :
    check id (x >>= f) = check id x >>= fun a => check id (f a) := by
  cases x <;> rfl

/-- A loop whose steps are checks collects what all of its checks together give. -/
theorem forIn_eq_check
    {id : String} {f : α → Except ConfigFault β} {g : β → List γ}
    {body : α → List γ → Building (ForInStep (List γ))}
    (hbody : ∀ a found,
      body a found = check id (f a) >>= fun b => pure (.yield (found ++ g b)))
    (xs : List α) (found : List γ) :
    forIn xs found body = check id (xs.mapM f) >>= fun bs => pure (found ++ bs.flatMap g) := by
  induction xs generalizing found with
  | nil =>
      rw [List.forIn_nil, List.mapM_nil, check_pure, pure_bind, List.flatMap_nil, List.append_nil]
  | cons x xs ih =>
      rw [List.forIn_cons, hbody, List.mapM_cons]
      simp only [check_bind, check_pure, bind_assoc, pure_bind, ih, List.flatMap_cons,
        List.append_assoc]

theorem forIn_file
    (xs : List (String × Entry)) :
    (forIn xs PUnit.unit fun x _ => do
      modify (·.file x)
      pure (.yield PUnit.unit) : Building PUnit) = modify fun t => xs.foldl Table.file t := by
  induction xs with
  | nil =>
      rfl
  | cons x xs ih =>
      rw [List.forIn_cons]
      simp only [bind_assoc, pure_bind, ih]
      rfl

theorem checkLocationInPlace_eq
    (id : String) (location : Option String) :
    checkLocationInPlace id location = check id (Table.checkLocation location) := by
  unfold checkLocationInPlace Table.checkLocation
  cases location with
  | none =>
      rfl
  | some text =>
      dsimp only
      cases parseLocation text <;> rfl

theorem entryInPlace_eq
    (id : String) (location : Option String) (i : Interface) (e : Endpoint) :
    entryInPlace id location i e = check id (Table.entryOf id location i e) := by
  unfold entryInPlace Table.entryOf
  cases endpointKey? e with
  | none =>
      rfl
  | some key =>
      dsimp only
      cases e.methods.isEmpty <;> rfl

theorem collectInPlace_eq
    (id : String) (location : Option String) (i : Interface)
    (found : List (String × Entry)) :
    collectInPlace id location i found =
      check id (Table.interfaceEntries id location i) >>= fun keyed => pure (found ++ keyed) := by
  unfold collectInPlace Table.interfaceEntries
  split
  · rfl
  · have hbody : ∀ e (found : List (String × Entry)),
        (entryInPlace id location i e >>= fun x => pure (ForInStep.yield (found ++ [x]))) =
          check id (Table.entryOf id location i e) >>= fun x =>
            pure (ForInStep.yield (found ++ [x])) := by
      intro e found
      rw [entryInPlace_eq]
    dsimp only
    rw [forIn_eq_check (g := fun x => [x]) hbody]
    simp only [bind_assoc, pure_bind, List.flatMap_singleton']

theorem addInPlace_eq
    (d : ModuleDescription) (location : Option String) :
    addInPlace d location =
      check (Table.reportedId d) (Table.moduleEntries d location) >>= fun keyed =>
        modify fun t => keyed.foldl Table.file t := by
  unfold addInPlace Table.moduleEntries Table.reportedId
  split
  · rfl
  · have hbody : ∀ i (found : List (String × Entry)),
        (collectInPlace (trim d.moduleId) (location.or d.location) i found >>= fun keyed =>
            pure (ForInStep.yield keyed)) =
          check (trim d.moduleId)
              (Table.interfaceEntries (trim d.moduleId) (location.or d.location) i) >>=
            fun keyed => pure (ForInStep.yield (found ++ keyed)) := by
      intro i found
      rw [collectInPlace_eq, bind_assoc]
      simp only [pure_bind]
    dsimp only
    rw [forIn_eq_check (g := id) hbody]
    simp only [checkLocationInPlace_eq, check_bind, check_pure, bind_assoc, pure_bind, forIn_file,
      List.nil_append, List.flatMap_id, Table.locationFor]
    rfl

/-- A module that is added in place changes the table as a whole, or not at all. -/
theorem addInPlace_on
    (d : ModuleDescription) (location : Option String) (t : Table) :
    (addInPlace d location).on t =
      match t.addModule d location with
      | .ok t' => (.ok (), t')
      | .error e => (.error e, t) := by
  rw [addInPlace_eq, Table.addModule]
  cases Table.moduleEntries d location <;> rfl

end InPlace

end Route
end SidecarProxy
