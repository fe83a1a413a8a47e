import SidecarProxy.Proofs.Catalog.ModuleNames
import SidecarProxy.Proofs.Resolve.Contacts

/-!
# Modules that requests name

A request names a module by its id or by its name.  Main statement: a text is read
as a name in front of the longest version that it can end in, so that every hint
is either an id or a name, and a name stands for the first of the tenant's modules
that is a version of it.
-/

namespace SidecarProxy
namespace Resolve

open Catalog Message Route

section First

/-- The first of some ids that is a version of a module. -/
def FirstVersion (name : String) (ids : List String) (id : String) : Prop :=
  ∃ before after,
    ids = before ++ id :: after ∧ VersionOf name id ∧ ∀ other ∈ before, ¬ VersionOf name other

variable {name id : String} {ids : List String}

theorem find?_eq_some_iff_firstVersion
    (hname : isModuleId name = false) :
    ids.find? (fun id => ModuleId.name? id == some name) = some id
      ↔
    FirstVersion name ids id := by
  simp only [List.find?_eq_some_iff_append, FirstVersion, versionOf_iff_name? hname,
    Bool.not_eq_true', beq_iff_eq, beq_eq_false_iff_ne]
  constructor
  · rintro ⟨hid, before, after, hids, hbefore⟩
    exact ⟨before, after, hids, hid, hbefore⟩
  · rintro ⟨before, after, hids, hid, hbefore⟩
    exact ⟨hid, before, after, hids, hbefore⟩

theorem find?_eq_none_iff_no_version
    (hname : isModuleId name = false) :
    ids.find? (fun id => ModuleId.name? id == some name) = none
      ↔
    ∀ id ∈ ids, ¬ VersionOf name id := by
  simp only [List.find?_eq_none, versionOf_iff_name? hname, beq_iff_eq]

end First

section Hints

variable {σ : Type}
variable (services : Services σ) (inbound : Inbound) (s : σ)

/-- The search in the table of one module. -/
def searchModule (inbound : Inbound) (id : String) : Search (Option Entry) :=
  Search.tableOf id >>= fun table =>
    pure (table.lookup { Resolver.queryAt inbound inbound.path with hint := some id })

/-- What a request with a hint is taken to mean. -/
structure Understood (hint : String) : Prop where
  /-- With an id nobody is asked for the modules of the tenant. -/
  as_id :
    isModuleId hint = true →
      (Resolver.searchDynamic inbound).run services s =
        (searchModule inbound hint).run services s
  as_name :
    isModuleId hint = false →
      ∀ ids, (services.entitled (inbound.tenant.getD "") s).1 = .ok ids →
        ∀ id, FirstVersion hint ids id →
          (Resolver.searchDynamic inbound).run services s =
            (searchModule inbound id).run services
              (services.entitled (inbound.tenant.getD "") s).2
  unknown :
    isModuleId hint = false →
      ∀ ids, (services.entitled (inbound.tenant.getD "") s).1 = .ok ids →
        (∀ id ∈ ids, ¬ VersionOf hint id) →
          (Resolver.searchDynamic inbound).run services s =
            (.error (.unknownName hint (inbound.tenant.getD "")),
              (services.entitled (inbound.tenant.getD "") s).2)
  untold :
    isModuleId hint = false →
      ∀ e, (services.entitled (inbound.tenant.getD "") s).1 = .error e →
        (Resolver.searchDynamic inbound).run services s =
          (.error (.entitlements e), (services.entitled (inbound.tenant.getD "") s).2)

variable {services inbound s} {hint : String}

/-- A name that is no id is searched for among the modules of the tenant. -/
theorem run_namedModule_of_name
    (hid : isModuleId hint = false) :
    (Resolver.namedModule inbound hint).run services s =
      (match (services.entitled (inbound.tenant.getD "") s).1 with
        | .error e => .error (.entitlements e)
        | .ok ids =>
          match ids.find? (fun id => ModuleId.name? id == some hint) with
          | some id => .ok id
          | none => .error (.unknownName hint (inbound.tenant.getD "")),
        (services.entitled (inbound.tenant.getD "") s).2) := by
  rw [namedModule_of_not_isModuleId inbound hid, run_bind, run_entitled]
  cases (services.entitled (inbound.tenant.getD "") s).1 with
  | error e =>
      rfl
  | ok ids =>
      change Search.run services (match ids.find? _ with | some id => _ | none => _) _ = _
      cases hfind : ids.find? (fun id => ModuleId.name? id == some hint) <;>
      · dsimp only
        rw [hfind]
        rfl

theorem understood_of_hint
    (hhint : inbound.hint = some hint) :
    Understood services inbound s hint := by
  have hrun := searchDynamic_of_hint inbound hhint
  refine {
    as_id := fun hid => ?_
    as_name := fun hid ids hids id hfirst => ?_
    unknown := fun hid ids hids hnone => ?_
    untold := fun hid e he => ?_ } <;>
    rw [hrun, run_bind]
  · rw [namedModule_of_isModuleId inbound hid]
    rfl
  · rw [run_namedModule_of_name hid, hids]
    dsimp only
    rw [(find?_eq_some_iff_firstVersion hid).2 hfirst]
    rfl
  · rw [run_namedModule_of_name hid, hids]
    dsimp only
    rw [(find?_eq_none_iff_no_version hid).2 hnone]
  · rw [run_namedModule_of_name hid, he]

end Hints

section Main

/-- How texts are read as the ids of modules. -/
structure IdGrammar : Prop where
  name_iff :
    ∀ id name,
      ModuleId.name? id = some name
        ↔
      VersionOf name id ∧ ∀ other, VersionOf other id → name.length ≤ other.length
  name_no_id : ∀ id name, ModuleId.name? id = some name → isModuleId name = false
  append :
    ∀ name version : String, name ≠ "" → ModuleId.Version version.toList →
      ModuleId.name? (name ++ "-" ++ version) =
        if isModuleId name then ModuleId.name? name else some name

/--
An id has the shortest name that leaves a version, which is no id, and goes on
having it when a version follows.  A hint that is an id is taken as it is, and any
other hint stands for the first version of it that the tenant may use.
-/
theorem hint_understood :
    IdGrammar ∧
      ∀ {σ : Type} (services : Services σ) (inbound : Inbound) (s : σ) (hint : String),
        inbound.hint = some hint → Understood services inbound s hint :=
  ⟨⟨fun _ _ => name?_eq_some_iff, fun _ _ => isModuleId_name, fun _ _ => name?_append⟩,
    fun _ _ _ _ => understood_of_hint⟩

/-- Services that know the modules of one tenant, among them one whose name only begins alike. -/
def tenantServices : Services Unit where
  published _ := {}
  entitled tenant s :=
    (Entitlements.ofList [("diku", ["mod-peer-x-1.0.0", "mod-peer-2.1.0-rc-1.0.0"])] tenant, s)
  table _ s := (.ok .empty, s)

/-- A request that names a module by its name. -/
def namingRequest : Inbound where
  method := "GET"
  path := "/peer/1"
  tenant := some "diku"
  moduleHint := some " mod-peer"

theorem hint_understood_namingRequest :
    namingRequest.hint = some "mod-peer" ∧
      isModuleId "mod-peer" = false ∧
      (Resolver.searchDynamic namingRequest).run tenantServices () =
        (searchModule namingRequest "mod-peer-2.1.0-rc-1.0.0").run tenantServices () := by
  have hhint : namingRequest.hint = some "mod-peer" := by decide
  have hname : isModuleId "mod-peer" = false := by decide
  refine ⟨hhint, hname, ?_⟩
  refine (hint_understood.2 tenantServices namingRequest () "mod-peer" hhint).as_name hname _ rfl _
    ((find?_eq_some_iff_firstVersion hname).1 ?_)
  decide

end Main

end Resolve
end SidecarProxy
