import SidecarProxy.Proofs.Resolve.SharedInterface

/-!
# Whom a search turns to

Behind the published tables a search may turn to those who know the modules of a
tenant and to those who know the tables of modules.  Main statements: a search in
several parts turns to whom its parts turn to, a search that turns to nobody
leaves everything as it was, and the exact contacts that a named module needs.
-/

namespace SidecarProxy
namespace Resolve

open Catalog Message Route

section Contacts

/-- Whom a search turns to, and for what. -/
inductive Contact where
  | entitlements (tenant : String)
  | moduleTable (moduleId : String)
  deriving DecidableEq, Repr

variable {σ α β : Type}

/-- Whom a search turns to, in order, when its questions are answered by some services. -/
def Search.contacts (services : Services σ) : Search α → σ → List Contact
  | .ended _, _ => []
  | .read d next, s => contacts services (next ((services.published s).snapshot d).table) s
  | .askEntitled tenant next, s =>
    .entitlements tenant ::
      contacts services (next (services.entitled tenant s).1) (services.entitled tenant s).2
  | .askTable id next, s =>
    .moduleTable id :: contacts services (next (services.table id s).1) (services.table id s).2

variable (services : Services σ)

/-- The second part of a search turns to somebody only if the first part has not failed. -/
theorem contacts_bind
    (search : Search α) (f : α → Search β) (s : σ) :
    (search >>= f).contacts services s =
      search.contacts services s ++
        match search.run services s with
        | (.ok a, s') => (f a).contacts services s'
        | (.error _, _) => [] := by
  change (search.bind f).contacts services s = _
  induction search generalizing s with
  | ended result =>
      cases result <;> rfl
  | read d next ih =>
      exact ih _ s
  | askEntitled tenant next ih =>
      exact congrArg (_ :: ·) (ih _ _)
  | askTable id next ih =>
      exact congrArg (_ :: ·) (ih _ _)

/-- Reading published tables changes nothing. -/
theorem run_snd_of_contacts_eq_nil
    {search : Search α} {s : σ}
    (h : search.contacts services s = []) :
    (search.run services s).2 = s := by
  induction search generalizing s with
  | ended result =>
      rfl
  | read d next ih =>
      exact ih _ h
  | askEntitled tenant next =>
      cases h
  | askTable id next =>
      cases h

theorem contacts_entitled
    (tenant : String) (s : σ) :
    (Search.entitled tenant).contacts services s = [.entitlements tenant] := by
  simp only [Search.entitled, Search.contacts]
  cases (services.entitled tenant s).1 <;> rfl

theorem contacts_tableOf
    (id : String) (s : σ) :
    (Search.tableOf id).contacts services s = [.moduleTable id] := by
  simp only [Search.tableOf, Search.contacts]
  cases (services.table id s).1 <;> rfl

end Contacts

section NamedModule

variable {σ : Type}
variable (services : Services σ) (inbound : Inbound) (s : σ)

theorem namedModule_of_isModuleId
    {hint : String}
    (hid : isModuleId hint = true) :
    Resolver.namedModule inbound hint = pure hint :=
  if_pos hid

theorem namedModule_of_not_isModuleId
    {hint : String}
    (hid : isModuleId hint = false) :
    Resolver.namedModule inbound hint =
      Search.entitled (inbound.tenant.getD "") >>= fun ids =>
        match ids.find? (fun id => ModuleId.name? id == some hint) with
        | some id => pure id
        | none => Search.fail (.unknownName hint (inbound.tenant.getD "")) :=
  if_neg (Bool.eq_false_iff.1 hid)

/-- Only a name that is no id is looked up among the modules of the tenant. -/
theorem contacts_namedModule
    (hint : String) :
    (Resolver.namedModule inbound hint).contacts services s =
      if isModuleId hint then [] else [.entitlements (inbound.tenant.getD "")] := by
  cases hid : isModuleId hint with
  | true =>
      rw [namedModule_of_isModuleId inbound hid]
      rfl
  | false =>
      rw [namedModule_of_not_isModuleId inbound hid, contacts_bind, contacts_entitled]
      split
      · split <;> rfl
      · rfl

/-- The id of a module is found exactly when the request means that module. -/
theorem run_namedModule_eq_ok_iff
    {hint id : String} :
    (∃ s', (Resolver.namedModule inbound hint).run services s = (.ok id, s'))
      ↔
    MeansModule services inbound s hint id := by
  constructor
  · rintro ⟨s', h⟩
    exact meansModule_of_run h
  · rintro (⟨hid, rfl⟩ | ⟨hid, ids, hids, hfind⟩)
    · exact ⟨s, by rw [namedModule_of_isModuleId inbound hid]; rfl⟩
    · refine ⟨(services.entitled (inbound.tenant.getD "") s).2, ?_⟩
      rw [namedModule_of_not_isModuleId inbound hid, run_bind, run_entitled, hids]
      change Search.run services (match ids.find? _ with | some id => _ | none => _) _ = _
      rw [hfind]
      rfl

theorem searchDynamic_of_hint
    {hint : String}
    (hhint : inbound.hint = some hint) :
    Resolver.searchDynamic inbound =
      Resolver.namedModule inbound hint >>= fun id =>
        Search.tableOf id >>= fun table =>
          pure (table.lookup { Resolver.queryAt inbound inbound.path with hint := some id }) := by
  obtain ⟨raw, hraw, -⟩ := Option.map_eq_some_iff.1 (hint_eq_some hhint).1
  simp only [Resolver.searchDynamic, hraw, hhint]

/-- A request that names no module, or a blank one, has nobody to turn to. -/
theorem contacts_searchDynamic_of_no_hint
    (hhint : inbound.hint = none) :
    (Resolver.searchDynamic inbound).contacts services s = [] := by
  unfold Resolver.searchDynamic
  rw [hhint]
  cases inbound.moduleHint <;> rfl

/-- A request that names a module turns to those who know its id, and with the id to those who
know its table. -/
theorem contacts_searchDynamic_of_hint
    {hint : String}
    (hhint : inbound.hint = some hint) :
    (Resolver.searchDynamic inbound).contacts services s =
      (if isModuleId hint then [] else [.entitlements (inbound.tenant.getD "")]) ++
        match (Resolver.namedModule inbound hint).run services s with
        | (.ok id, _) => [.moduleTable id]
        | (.error _, _) => [] := by
  rw [searchDynamic_of_hint inbound hhint, contacts_bind, contacts_namedModule]
  cases (Resolver.namedModule inbound hint).run services s with
  | mk result s' =>
      cases result with
      | error e =>
          rfl
      | ok id =>
          dsimp only
          rw [contacts_bind, contacts_tableOf]
          cases (Search.tableOf id).run services s' with
          | mk table after =>
              cases table <;> rfl

theorem mem_contacts_searchDynamic_iff
    {hint : String}
    (hhint : inbound.hint = some hint)
    (contact : Contact) :
    contact ∈ (Resolver.searchDynamic inbound).contacts services s
      ↔
    (isModuleId hint = false ∧ contact = .entitlements (inbound.tenant.getD "")) ∨
      ∃ id, MeansModule services inbound s hint id ∧ contact = .moduleTable id := by
  simp only [← run_namedModule_eq_ok_iff, contacts_searchDynamic_of_hint services inbound s hhint,
    List.mem_append]
  refine or_congr ?_ ?_
  · cases isModuleId hint <;> simp
  · cases hrun : (Resolver.namedModule inbound hint).run services s with
    | mk result s' =>
        cases result <;> simp

theorem nodup_contacts_searchDynamic :
    ((Resolver.searchDynamic inbound).contacts services s).Nodup := by
  cases hhint : inbound.hint with
  | none =>
      rw [contacts_searchDynamic_of_no_hint services inbound s hhint]
      exact List.nodup_nil
  | some hint =>
      rw [contacts_searchDynamic_of_hint services inbound s hhint]
      split <;> split <;> simp

end NamedModule

end Resolve
end SidecarProxy
