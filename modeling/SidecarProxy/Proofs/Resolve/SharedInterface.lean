import SidecarProxy.Proofs.Resolve.Running
import SidecarProxy.Proofs.Route.PatternReach
import SidecarProxy.Proofs.Text.Trim

/-!
# Interfaces of several modules

Several modules may offer the same interface, and then a request has to say which
one it means.  Main statement: whatever the tables, the entitlements, the cache
and the control plane hold, a route of such an interface is only found for a
request that names its module, by id or, for modules that are not published, by
name.
-/

namespace SidecarProxy
namespace Resolve

open Catalog Message Route Text

section Hint

theorem hint_eq_some
    {inbound : Inbound} {hint : String}
    (h : inbound.hint = some hint) :
    inbound.moduleHint.map trim = some hint ∧ isBlank hint = false := by
  obtain ⟨hsent, hne⟩ := Option.filter_eq_some_iff.1 h
  obtain ⟨raw, -, rfl⟩ := Option.map_eq_some_iff.1 hsent
  refine ⟨hsent, ?_⟩
  rw [isBlank_trim, Bool.eq_false_iff]
  intro hblank
  simp [(trim_eq_empty_iff raw).2 hblank] at hne

theorem hint_of_lookup_multiple
    {t : Table} {q : Query} {e : Entry}
    (h : t.lookup q = some e)
    (hmultiple : e.kind = .multiple) :
    q.hint = some e.moduleId := by
  have htakes := (lookup_sound h).2
  simp only [Entry.takes, Entry.isMultiple, hmultiple, Bool.and_eq_true] at htakes
  simpa using htakes.2

end Hint

section Strategies

variable {σ : Type}
variable {services : Services σ} {inbound : Inbound} {s s' : σ}

/-- The id of the module that a request means by a hint. -/
def MeansModule
    (services : Services σ) (inbound : Inbound) (s : σ)
    (hint id : String) :
    Prop :=
  (isModuleId hint = true ∧ id = hint) ∨
    isModuleId hint = false ∧
      ∃ ids,
        (services.entitled (inbound.tenant.getD "") s).1 = .ok ids ∧
          ids.find? (fun id => ModuleId.name? id == some hint) = some id

theorem meansModule_of_run
    {hint id : String}
    (h : (Resolver.namedModule inbound hint).run services s = (.ok id, s')) :
    MeansModule services inbound s hint id := by
  unfold Resolver.namedModule at h
  split at h
  · next hid =>
      cases h
      exact Or.inl ⟨hid, rfl⟩
  · next hid =>
      obtain ⟨ids, middle, hasked, h⟩ := run_bind_eq_ok services h
      rw [run_entitled] at hasked
      have hids := eq_ok_of_mapError (Prod.mk.inj hasked).1
      split at h
      · next found hfound =>
          cases h
          exact Or.inr ⟨Bool.eq_false_iff.2 hid, ids, hids, hfound⟩
      · cases h

theorem meansModule_of_searchDynamic
    {e : Entry}
    (h : (Resolver.searchDynamic inbound).run services s = (.ok (some e), s'))
    (hmultiple : e.kind = .multiple) :
    ∃ hint, inbound.hint = some hint ∧ MeansModule services inbound s hint e.moduleId := by
  unfold Resolver.searchDynamic at h
  split at h
  · cases h
  · cases h
  · next hint _ hhint =>
      obtain ⟨id, middle, hid, h⟩ := run_bind_eq_ok services h
      obtain ⟨table, _, -, h⟩ := run_bind_eq_ok services h
      obtain ⟨hfound, -⟩ := Prod.mk.inj h
      have hmodule : some id = some e.moduleId :=
        hint_of_lookup_multiple (Except.ok.inj hfound) hmultiple
      cases hmodule
      exact ⟨hint, hhint, meansModule_of_run hid⟩

variable (r : Resolver)

/-- Apart from asking for a named module, a strategy leaves the services as they are. -/
theorem run_searchBy_snd
    {strategy : Strategy}
    (hstrategy : strategy ≠ .dynamic) :
    ((r.searchBy inbound strategy).run services s).2 = s := by
  cases strategy with
  | dynamic =>
      exact absurd rfl hstrategy
  | _ =>
      rfl

theorem names_of_searchBy
    {strategy : Strategy} {e : Entry}
    (h : (r.searchBy inbound strategy).run services s = (.ok (some e), s'))
    (hmultiple : e.kind = .multiple) :
    ∃ hint, inbound.hint = some hint ∧
      (e.moduleId = hint ∨
        strategy = .dynamic ∧ MeansModule services inbound s hint e.moduleId) := by
  cases strategy with
  | ingress =>
      have hlookup := Except.ok.inj (Prod.mk.inj h).1
      exact ⟨e.moduleId, hint_of_lookup_multiple hlookup hmultiple, Or.inl rfl⟩
  | egress =>
      have hlookup := Except.ok.inj (Prod.mk.inj h).1
      exact ⟨e.moduleId, hint_of_lookup_multiple hlookup hmultiple, Or.inl rfl⟩
  | dynamic =>
      simp only [Resolver.searchBy] at h
      split at h
      · obtain ⟨hint, hhint, hmeans⟩ := meansModule_of_searchDynamic h hmultiple
        exact ⟨hint, hhint, Or.inr ⟨rfl, hmeans⟩⟩
      · cases h
  | gateway =>
      have hgateway := Except.ok.inj (Prod.mk.inj h).1
      obtain ⟨url, -, rfl⟩ := Option.map_eq_some_iff.1 hgateway
      cases hmultiple

/--
A route is found by one of the strategies.  The search for a named module, which
comes up once, begins with the services as they were at first.
-/
theorem exists_searchBy_of_searchIn
    {strategies : List Strategy} (hnodup : strategies.Nodup)
    {f : Found}
    (h : (r.searchIn inbound strategies).run services s = (.ok (some f), s')) :
    f.strategy ∈ strategies ∧
      ∃ start middle,
        (r.searchBy inbound f.strategy).run services start = (.ok (some f.entry), middle) ∧
          (f.strategy = .dynamic → start = s) := by
  induction strategies generalizing s with
  | nil =>
      cases h
  | cons strategy rest ih =>
      obtain ⟨hfirst, hrest⟩ := List.nodup_cons.1 hnodup
      rw [Resolver.searchIn] at h
      obtain ⟨result, next, hrun, h⟩ := run_bind_eq_ok services h
      cases result with
      | some entry =>
          cases h
          exact ⟨List.mem_cons_self, s, _, hrun, fun _ => rfl⟩
      | none =>
          obtain ⟨hmem, start, middle, hstart, hsame⟩ := ih hrest h
          refine ⟨List.mem_cons_of_mem _ hmem, start, middle, hstart, ?_⟩
          intro hdynamic
          -- The strategy that missed is not the dynamic one, so it left the services alone.
          have hne : strategy ≠ .dynamic := by
            rintro rfl
            exact hfirst (hdynamic ▸ hmem)
          have hnext := congrArg Prod.snd hrun
          rw [run_searchBy_snd r hne] at hnext
          rw [hsame hdynamic, hnext]

theorem nodup_chain :
    r.chain.Nodup := by
  unfold Resolver.chain
  cases r.dynamic <;> cases r.gateway.isSome <;> decide

end Strategies

section Main

/--
An entry of an interface of several modules is only found for a request that
names the module of the entry: by its id, or by a name of which the id is the
first one among those of the tenant.
-/
theorem multiple_only_by_name
    {σ : Type} {services : Services σ} {r : Resolver} {inbound : Inbound}
    {s s' : σ} {f : Found}
    (h : (r.search inbound).run services s = (.ok (some f), s'))
    (hmultiple : f.entry.kind = .multiple) :
    ∃ hint,
      inbound.moduleHint.map trim = some hint ∧
        isBlank hint = false ∧
          (f.entry.moduleId = hint ∨
            f.strategy = .dynamic ∧
              isModuleId hint = false ∧
                ∃ ids,
                  (services.entitled (inbound.tenant.getD "") s).1 = .ok ids ∧
                    ids.find? (fun id => ModuleId.name? id == some hint) =
                      some f.entry.moduleId) := by
  obtain ⟨-, start, middle, hrun, hstart⟩ := exists_searchBy_of_searchIn r (nodup_chain r) h
  obtain ⟨hint, hhint, hnames⟩ := names_of_searchBy r hrun hmultiple
  obtain ⟨hsent, hblank⟩ := hint_eq_some hhint
  refine ⟨hint, hsent, hblank, ?_⟩
  rcases hnames with hid | ⟨hdynamic, ⟨-, hid⟩ | hname⟩
  · exact Or.inl hid
  · exact Or.inl hid
  · rw [hstart hdynamic] at hname
    exact Or.inr ⟨hdynamic, hname⟩

/-- A control plane on which every module offers the same interface of several modules. -/
def peerSource : ModuleCache.Source Unit :=
  fun id s =>
    (.ok
      { moduleId := id
        interfaces :=
          [{ id := "peer", kind := .multiple
             endpoints := [{ pathPattern := some "/peer", methods := ["GET"] }] }] }, s)

def peerLookups : Lookups Unit where
  resolver := { mount := .ofName "mod-foo" .none, dynamic := true }
  entitled := .ofList [("diku", ["mod-foo-1.0.0", "mod-peer-2.1.0", "mod-peer-3.0.0"])]
  published := {}
  cache := { limits := .ofSettings {} }
  source := ()

/-- A request that names its module without a version. -/
def peerRequest : Inbound where
  method := "GET"
  path := "/peer"
  tenant := some "diku"
  moduleHint := some " mod-peer "

def peerFound : Found where
  strategy := .dynamic
  entry :=
    { moduleId := "mod-peer-2.1.0", location := none, interfaceId := "peer", kind := .multiple
      endpoint := { pathPattern := some "/peer", methods := ["GET"] } }

theorem multiple_only_by_name_peer :
    ∃ after,
      peerLookups.run peerSource (peerLookups.resolver.search peerRequest) =
          (.ok (some peerFound), after) ∧
        peerFound.entry.kind = .multiple ∧
          ∃ hint,
            peerRequest.moduleHint.map trim = some hint ∧
              isBlank hint = false ∧
                (peerFound.entry.moduleId = hint ∨
                  peerFound.strategy = .dynamic ∧
                    isModuleId hint = false ∧
                      ∃ ids,
                        peerLookups.entitled (peerRequest.tenant.getD "") = .ok ids ∧
                          ids.find? (fun id => ModuleId.name? id == some hint) =
                            some peerFound.entry.moduleId) := by
  have hfound :
      (peerLookups.run peerSource (peerLookups.resolver.search peerRequest)).1 =
        .ok (some peerFound) := by
    decide +kernel
  exact ⟨_, Prod.ext hfound rfl, rfl, multiple_only_by_name (Prod.ext hfound rfl) rfl⟩

end Main

end Resolve
end SidecarProxy
