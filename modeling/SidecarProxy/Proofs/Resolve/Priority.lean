import SidecarProxy.Proofs.Resolve.Contacts
import SidecarProxy.Proofs.Resolve.Generations

/-!
# Strategies in their order

A search tries the strategies in use in a fixed order.  Main statement: the first
one that finds an entry answers, a failure of the dynamic strategy ends the
search, and nobody is turned to for a request that the published tables resolve
or that names no module.  So further strategies change no answer of the tables.
-/

namespace SidecarProxy
namespace Resolve

open Catalog Message Route Text

section Strategies

/-- The place of a strategy in the order in which strategies are tried. -/
def Strategy.rank : Strategy → Nat
  | .ingress => 0
  | .egress => 1
  | .dynamic => 2
  | .gateway => 3

/-- Whether a strategy is in use. -/
def Resolver.Enabled (r : Resolver) : Strategy → Prop
  | .ingress => True
  | .egress => True
  | .dynamic => r.dynamic = true
  | .gateway => r.gateway ≠ none

theorem mem_chain_iff
    {r : Resolver} {k : Strategy} :
    k ∈ r.chain ↔ r.Enabled k := by
  cases k <;> simp [Resolver.chain, Resolver.Enabled, Option.isSome_iff_ne_none]

theorem pairwise_chain
    (r : Resolver) :
    r.chain.Pairwise (·.rank < ·.rank) := by
  unfold Resolver.chain
  cases r.dynamic <;> cases r.gateway <;> simp [Strategy.rank]

end Strategies

section FirstAnswer

/-- What comes of strategies that are tried one after the other: a strategy that finds nothing
leaves it to the next one. -/
def firstAnswer
    (answer : Strategy → Except Failure (Option Entry)) :
    List Strategy → Except Failure (Option Found)
  | [] => .ok none
  | k :: rest =>
    match answer k with
    | .ok (some e) => .ok (some ⟨k, e⟩)
    | .ok none => firstAnswer answer rest
    | .error e => .error e

variable {answer answer' : Strategy → Except Failure (Option Entry)} {ks : List Strategy}

theorem firstAnswer_congr
    (h : ∀ k ∈ ks, answer k = answer' k) :
    firstAnswer answer ks = firstAnswer answer' ks := by
  induction ks with
  | nil =>
      rfl
  | cons k rest ih =>
      rw [firstAnswer, firstAnswer, h k List.mem_cons_self,
        ih fun later hlater => h later (List.mem_cons_of_mem _ hlater)]

theorem firstAnswer_of_not_missed
    {k : Strategy}
    (h : answer k ≠ .ok none) :
    firstAnswer answer (k :: ks) = (answer k).map (Option.map (Found.mk k)) := by
  rw [firstAnswer]
  split
  · next hanswer => rw [hanswer]; rfl
  · next hanswer => exact absurd hanswer h
  · next hanswer => rw [hanswer]; rfl

theorem firstAnswer_eq_missed_iff :
    firstAnswer answer ks = .ok none ↔ ∀ k ∈ ks, answer k = .ok none := by
  induction ks with
  | nil =>
      simp [firstAnswer]
  | cons k rest ih =>
      rw [List.forall_mem_cons, ← ih, firstAnswer]
      split <;> simp_all

/-- An answer other than a miss is the one of some strategy, behind misses only. -/
theorem firstAnswer_eq_iff
    (hsorted : ks.Pairwise (·.rank < ·.rank))
    {result : Except Failure (Option Found)}
    (hresult : result ≠ .ok none) :
    firstAnswer answer ks = result
      ↔
    ∃ k ∈ ks, (answer k).map (Option.map (Found.mk k)) = result ∧
      ∀ earlier ∈ ks, earlier.rank < k.rank → answer earlier = .ok none := by
  induction ks with
  | nil =>
      simp [firstAnswer, hresult.symm]
  | cons k rest ih =>
      obtain ⟨hfirst, hrest⟩ := List.pairwise_cons.1 hsorted
      by_cases hmissed : answer k = .ok none
      · rw [firstAnswer, hmissed]
        refine (ih hrest).trans ⟨?_, ?_⟩
        · rintro ⟨k', hmem, hanswer, hearlier⟩
          exact ⟨k', List.mem_cons_of_mem _ hmem, hanswer,
            List.forall_mem_cons.2 ⟨fun _ => hmissed, hearlier⟩⟩
        · rintro ⟨k', hmem, hanswer, hearlier⟩
          rcases List.mem_cons.1 hmem with rfl | hmem
          · rw [hmissed] at hanswer
            exact absurd hanswer.symm hresult
          · exact ⟨k', hmem, hanswer, (List.forall_mem_cons.1 hearlier).2⟩
      · rw [firstAnswer_of_not_missed hmissed]
        constructor
        · rintro hanswer
          refine ⟨k, List.mem_cons_self, hanswer, List.forall_mem_cons.2 ⟨?_, ?_⟩⟩
          · exact fun hlt => absurd hlt (lt_irrefl _)
          · exact fun later hlater hlt => absurd hlt (hfirst later hlater).not_gt
        · rintro ⟨k', hmem, hanswer, hearlier⟩
          rcases List.mem_cons.1 hmem with rfl | hmem
          · exact hanswer
          · exact absurd (hearlier k List.mem_cons_self (hfirst k' hmem)) hmissed

end FirstAnswer

section Answers

variable {σ : Type}
variable (services : Services σ) (r : Resolver) (inbound : Inbound) (s : σ)

/-- What a strategy answers on its own. -/
def Resolver.answer (k : Strategy) : Except Failure (Option Entry) :=
  ((r.searchBy inbound k).run services s).1

@[simp] theorem answer_ingress :
    r.answer services inbound s .ingress =
      .ok (r.ingressRoute inbound (services.published s)) := rfl

@[simp] theorem answer_egress :
    r.answer services inbound s .egress = .ok (egressRoute inbound (services.published s)) := rfl

@[simp] theorem answer_gateway :
    r.answer services inbound s .gateway =
      .ok (r.gateway.map fun url => .gateway url inbound.hint) := rfl

/-- What a strategy leaves behind does not change what the ones behind it answer. -/
theorem answer_after
    {k later : Strategy}
    (h : k.rank < later.rank) :
    r.answer services inbound ((r.searchBy inbound k).run services s).2 later =
      r.answer services inbound s later := by
  cases k with
  | ingress =>
      rfl
  | egress =>
      rfl
  | dynamic =>
      cases later with
      | gateway => rfl
      | _ => exact absurd h (by decide)
  | gateway =>
      cases later <;> exact absurd h (by decide)

theorem run_searchIn_fst
    {ks : List Strategy}
    (hsorted : ks.Pairwise (·.rank < ·.rank)) :
    ((r.searchIn inbound ks).run services s).1 =
      firstAnswer (r.answer services inbound s) ks := by
  induction ks generalizing s with
  | nil =>
      rfl
  | cons k rest ih =>
      obtain ⟨hfirst, hrest⟩ := List.pairwise_cons.1 hsorted
      have hlater := ih ((r.searchBy inbound k).run services s).2 hrest
      rw [firstAnswer_congr fun later hmem =>
        answer_after services r inbound s (hfirst later hmem)] at hlater
      rw [Resolver.searchIn, run_bind, firstAnswer, Resolver.answer]
      cases hrun : (r.searchBy inbound k).run services s with
      | mk result s' =>
          rw [hrun] at hlater
          cases result with
          | error e =>
              rfl
          | ok found =>
              cases found with
              | some e =>
                  rfl
              | none =>
                  exact hlater

theorem run_search_fst :
    ((r.search inbound).run services s).1 =
      firstAnswer (r.answer services inbound s) r.chain :=
  run_searchIn_fst services r inbound s (pairwise_chain r)

end Answers

section Runs

variable {σ : Type}
variable {services : Services σ} {r : Resolver} {inbound : Inbound} {s s' : σ}
variable {k : Strategy} {rest : List Strategy}

theorem run_searchIn_of_found
    {e : Entry}
    (h : (r.searchBy inbound k).run services s = (.ok (some e), s')) :
    (r.searchIn inbound (k :: rest)).run services s = (.ok (some ⟨k, e⟩), s') := by
  rw [Resolver.searchIn, run_bind, h]
  rfl

theorem run_searchIn_of_missed
    (h : (r.searchBy inbound k).run services s = (.ok none, s')) :
    (r.searchIn inbound (k :: rest)).run services s =
      (r.searchIn inbound rest).run services s' := by
  rw [Resolver.searchIn, run_bind, h]

theorem contacts_searchIn_cons :
    (r.searchIn inbound (k :: rest)).contacts services s =
      (r.searchBy inbound k).contacts services s ++
        match (r.searchBy inbound k).run services s with
        | (.ok none, s') => (r.searchIn inbound rest).contacts services s'
        | _ => [] := by
  rw [Resolver.searchIn, contacts_bind]
  refine congrArg (_ ++ ·) ?_
  cases (r.searchBy inbound k).run services s with
  | mk result s' =>
      cases result with
      | error e =>
          rfl
      | ok found =>
          cases found <;> rfl

theorem run_ingress :
    (r.searchBy inbound .ingress).run services s =
      (.ok (r.ingressRoute inbound (services.published s)), s) := rfl

theorem run_egress :
    (r.searchBy inbound .egress).run services s =
      (.ok (egressRoute inbound (services.published s)), s) := rfl

/-- The strategies behind the published tables. -/
def Resolver.further (r : Resolver) : List Strategy :=
  (if r.dynamic then [.dynamic] else []) ++ if r.gateway.isSome then [.gateway] else []

theorem search_eq
    (r : Resolver) (inbound : Inbound) :
    r.search inbound = r.searchIn inbound (.ingress :: .egress :: r.further) := by
  simp [Resolver.search, Resolver.chain, Resolver.further]

/-- A dynamic strategy that is not in use answers as one that finds nothing. -/
theorem searchBy_of_not_dynamic
    (hdynamic : r.dynamic = false) :
    r.searchBy inbound .dynamic = pure none := by
  simp [Resolver.searchBy, hdynamic]

theorem contacts_further :
    (r.searchIn inbound r.further).contacts services s =
      (r.searchBy inbound .dynamic).contacts services s := by
  unfold Resolver.further
  cases hdynamic : r.dynamic with
  | false =>
      rw [searchBy_of_not_dynamic hdynamic, if_neg Bool.false_ne_true, List.nil_append,
        searchIn_gateway]
      rfl
  | true =>
      rw [if_pos rfl, List.singleton_append, contacts_searchIn_cons]
      split
      · rw [searchIn_gateway]
        exact List.append_nil _
      · exact List.append_nil _

theorem run_search_of_ingress
    {e : Entry}
    (h : r.ingressRoute inbound (services.published s) = some e) :
    (r.search inbound).run services s = (.ok (some ⟨.ingress, e⟩), s) := by
  rw [search_eq, run_searchIn_of_found (run_ingress.trans (by rw [h]))]

theorem run_search_of_missed
    (h : r.ingressRoute inbound (services.published s) = none) :
    (r.search inbound).run services s =
      (r.searchIn inbound (.egress :: r.further)).run services s := by
  rw [search_eq, run_searchIn_of_missed (run_ingress.trans (by rw [h]))]

theorem run_search_of_egress
    {e : Entry}
    (hmiss : r.ingressRoute inbound (services.published s) = none)
    (h : egressRoute inbound (services.published s) = some e) :
    (r.search inbound).run services s = (.ok (some ⟨.egress, e⟩), s) := by
  rw [run_search_of_missed hmiss, run_searchIn_of_found (run_egress.trans (by rw [h]))]

/-- Whether a request is in none of the published tables. -/
def Resolver.Unlisted (r : Resolver) (inbound : Inbound) (p : Published) : Prop :=
  r.ingressRoute inbound p = none ∧ egressRoute inbound p = none

/-- A request in one of the published tables turns to nobody. -/
theorem contacts_search_of_listed
    (h : ¬ r.Unlisted inbound (services.published s)) :
    (r.search inbound).contacts services s = [] := by
  rw [search_eq, contacts_searchIn_cons, run_ingress]
  cases hingress : r.ingressRoute inbound (services.published s) with
  | some e =>
      rfl
  | none =>
      cases hegress : egressRoute inbound (services.published s) with
      | some e =>
          dsimp only
          rw [contacts_searchIn_cons, run_egress, hegress]
          rfl
      | none =>
          exact absurd ⟨hingress, hegress⟩ h

theorem contacts_search_of_unlisted
    (h : r.Unlisted inbound (services.published s)) :
    (r.search inbound).contacts services s =
      (r.searchBy inbound .dynamic).contacts services s := by
  rw [search_eq, contacts_searchIn_cons, run_ingress, h.1]
  dsimp only
  rw [contacts_searchIn_cons, run_egress, h.2, ← contacts_further]
  rfl

end Runs

section Main

/-- Whether a request in none of the published tables names a module that may be asked for. -/
def Resolver.AsksFor (r : Resolver) (inbound : Inbound) (p : Published) (hint : String) : Prop :=
  r.Unlisted inbound p ∧ r.dynamic = true ∧
    ∃ raw, inbound.moduleHint = some raw ∧ isBlank raw = false ∧ trim raw = hint

/-- What the search for a route keeps to, with everything that it does besides. -/
structure TriesInOrder {σ : Type} (services : Services σ) (r : Resolver) (inbound : Inbound)
    (s : σ) : Prop where
  found_iff :
    ∀ f, ((r.search inbound).run services s).1 = .ok (some f)
        ↔
      r.Enabled f.strategy ∧ r.answer services inbound s f.strategy = .ok (some f.entry) ∧
        ∀ k, r.Enabled k → k.rank < f.strategy.rank → r.answer services inbound s k = .ok none
  missed_iff :
    ((r.search inbound).run services s).1 = .ok none
      ↔
    ∀ k, r.Enabled k → r.answer services inbound s k = .ok none
  /-- Only the dynamic strategy fails, and the gateway is not tried then. -/
  failed_iff :
    ∀ e, ((r.search inbound).run services s).1 = .error e
        ↔
      r.Unlisted inbound (services.published s) ∧ r.dynamic = true ∧
        r.answer services inbound s .dynamic = .error e
  entitlements_iff :
    ∀ tenant, .entitlements tenant ∈ (r.search inbound).contacts services s
        ↔
      ∃ hint, r.AsksFor inbound (services.published s) hint ∧ isModuleId hint = false ∧
        inbound.tenant.getD "" = tenant
  moduleTable_iff :
    ∀ id, .moduleTable id ∈ (r.search inbound).contacts services s
        ↔
      ∃ hint, r.AsksFor inbound (services.published s) hint ∧
        MeansModule services inbound s hint id
  once : ((r.search inbound).contacts services s).Nodup
  /-- A request that asks for no module leaves everything as it was. -/
  quiet :
    (∀ hint, ¬ r.AsksFor inbound (services.published s) hint) →
      ((r.search inbound).run services s).2 = s
  /-- What the published tables answer does not depend on further strategies. -/
  listed :
    ¬ r.Unlisted inbound (services.published s) →
      ∀ r' : Resolver, r'.mount = r.mount →
        (r'.search inbound).run services s = (r.search inbound).run services s
  gateway : r.gateway ≠ none → ((r.search inbound).run services s).1 ≠ .ok none

variable {σ : Type}
variable (services : Services σ) (r : Resolver) (inbound : Inbound) (s : σ)

theorem hint_eq_some_iff
    {inbound : Inbound} {hint : String} :
    inbound.hint = some hint
      ↔
    ∃ raw, inbound.moduleHint = some raw ∧ isBlank raw = false ∧ trim raw = hint := by
  constructor
  · intro h
    obtain ⟨hsent, hblank⟩ := hint_eq_some h
    obtain ⟨raw, hraw, rfl⟩ := Option.map_eq_some_iff.1 hsent
    exact ⟨raw, hraw, (isBlank_trim raw).symm.trans hblank, rfl⟩
  · rintro ⟨raw, hraw, hblank, rfl⟩
    have hne : trim raw ≠ "" := by
      intro hempty
      rw [(trim_eq_empty_iff raw).1 hempty] at hblank
      cases hblank
    simp [Inbound.hint, hraw, hne]

theorem asksFor_iff
    {p : Published} {hint : String} :
    r.AsksFor inbound p hint
      ↔
    r.Unlisted inbound p ∧ r.dynamic = true ∧ inbound.hint = some hint := by
  rw [Resolver.AsksFor, hint_eq_some_iff]

/-- A search turns to somebody only for a module that it asks for. -/
theorem mem_contacts_search_iff
    (contact : Contact) :
    contact ∈ (r.search inbound).contacts services s
      ↔
    ∃ hint, r.AsksFor inbound (services.published s) hint ∧
      ((isModuleId hint = false ∧ contact = .entitlements (inbound.tenant.getD "")) ∨
        ∃ id, MeansModule services inbound s hint id ∧ contact = .moduleTable id) := by
  simp only [asksFor_iff]
  by_cases h : r.Unlisted inbound (services.published s)
  · rw [contacts_search_of_unlisted h]
    cases hdynamic : r.dynamic with
    | false =>
        rw [searchBy_of_not_dynamic hdynamic]
        simp [Search.contacts, pure]
    | true =>
        rw [Resolver.searchBy, hdynamic, if_pos rfl]
        cases hhint : inbound.hint with
        | none =>
            simp [contacts_searchDynamic_of_no_hint services inbound s hhint]
        | some hint =>
            simp [mem_contacts_searchDynamic_iff services inbound s hhint, h]
  · simp [contacts_search_of_listed h, h]

theorem nodup_contacts_search :
    ((r.search inbound).contacts services s).Nodup := by
  by_cases h : r.Unlisted inbound (services.published s)
  · rw [contacts_search_of_unlisted h, Resolver.searchBy]
    split
    · exact nodup_contacts_searchDynamic services inbound s
    · exact List.nodup_nil
  · rw [contacts_search_of_listed h]
    exact List.nodup_nil

/-- A search that asks for no module turns to nobody, and leaves everything as it was. -/
theorem run_search_snd_of_not_asksFor
    (h : ∀ hint, ¬ r.AsksFor inbound (services.published s) hint) :
    ((r.search inbound).run services s).2 = s := by
  refine run_snd_of_contacts_eq_nil services (List.eq_nil_iff_forall_not_mem.2 ?_)
  intro contact hmem
  obtain ⟨hint, hasks, -⟩ := (mem_contacts_search_iff services r inbound s contact).1 hmem
  exact h hint hasks

theorem search_found_iff
    (f : Found) :
    ((r.search inbound).run services s).1 = .ok (some f)
      ↔
    r.Enabled f.strategy ∧ r.answer services inbound s f.strategy = .ok (some f.entry) ∧
      ∀ k, r.Enabled k → k.rank < f.strategy.rank → r.answer services inbound s k = .ok none := by
  have hentry (k : Strategy) :
      (r.answer services inbound s k).map (Option.map (Found.mk k)) = .ok (some f) ↔
        k = f.strategy ∧ r.answer services inbound s k = .ok (some f.entry) := by
    obtain ⟨strategy, entry⟩ := f
    rcases r.answer services inbound s k with _ | _ | _ <;> simp [Except.map]
  rw [run_search_fst, firstAnswer_eq_iff (pairwise_chain r) (by simp)]
  simp only [mem_chain_iff, hentry]
  constructor
  · rintro ⟨k, henabled, ⟨rfl, hanswer⟩, hearlier⟩
    exact ⟨henabled, hanswer, hearlier⟩
  · rintro ⟨henabled, hanswer, hearlier⟩
    exact ⟨f.strategy, henabled, ⟨rfl, hanswer⟩, hearlier⟩

theorem search_missed_iff :
    ((r.search inbound).run services s).1 = .ok none
      ↔
    ∀ k, r.Enabled k → r.answer services inbound s k = .ok none := by
  rw [run_search_fst, firstAnswer_eq_missed_iff]
  simp only [mem_chain_iff]

/-- The tables and the gateway do not fail. -/
theorem search_failed_iff
    (e : Failure) :
    ((r.search inbound).run services s).1 = .error e
      ↔
    r.Unlisted inbound (services.published s) ∧ r.dynamic = true ∧
      r.answer services inbound s .dynamic = .error e := by
  have herror (k : Strategy) :
      (r.answer services inbound s k).map (Option.map (Found.mk k)) = .error e ↔
        r.answer services inbound s k = .error e := by
    rcases r.answer services inbound s k with _ | _ | _ <;> simp [Except.map]
  rw [run_search_fst, firstAnswer_eq_iff (pairwise_chain r) (by simp)]
  simp only [mem_chain_iff, herror]
  constructor
  · rintro ⟨k, henabled, hanswer, hearlier⟩
    cases k with
    | dynamic =>
        have hingress := hearlier .ingress trivial (by decide)
        have hegress := hearlier .egress trivial (by decide)
        simp only [answer_ingress, answer_egress, Except.ok.injEq] at hingress hegress
        exact ⟨⟨hingress, hegress⟩, henabled, hanswer⟩
    | _ => cases hanswer
  · rintro ⟨⟨hingress, hegress⟩, hdynamic, hanswer⟩
    refine ⟨.dynamic, hdynamic, hanswer, ?_⟩
    intro k _ hlt
    cases k with
    | ingress => exact congrArg Except.ok hingress
    | egress => exact congrArg Except.ok hegress
    | _ => exact absurd hlt (by decide)

/-- What the published tables answer does not depend on further strategies. -/
theorem run_search_of_listed
    (h : ¬ r.Unlisted inbound (services.published s))
    {r' : Resolver}
    (hmount : r'.mount = r.mount) :
    (r'.search inbound).run services s = (r.search inbound).run services s := by
  have hroute : r'.ingressRoute inbound (services.published s) =
      r.ingressRoute inbound (services.published s) := by
    rw [Resolver.ingressRoute, hmount, ← Resolver.ingressRoute]
  cases hingress : r.ingressRoute inbound (services.published s) with
  | some e =>
      rw [run_search_of_ingress hingress, run_search_of_ingress (hroute.trans hingress)]
  | none =>
      cases hegress : egressRoute inbound (services.published s) with
      | some e =>
          rw [run_search_of_egress hingress hegress,
            run_search_of_egress (hroute.trans hingress) hegress]
      | none =>
          exact absurd ⟨hingress, hegress⟩ h

theorem triesInOrder :
    TriesInOrder services r inbound s where
  found_iff := search_found_iff services r inbound s
  missed_iff := search_missed_iff services r inbound s
  failed_iff := search_failed_iff services r inbound s
  entitlements_iff tenant := by
    rw [mem_contacts_search_iff]
    grind
  moduleTable_iff id := by
    rw [mem_contacts_search_iff]
    grind
  once := nodup_contacts_search services r inbound s
  quiet := run_search_snd_of_not_asksFor services r inbound s
  listed hlisted _ hmount := run_search_of_listed services r inbound s hlisted hmount
  gateway hgateway hmissed := by
    have hanswer := (search_missed_iff services r inbound s).1 hmissed .gateway hgateway
    simp [hgateway] at hanswer

/--
A search keeps to the order of the strategies, whatever it is answered from.  In
particular, one that is answered through the cache of module tables leaves the
cache and the control plane alone unless it asks for a module.
-/
theorem search_triesInOrder
    (r : Resolver) (inbound : Inbound) :
    (∀ {σ : Type} (services : Services σ) (s : σ), TriesInOrder services r inbound s) ∧
      ∀ {σ : Type} (ask : ModuleCache.Source σ) (l : Lookups σ),
        (l.run ask (r.search inbound)).2 ≠ l → ∃ hint, r.AsksFor inbound l.published hint := by
  refine ⟨fun services s => triesInOrder services r inbound s, ?_⟩
  intro σ ask l hchanged
  by_contra hasks
  have hquiet := (triesInOrder (Lookups.services l.entitled ask) r inbound l).quiet
  exact hchanged (hquiet (not_exists.1 hasks))

end Main

end Resolve
end SidecarProxy
