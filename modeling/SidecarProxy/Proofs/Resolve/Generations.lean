import SidecarProxy.Proofs.Resolve.Overlap

/-!
# Searches and generations of tables

A search that asks for no module reads the ingress table and, when it finds no
route there, the egress table.  Bootstraps may come in between, so the two
tables may be of different generations.  Main statements: what a search beside
bootstraps may come to, and when that is always what it comes to against the
tables of one generation.
-/

namespace SidecarProxy
namespace Resolve

open Catalog Message Route

section Alone

variable {r : Resolver} {inbound : Inbound}

/-- The route of a request among the published ingress routes. -/
def Resolver.ingressRoute
    (r : Resolver) (inbound : Inbound) (p : Published) : Option Entry :=
  p.ingress.table.lookup (queryAt inbound (r.mount.lookupPath inbound.path))

/-- The route of a request among the published egress routes. -/
def egressRoute
    (inbound : Inbound) (p : Published) : Option Entry :=
  p.egress.table.lookup (Resolver.queryAt inbound inbound.path)

/-- What a search comes to that reads these two routes. -/
def Resolver.found
    (r : Resolver) (inbound : Inbound) : Option Entry → Option Entry → Option Found
  | some e, _ => some ⟨.ingress, e⟩
  | none, some e => some ⟨.egress, e⟩
  | none, none => r.gateway.map fun url => ⟨.gateway, .gateway url inbound.hint⟩

/-- How a search goes on behind the ingress table. -/
def Resolver.rest
    (r : Resolver) (inbound : Inbound) : Option Entry → Search (Option Found)
  | some e => .ended (.ok (some ⟨.ingress, e⟩))
  | none =>
    .read .egress fun t =>
      .ended (.ok (r.found inbound none (t.lookup (queryAt inbound inbound.path))))

/-- Behind both tables there is only the gateway, if there is one. -/
theorem searchIn_gateway
    (r : Resolver) (inbound : Inbound) :
    r.searchIn inbound (if r.gateway.isSome then [.gateway] else []) =
      .ended (.ok (r.found inbound none none)) := by
  cases hgateway : r.gateway with
  | none =>
      rw [Resolver.found, hgateway]
      rfl
  | some url =>
      rw [Resolver.found, hgateway, Option.isSome_some, if_pos rfl, Resolver.searchIn,
        Resolver.searchBy, hgateway]
      rfl

/-- Without modules to ask for, a search reads one table after the other. -/
theorem search_of_static
    (hstatic : r.dynamic = false) (inbound : Inbound) :
    r.search inbound =
      .read .ingress fun t =>
        r.rest inbound (t.lookup (Resolver.queryAt inbound (r.mount.lookupPath inbound.path))) := by
  have hchain : r.chain =
      .ingress :: .egress :: (if r.gateway.isSome then [.gateway] else []) := by
    simp [Resolver.chain, hstatic]
  rw [Resolver.search, hchain]
  refine congrArg (Search.read .ingress) (funext fun t => ?_)
  change Search.bind (.ended (.ok (t.lookup _))) _ = _
  rw [Search.bind]
  cases t.lookup (Resolver.queryAt inbound (r.mount.lookupPath inbound.path)) with
  | some e =>
      rfl
  | none =>
      refine congrArg (Search.read .egress) (funext fun t => ?_)
      change Search.bind (.ended (.ok (t.lookup _))) _ = _
      rw [Search.bind]
      cases t.lookup (Resolver.queryAt inbound inbound.path) with
      | some e =>
          rfl
      | none =>
          exact searchIn_gateway r inbound

theorem found_eq_iff
    (r : Resolver) (inbound : Inbound) (e e₁ e₂ : Option Entry) :
    r.found inbound none e = r.found inbound e₁ e₂ ↔ e₁ = none ∧ e₂ = e := by
  cases e₁ <;> cases e₂ <;> cases e <;> cases hgateway : r.gateway <;>
    simp [Resolver.found, hgateway, eq_comm]

theorem found_eq_none_iff
    (r : Resolver) (inbound : Inbound) (e₁ e₂ : Option Entry) :
    r.found inbound e₁ e₂ = none ↔ r.gateway = none ∧ e₁ = none ∧ e₂ = none := by
  cases e₁ <;> cases e₂ <;> simp [Resolver.found]

/-- What a search comes to that nothing disturbs. -/
theorem advance_search
    (hstatic : r.dynamic = false)
    (entitled : Entitlements) (inbound : Inbound) (p : Published) :
    ((r.search inbound).advance p entitled).result? =
      some (.ok (r.found inbound (r.ingressRoute inbound p) (egressRoute inbound p))) := by
  rw [search_of_static hstatic, Search.advance]
  change (Search.advance p entitled (r.rest inbound (r.ingressRoute inbound p))).result? = _
  cases r.ingressRoute inbound p <;> rfl

end Alone

section Mixed

variable {r : Resolver} {inbound : Inbound} {p : Published} {bs : List Bootstrap}

/-- What a search comes to with an ingress and an egress table of these generations. -/
def Resolver.mixed
    (r : Resolver) (inbound : Inbound) (p : Published) (bs : List Bootstrap) (i j : Nat) :
    Option Found :=
  r.found inbound (r.ingressRoute inbound (generation p bs i))
    (egressRoute inbound (generation p bs j))

/-- Generations of which a search may read the ingress and the egress table. -/
def MayMeet
    (bs : List Bootstrap) (i j : Nat) : Prop :=
  i ≤ bs.length ∧ j ≤ bs.length ∧ i ≤ j + 1

/-- How far a search has come when the published egress table is of some generation. -/
inductive Progress
    (r : Resolver) (inbound : Inbound) (p : Published) (bs : List Bootstrap) (now : Nat) :
    Search (Option Found) → Prop
  | unread :
      Progress r inbound p bs now (r.search inbound)
  | missed
      {i : Nat}
      (hi : i ≤ bs.length)
      (hnow : i ≤ now + 1)
      (hmiss : r.ingressRoute inbound (generation p bs i) = none) :
      Progress r inbound p bs now (r.rest inbound none)
  | ended
      {i j : Nat}
      (hmeet : MayMeet bs i j) :
      Progress r inbound p bs now (.ended (.ok (r.mixed inbound p bs i j)))

theorem Progress.later
    {now later : Nat} {search : Search (Option Found)}
    (h : Progress r inbound p bs now search)
    (hle : now ≤ later) :
    Progress r inbound p bs later search := by
  cases h with
  | unread => exact .unread
  | missed hi hnow hmiss => exact .missed hi (by omega) hmiss
  | ended hmeet => exact .ended hmeet

variable {o o' : Overlap} {i j : Nat}

/-- A search goes on with the tables that are published. -/
theorem progress_read
    (hstatic : r.dynamic = false)
    (hstage : o.Stage p bs i j)
    (h : Progress r inbound p bs j o.search)
    (hturn : o.turn? .read = some o') :
    o'.Stage p bs i j ∧ Progress r inbound p bs j o'.search := by
  obtain ⟨hstage', d, next, hsearch, hsearch'⟩ := stage_read hstage hturn
  refine ⟨hstage', ?_⟩
  obtain ⟨hi, hj, hle⟩ := hstage.bounds
  obtain ⟨hingress, hegress⟩ := hstage.published
  rw [hsearch] at h
  rw [hsearch']
  generalize hbefore : Search.read d next = before at h
  cases h with
  | unread =>
      rw [search_of_static hstatic] at hbefore
      cases hbefore
      change Progress r inbound p bs j (r.rest inbound (r.ingressRoute inbound o.published))
      have hroute : r.ingressRoute inbound o.published =
          r.ingressRoute inbound (generation p bs i) := by
        rw [Resolver.ingressRoute, hingress, ← Resolver.ingressRoute]
      rw [hroute]
      cases hfound : r.ingressRoute inbound (generation p bs i) with
      | none =>
          exact .missed hi hle hfound
      | some e =>
          have hended : r.rest inbound (some e) = .ended (.ok (r.mixed inbound p bs i i)) := by
            rw [Resolver.mixed, hfound]
            rfl
          rw [hended]
          exact .ended ⟨hi, hi, by omega⟩
  | @missed k hk hnow hmiss =>
      cases hbefore
      have hended : r.mixed inbound p bs k j =
          r.found inbound none (egressRoute inbound o.published) := by
        rw [Resolver.mixed, hmiss, egressRoute, egressRoute, hegress]
      have hafter : Progress r inbound p bs j (.ended (.ok (r.mixed inbound p bs k j))) :=
        .ended ⟨hk, hj, hnow⟩
      rwa [hended] at hafter
  | ended hmeet =>
      cases hbefore

theorem progress_turn
    (hstatic : r.dynamic = false)
    (hstage : o.Stage p bs i j)
    (h : Progress r inbound p bs j o.search)
    {turn : Turn}
    (hturn : o.turn? turn = some o') :
    ∃ i' j', o'.Stage p bs i' j' ∧ Progress r inbound p bs j' o'.search := by
  cases turn with
  | compile =>
      obtain ⟨hsearch, i', j', -, hj, hstage'⟩ := stage_compile hstage hturn
      exact ⟨i', j', hstage', hsearch ▸ h.later hj⟩
  | publish =>
      obtain ⟨hsearch, i', j', -, hj, hstage'⟩ := stage_publish hstage hturn
      exact ⟨i', j', hstage', hsearch ▸ h.later hj⟩
  | read =>
      obtain ⟨hstage', h'⟩ := progress_read hstatic hstage h hturn
      exact ⟨i, j, hstage', h'⟩

theorem progress_run?
    (hstatic : r.dynamic = false)
    (hstage : o.Stage p bs i j)
    (h : Progress r inbound p bs j o.search)
    {turns : List Turn}
    (hrun : o.run? turns = some o') :
    ∃ i' j', o'.Stage p bs i' j' ∧ Progress r inbound p bs j' o'.search :=
  runOf?_keeps (P := fun o => ∃ i j, o.Stage p bs i j ∧ Progress r inbound p bs j o.search)
    (fun _ _ _ _ ⟨_, _, hstage, h⟩ hturn => progress_turn hstatic hstage h hturn)
    ⟨i, j, hstage, h⟩ hrun

/-- What a search may come to beside bootstraps. -/
def Resolver.Reaches
    (r : Resolver) (inbound : Inbound) (p : Published) (bs : List Bootstrap)
    (result : Except Failure (Option Found)) : Prop :=
  ∃ turns o,
    (Overlap.between p bs 0 (r.search inbound)).run? turns = some o ∧
      o.search.result? = some result

theorem mixed_of_reaches
    (hstatic : r.dynamic = false)
    {result : Except Failure (Option Found)}
    (h : r.Reaches inbound p bs result) :
    ∃ i j, MayMeet bs i j ∧ result = .ok (r.mixed inbound p bs i j) := by
  obtain ⟨turns, o, hrun, hresult⟩ := h
  obtain ⟨-, j, -, hprogress⟩ :=
    progress_run? hstatic (stage_between (Nat.zero_le _) (r.search inbound)) .unread hrun
  generalize o.search = search at hprogress hresult
  cases hprogress with
  | unread =>
      rw [search_of_static hstatic] at hresult
      cases hresult
  | missed =>
      cases hresult
  | ended hmeet =>
      cases hresult
      exact ⟨_, _, hmeet, rfl⟩

/-- Behind any turns, a search that is not yet read may read both tables at once. -/
theorem exists_run?_ended
    (hstatic : r.dynamic = false)
    (hstage : o.Stage p bs i j)
    (hsearch : o.search = r.search inbound) :
    ∃ turns o', o.run? turns = some o' ∧
      o'.search = .ended (.ok (r.mixed inbound p bs i j)) := by
  obtain ⟨hingress, hegress⟩ := hstage.published
  have hread : o.turn? .read =
      some { o with search := r.rest inbound (r.ingressRoute inbound (generation p bs i)) } := by
    rw [Overlap.turn?, hsearch, search_of_static hstatic]
    dsimp only
    rw [Published.snapshot, hingress, ← Resolver.ingressRoute]
  cases hfound : r.ingressRoute inbound (generation p bs i) with
  | some e =>
      refine ⟨[.read], _, (bind_pure _).trans hread, ?_⟩
      rw [Resolver.mixed, hfound]
      rfl
  | none =>
      refine ⟨[.read, .read], { o with search := .ended (.ok (r.mixed inbound p bs i j)) }, ?_, rfl⟩
      rw [Overlap.run?, runOf?_cons, hread, hfound]
      change some { o with search := .ended (.ok (r.found inbound none
        (egressRoute inbound o.published))) } = _
      rw [Resolver.mixed, hfound, egressRoute, egressRoute, hegress]

theorem reaches_of_run?
    {front back : List Turn} {result : Except Failure (Option Found)}
    (hfront : (Overlap.between p bs 0 (r.search inbound)).run? front = some o)
    (hback : o.run? back = some o')
    (hended : o'.search = .ended result) :
    r.Reaches inbound p bs result := by
  refine ⟨front ++ back, o', ?_, ?_⟩
  · rw [run?_append, hfront, Option.bind_some, hback]
  · rw [hended]
    rfl

/-- A search that missed among the ingress routes may be held up for any number of bootstraps. -/
theorem reaches_of_le
    (hstatic : r.dynamic = false)
    (hle : i ≤ j)
    (hj : j ≤ bs.length) :
    r.Reaches inbound p bs (.ok (r.mixed inbound p bs i j)) := by
  obtain ⟨front, hfront⟩ :=
    exists_run?_between (p := p) (Nat.zero_le i) (hle.trans hj) (r.search inbound)
  have hstage := stage_between (p := p) (hle.trans hj) (r.search inbound)
  cases hfound : r.ingressRoute inbound (generation p bs i) with
  | some e =>
      obtain ⟨back, o', hback, hended⟩ := exists_run?_ended hstatic hstage rfl
      have hsame : r.mixed inbound p bs i j = r.mixed inbound p bs i i := by
        simp only [Resolver.mixed, hfound, Resolver.found]
      rw [hsame]
      exact reaches_of_run? hfront hback hended
  | none =>
      obtain ⟨wait, hwait⟩ := exists_run?_between (p := p) hle hj (r.rest inbound none)
      have hread : (Overlap.between p bs i (r.search inbound)).run? [.read] =
          some (Overlap.between p bs i (r.rest inbound none)) := by
        rw [Overlap.run?, runOf?_cons, Overlap.turn?, Overlap.between,
          search_of_static hstatic, ← hfound]
        rfl
      have hlast : (Overlap.between p bs j (r.rest inbound none)).run? [.read] =
          some (Overlap.between p bs j (.ended (.ok (r.mixed inbound p bs i j)))) := by
        rw [Resolver.mixed, hfound]
        rfl
      have hback : (Overlap.between p bs i (r.search inbound)).run? ([.read] ++ (wait ++ [.read])) =
          some (Overlap.between p bs j (.ended (.ok (r.mixed inbound p bs i j)))) := by
        rw [run?_append, hread, Option.bind_some, run?_append, hwait, Option.bind_some, hlast]
      exact reaches_of_run? hfront hback rfl

/-- A search may come in between the two tables of a bootstrap. -/
theorem reaches_of_succ
    (hstatic : r.dynamic = false)
    (hj : j < bs.length) :
    r.Reaches inbound p bs (.ok (r.mixed inbound p bs (j + 1) j)) := by
  obtain ⟨front, hfront⟩ :=
    exists_run?_between (p := p) (Nat.zero_le j) hj.le (r.search inbound)
  rcases run?_bootstrap (p := p) hj (r.search inbound) with ⟨hsame, -⟩ | ⟨o, ho, hsearch, hstage, -⟩
  · rw [Resolver.mixed, hsame]
    exact reaches_of_le hstatic le_rfl hj.le
  · obtain ⟨back, o', hback, hended⟩ := exists_run?_ended hstatic hstage hsearch
    have hwhole : (Overlap.between p bs j (r.search inbound)).run?
        ([.compile, .publish] ++ back) = some o' := by
      rw [run?_append, ho, Option.bind_some, hback]
    exact reaches_of_run? hfront hwhole hended

/-- A search comes to whatever two generations that may meet come to, and to nothing else. -/
theorem reaches_iff
    (hstatic : r.dynamic = false)
    (result : Except Failure (Option Found)) :
    r.Reaches inbound p bs result ↔
      ∃ i j, MayMeet bs i j ∧ result = .ok (r.mixed inbound p bs i j) := by
  refine ⟨mixed_of_reaches hstatic, ?_⟩
  rintro ⟨i, j, ⟨hi, hj, hle⟩, rfl⟩
  rcases Nat.lt_or_ge j i with hlt | hge
  · obtain rfl : i = j + 1 := by omega
    exact reaches_of_succ hstatic hi
  · exact reaches_of_le hstatic hge hj

end Mixed

section Main

/--
Whether a search beside bootstraps comes only to what it comes to when it runs
alone before, between or after them.
-/
def Resolver.Unmixed
    (r : Resolver) (entitled : Entitlements) (inbound : Inbound)
    (p : Published) (bs : List Bootstrap) : Prop :=
  ∀ result, r.Reaches inbound p bs result →
    ∃ k ≤ bs.length,
      ((r.search inbound).advance (generation p bs k) entitled).result? = some result

/--
A search that misses among the ingress routes of one generation may go on with
the egress routes of another one, which had an ingress route for it.  It is
answered as if it ran alone exactly when some generation without an ingress
route always has the same egress route.  It finds nothing whenever two
generations that may meet have no route on the side on which it reads them.
-/
theorem unmixed_iff
    {r : Resolver} (hstatic : r.dynamic = false)
    (entitled : Entitlements) (inbound : Inbound) (p : Published) (bs : List Bootstrap) :
    (r.Unmixed entitled inbound p bs ↔
      ∀ i j, MayMeet bs i j →
        r.ingressRoute inbound (generation p bs i) = none →
          r.ingressRoute inbound (generation p bs j) ≠ none →
            ∃ k ≤ bs.length, r.ingressRoute inbound (generation p bs k) = none ∧
              egressRoute inbound (generation p bs k) =
                egressRoute inbound (generation p bs j)) ∧
    (r.Reaches inbound p bs (.ok none) ↔
      r.gateway = none ∧
        ∃ i j, MayMeet bs i j ∧ r.ingressRoute inbound (generation p bs i) = none ∧
          egressRoute inbound (generation p bs j) = none) := by
  simp only [Resolver.Unmixed, reaches_iff hstatic, advance_search hstatic, Option.some.injEq,
    Except.ok.injEq]
  refine ⟨⟨?_, ?_⟩, ?_⟩
  · intro hunmixed i j hmeet hmiss _
    obtain ⟨k, hk, hsame⟩ := hunmixed _ ⟨i, j, hmeet, rfl⟩
    rw [Except.ok.injEq, Resolver.mixed, hmiss] at hsame
    exact ⟨k, hk, (found_eq_iff r inbound _ _ _).1 hsame.symm⟩
  · rintro hcond result ⟨i, j, hmeet, rfl⟩
    cases hi : r.ingressRoute inbound (generation p bs i) with
    | some e =>
        refine ⟨i, hmeet.1, ?_⟩
        simp only [Resolver.mixed, hi, Resolver.found]
    | none =>
        by_cases hj : r.ingressRoute inbound (generation p bs j) = none
        · refine ⟨j, hmeet.2.1, ?_⟩
          rw [Resolver.mixed, hi, hj]
        · obtain ⟨k, hk, hmiss, hroute⟩ := hcond i j hmeet hi hj
          refine ⟨k, hk, ?_⟩
          rw [Resolver.mixed, hi, hmiss, hroute]
  · simp only [Resolver.mixed, eq_comm (a := none), found_eq_none_iff]
    grind

def entitiesInterface : Interface where
  id := "entities"
  endpoints := [{ pathPattern := some "/entities/{id}", methods := ["GET"] }]

/-- A module that calls another one for its entities. -/
def callingBootstrap : Bootstrap where
  module := { moduleId := "mod-foo-1.0.0" }
  requiredModules := [{ moduleId := "mod-bar-1.0.0", interfaces := [entitiesInterface] }]

/-- The next version of the module, which has the entities itself. -/
def ownBootstrap : Bootstrap where
  module := { moduleId := "mod-foo-1.1.0", interfaces := [entitiesInterface] }

def callingTables : Published :=
  (({} : Published).update (.bootstrap callingBootstrap)).published

def plainResolver : Resolver where
  mount := .ofName "mod-foo" .none

def entityRequest : Inbound where
  method := "GET"
  path := "/entities/1"

def entityEntry
    (moduleId : String) : Entry where
  moduleId := moduleId
  location := none
  interfaceId := "entities"
  kind := .regular
  endpoint := { pathPattern := some "/entities/{id}", methods := ["GET"] }

/-- The request for an entity may find nothing while the entities move to another module. -/
theorem unmixed_iff_moving :
    plainResolver.dynamic = false ∧
      ¬ plainResolver.Unmixed (.ofList []) entityRequest callingTables [ownBootstrap] ∧
      plainResolver.Reaches entityRequest callingTables [ownBootstrap] (.ok none) := by
  have hmeet : MayMeet [ownBootstrap] 0 1 := ⟨by decide, by decide, by decide⟩
  have hmiss : plainResolver.ingressRoute entityRequest
      (generation callingTables [ownBootstrap] 0) = none := by
    decide +kernel
  have hnone : egressRoute entityRequest (generation callingTables [ownBootstrap] 1) = none := by
    decide +kernel
  obtain ⟨hunmixed, hreaches⟩ := unmixed_iff (r := plainResolver) rfl (.ofList []) entityRequest
    callingTables [ownBootstrap]
  refine ⟨rfl, ?_, hreaches.2 ⟨rfl, 0, 1, hmeet, hmiss, hnone⟩⟩
  rw [hunmixed]
  intro h
  obtain ⟨k, hk, hbefore, hsame⟩ := h 0 1 hmeet hmiss (by decide +kernel)
  revert hbefore hsame
  revert k
  decide +kernel

/--
Alone, the request finds the route to the other module before the bootstrap, and
the one to the local module behind it.  With the bootstrap between its two
reads, it finds nothing.
-/
theorem nothing_found_while_moving :
    ((plainResolver.search entityRequest).advance callingTables (.ofList [])).result? =
        some (.ok (some ⟨.egress, entityEntry "mod-bar-1.0.0"⟩)) ∧
      ((plainResolver.search entityRequest).advance
          (callingTables.update (.bootstrap ownBootstrap)).published (.ofList [])).result? =
        some (.ok (some ⟨.ingress, entityEntry "mod-foo-1.1.0"⟩)) ∧
      ((Overlap.between callingTables [ownBootstrap] 0
          (plainResolver.search entityRequest)).run?
            [.read, .compile, .publish, .publish, .read]).bind (·.search.result?) =
        some (.ok none) := by
  refine ⟨?_, ?_, ?_⟩ <;> decide +kernel

end Main

end Resolve
end SidecarProxy
