import SidecarProxy.Proofs.Retry.FirstSuccess
import SidecarProxy.Proofs.Route.PublishedRuns
import SidecarProxy.Proofs.Route.Reference
import SidecarProxy.Proofs.Settings.Words
import SidecarProxy.Startup

/-!
# The first document of a start

A start fetches until the first document comes, and what that document compiles
to is what the sidecar serves from.  Main statement: a start succeeds exactly when
the policy lets a first document come and that document compiles.  Otherwise
nothing is published, and the failure tells which of the two it was.
-/

namespace SidecarProxy

open Catalog Refresh Route Text

namespace Route

section Locations

theorem get_of_ofModules
    {ds : List ModuleDescription} {t : Table}
    (h : Table.ofModules ds = .ok t)
    (key : String) :
    t.buckets.get key = ((declaredAll ds).filter (·.key? == some key)).eraseDups := by
  obtain ⟨keyed, hkeyed, rfl⟩ := addModules_eq_ok h
  exact get_of_filedPair hkeyed {} key

theorem filed_of_ofModules
    {ds : List ModuleDescription} {t : Table}
    (h : Table.ofModules ds = .ok t) :
    t.Filed := by
  obtain ⟨keyed, hkeyed, rfl⟩ := addModules_eq_ok h
  exact Table.Built.empty.filed.foldl_file (key?_of_filedPair hkeyed)

/-- Entries compiled for several modules have the locations of the modules that declare them. -/
theorem location_of_ofModules
    {ds : List ModuleDescription} {t : Table}
    (h : Table.ofModules ds = .ok t)
    {e : Entry}
    (he : e ∈ t.entries) :
    ∃ d ∈ ds, e.moduleId = trim d.moduleId ∧ e.location = d.location := by
  obtain ⟨key, hget, -⟩ := (filed_of_ofModules h).mem_get he
  rw [get_of_ofModules h, List.mem_eraseDups] at hget
  obtain ⟨d, hd, he⟩ := List.mem_flatMap.1 (List.mem_filter.1 hget).1
  obtain ⟨i, -, hi⟩ := List.mem_flatMap.1 he
  obtain ⟨endpoint, -, rfl⟩ := List.mem_map.1 hi
  exact ⟨d, hd, rfl, rfl⟩

end Locations

end Route

namespace Settings

section Compiled

/-- What a document compiles to: the ingress table for the URL of the local module, and the egress
table for the locations in the document. -/
def compiled (s : Settings) (b : Bootstrap) : Except ConfigError (Table × Table) := do
  let ingress ← Table.ofModule b.module (some s.module.url)
  let egress ← Table.ofModules b.requiredModules
  return (ingress, egress)

/-- The tables before any document. -/
def unpublished (s : Settings) : Published where
  moduleUrl := some s.module.url

variable {s : Settings} {b : Bootstrap}

theorem tables_of_compiled
    {ingress egress : Table}
    (h : s.compiled b = .ok (ingress, egress)) :
    Table.ofModule b.module (some s.module.url) = .ok ingress ∧
      Table.ofModules b.requiredModules = .ok egress := by
  obtain ⟨t, ht, h⟩ := bind_eq_ok h
  obtain ⟨t', ht', h⟩ := bind_eq_ok h
  cases h
  exact ⟨ht, ht'⟩

theorem update_of_compiled
    {ingress egress : Table}
    (h : s.compiled b = .ok (ingress, egress)) :
    s.unpublished.update (.bootstrap b) =
      s.unpublished.accepted [(.ingress, ingress), (.egress, egress)] := by
  obtain ⟨hingress, hegress⟩ := tables_of_compiled h
  simp only [Published.update, Published.compileIngress, Published.compileEgress, unpublished,
    hingress, hegress]

theorem update_of_not_compiled
    {e : ConfigError}
    (h : s.compiled b = .error e) :
    (s.unpublished.update (.bootstrap b)).outcome = .error e ∧
      (s.unpublished.update (.bootstrap b)).published = s.unpublished := by
  rcases bind_eq_error h with h | ⟨t, ht, h⟩
  · simp only [Published.update, Published.compileIngress, unpublished, h]
    exact ⟨rfl, rfl⟩
  · rcases bind_eq_error h with h | ⟨t', ht', h⟩
    · simp only [Published.update, Published.compileIngress, Published.compileEgress, unpublished,
        ht, h]
      exact ⟨rfl, rfl⟩
    · cases h

end Compiled

section Start

variable {σ τ : Type} {s : Settings} {w : Retry.Surroundings} {ask : Source σ} {source : σ}

/-- The first document that a start can fetch, with the number of the request before it. -/
def FirstDocument (s : Settings) (w : Retry.Surroundings) (ask : Source σ) (source : σ) (n : Nat)
    (b : Bootstrap) : Prop :=
  Retry.FirstSuccess (ask s.module.id) s.controlPlane.retry.policy w source n b

/-- The attempts to fetch a first document. -/
def attempts (s : Settings) (w : Retry.Surroundings) (ask : Source σ) (source : σ) :
    Retry.Run σ ControlPlane.Failure Bootstrap :=
  Retry.run s.controlPlane.retry.policy w (ask s.module.id) source

theorem start_requests
    (s : Settings) (signature : Message.Signature) (w : Retry.Surroundings) (ask : Source σ)
    (source : σ) (modules : τ) :
    (s.start signature w ask source modules).fetched.calls = (s.attempts w ask source).calls ∧
      (s.start signature w ask source modules).fetched.source =
        (s.attempts w ask source).state := by
  unfold Settings.start Settings.bootstrap fetch
  rw [← attempts]
  dsimp only
  cases (s.attempts w ask source).ending <;> exact ⟨rfl, rfl⟩

theorem start_of_compiled
    {b : Bootstrap} {ingress egress : Table}
    (hending : (s.attempts w ask source).ending = .succeeded b)
    (h : s.compiled b = .ok (ingress, egress))
    (signature : Message.Signature) (modules : τ) :
    let x := s.start signature w ask source modules
    x.sidecar = .ok (s.sidecar signature x.fetched.published modules) ∧
      x.fetched.published.ingress.table = ingress ∧ x.fetched.published.egress.table = egress := by
  intro x
  have hupdate := update_of_compiled h
  unfold unpublished at hupdate
  subst x
  unfold Settings.start Settings.bootstrap fetch
  rw [← attempts]
  simp only [hending, Event.update, hupdate]
  exact ⟨rfl, rfl, rfl⟩

theorem start_of_not_compiled
    {b : Bootstrap} {e : ConfigError}
    (hending : (s.attempts w ask source).ending = .succeeded b)
    (h : s.compiled b = .error e)
    (signature : Message.Signature) (modules : τ) :
    let x := s.start signature w ask source modules
    x.sidecar = .error (.rejected e) ∧ x.fetched.published = s.unpublished := by
  intro x
  obtain ⟨houtcome, hpublished⟩ := update_of_not_compiled h
  unfold unpublished at houtcome hpublished
  subst x
  unfold Settings.start Settings.bootstrap fetch
  rw [← attempts]
  simp only [hending, Event.update, houtcome, hpublished]
  exact ⟨rfl, rfl⟩

theorem start_of_exhausted
    {failure : Retry.Exhausted ControlPlane.Failure}
    (hending : (s.attempts w ask source).ending = .exhausted failure)
    (signature : Message.Signature) (modules : τ) :
    let x := s.start signature w ask source modules
    x.sidecar = .error (.exhausted failure) ∧ x.fetched.published = s.unpublished := by
  intro x
  subst x
  unfold Settings.start Settings.bootstrap fetch
  rw [← attempts]
  simp only [hending]
  exact ⟨rfl, rfl⟩

theorem chain_resolver
    (s : Settings) :
    s.resolver.chain =
      [.ingress, .egress] ++ (if s.routing.dynamicDiscovery then [.dynamic] else []) ++
        (if s.routing.forwardUnknown && s.routing.gatewayUrl.isSome then [.gateway] else []) := by
  unfold Resolve.Resolver.chain resolver
  cases s.routing.forwardUnknown <;> rfl

theorem location_of_compiled
    {b : Bootstrap} {ingress egress : Table}
    (h : s.compiled b = .ok (ingress, egress)) :
    (∀ e ∈ ingress.entries, e.location = some s.module.url) ∧
      ∀ e ∈ egress.entries,
        ∃ d ∈ b.requiredModules, e.moduleId = trim d.moduleId ∧ e.location = d.location := by
  obtain ⟨hingress, hegress⟩ := tables_of_compiled h
  exact ⟨location_of_ofModule hingress, fun _ => location_of_ofModules hegress⟩

end Start

section Main

variable {σ τ : Type}

/-- A start leads to a sidecar that serves from the tables of a document. -/
structure Serves (s : Settings) (signature : Message.Signature) (modules : τ) (b : Bootstrap)
    (ingress egress : Table) (x : Startup σ τ) : Prop where
  sidecar : x.sidecar = .ok (s.sidecar signature x.fetched.published modules)
  ingress_table : x.fetched.published.ingress.table = ingress
  egress_table : x.fetched.published.egress.table = egress
  ingress_location : ∀ e ∈ ingress.entries, e.location = some s.module.url
  egress_location :
    ∀ e ∈ egress.entries,
      ∃ d ∈ b.requiredModules, e.moduleId = trim d.moduleId ∧ e.location = d.location
  chain :
    (s.sidecar signature x.fetched.published modules).lookups.resolver.chain =
      [.ingress, .egress] ++ (if s.routing.dynamicDiscovery then [.dynamic] else []) ++
        (if s.routing.forwardUnknown && s.routing.gatewayUrl.isSome then [.gateway] else [])

/-- How a start ends, whatever the control plane answers. -/
structure Starts (s : Settings) (signature : Message.Signature) (w : Retry.Surroundings)
    (ask : Source σ) (source : σ) (modules : τ) (x : Startup σ τ) : Prop where
  started_iff :
    x.sidecar.isOk = true
      ↔
    ∃ n b tables, s.FirstDocument w ask source n b ∧ s.compiled b = .ok tables
  /-- Nothing is fetched behind the first document, whether it compiles or not. -/
  calls : ∀ n b, s.FirstDocument w ask source n b → x.fetched.calls = n + 1
  serves :
    ∀ n b ingress egress, s.FirstDocument w ask source n b →
      s.compiled b = .ok (ingress, egress) → s.Serves signature modules b ingress egress x
  rejected :
    ∀ n b e, s.FirstDocument w ask source n b →
      s.compiled b = .error e → x.sidecar = .error (.rejected e)
  /-- Without a first document all requests have failed, and the failure counts them. -/
  exhausted :
    (∀ n b, ¬s.FirstDocument w ask source n b) →
      ∃ failure, x.sidecar = .error (.exhausted failure) ∧
        failure.attempts = x.fetched.calls ∧
          Retry.AllFailed (ask s.module.id) s.controlPlane.retry.policy w source
            x.fetched.calls failure.last
  requests : x.fetched.source = Retry.behind (ask s.module.id) source x.fetched.calls
  unpublished : x.sidecar.isOk = false → x.fetched.published = s.unpublished

variable {s : Settings} {w : Retry.Surroundings} {ask : Source σ} {source : σ}
variable {n : Nat} {b : Bootstrap}

theorem serves_of_firstDocument
    (hfirst : s.FirstDocument w ask source n b)
    {ingress egress : Table}
    (h : s.compiled b = .ok (ingress, egress))
    (signature : Message.Signature) (modules : τ) :
    s.Serves signature modules b ingress egress (s.start signature w ask source modules) := by
  have hending := (Retry.run_of_firstSuccess hfirst).1
  obtain ⟨hsidecar, hingress, hegress⟩ :=
    start_of_compiled hending h signature modules
  obtain ⟨hmodule, hmodules⟩ := location_of_compiled h
  exact ⟨hsidecar, hingress, hegress, hmodule, hmodules, chain_resolver s⟩

theorem rejected_of_firstDocument
    (hfirst : s.FirstDocument w ask source n b)
    {e : ConfigError}
    (h : s.compiled b = .error e)
    (signature : Message.Signature) (modules : τ) :
    let x := s.start signature w ask source modules
    x.sidecar = .error (.rejected e) ∧ x.fetched.published = s.unpublished :=
  start_of_not_compiled (Retry.run_of_firstSuccess hfirst).1 h signature modules

theorem exhausted_of_no_firstDocument
    (hwords : s.InWords)
    (hclock : w.OnClock)
    (hnone : ∀ n b, ¬s.FirstDocument w ask source n b)
    (signature : Message.Signature) (modules : τ) :
    let x := s.start signature w ask source modules
    ∃ failure, x.sidecar = .error (.exhausted failure) ∧ x.fetched.published = s.unpublished ∧
      failure.attempts = x.fetched.calls ∧
        Retry.AllFailed (ask s.module.id) s.controlPlane.retry.policy w source x.fetched.calls
          failure.last := by
  intro x
  rcases Retry.run_cases hwords.controlPlane.retry.policy hclock (ask s.module.id) source with
    ⟨n, b, hfirst, -⟩ | ⟨-, failure, hending, hattempts, hfailed⟩
  · exact absurd hfirst (hnone n b)
  · obtain ⟨hsidecar, hpublished⟩ :=
      start_of_exhausted hending signature modules
    have hcalls : x.fetched.calls = _ := (start_requests s signature w ask source modules).1
    rw [hcalls]
    exact ⟨failure, hsidecar, hpublished, hattempts, hfailed⟩

/-- A start succeeds with a first document that compiles, or else it publishes nothing. -/
theorem start_cases
    (hwords : s.InWords)
    (hclock : w.OnClock)
    (ask : Source σ) (source : σ) (signature : Message.Signature) (modules : τ) :
    let x := s.start signature w ask source modules
    let Compiles := ∃ n b tables, s.FirstDocument w ask source n b ∧ s.compiled b = .ok tables
    (x.sidecar.isOk = true ∧ Compiles) ∨
      (x.sidecar.isOk = false ∧ ¬Compiles ∧ x.fetched.published = s.unpublished) := by
  intro x Compiles
  by_cases hfirst : ∃ n b, s.FirstDocument w ask source n b
  · obtain ⟨n, b, hfirst⟩ := hfirst
    cases hcompiled : s.compiled b with
    | ok tables =>
        have hsidecar := (serves_of_firstDocument hfirst hcompiled signature modules).sidecar
        exact .inl ⟨by rw [hsidecar]; rfl, n, b, tables, hfirst, hcompiled⟩
    | error e =>
        obtain ⟨hsidecar, hpublished⟩ :=
          rejected_of_firstDocument hfirst hcompiled signature modules
        refine .inr ⟨by rw [hsidecar]; rfl, ?_, hpublished⟩
        rintro ⟨n', b', tables, hfirst', hcompiled'⟩
        obtain ⟨-, rfl⟩ := hfirst.unique hfirst'
        rw [hcompiled] at hcompiled'
        cases hcompiled'
  · have hnone : ∀ n b, ¬s.FirstDocument w ask source n b := fun n b h => hfirst ⟨n, b, h⟩
    obtain ⟨failure, hsidecar, hpublished, -⟩ :=
      exhausted_of_no_firstDocument hwords hclock hnone signature modules
    refine .inr ⟨by rw [hsidecar]; rfl, ?_, hpublished⟩
    rintro ⟨n, b, -, h, -⟩
    exact hnone n b h

/-- A start is decided by the first document that the policy lets come. -/
theorem start_starts
    (hwords : s.InWords)
    (hclock : w.OnClock)
    (signature : Message.Signature) (ask : Source σ) (source : σ) (modules : τ) :
    s.Starts signature w ask source modules (s.start signature w ask source modules) where
  started_iff := by
    rcases start_cases hwords hclock ask source signature modules with
      ⟨hok, hcompiles⟩ | ⟨hfailed, hnone, -⟩
    · exact iff_of_true hok hcompiles
    · exact iff_of_false (by rw [hfailed]; exact Bool.false_ne_true) hnone
  calls n b hfirst :=
    (start_requests s signature w ask source modules).1.trans (Retry.run_of_firstSuccess hfirst).2
  serves n b ingress egress hfirst h := serves_of_firstDocument hfirst h signature modules
  rejected n b e hfirst h := (rejected_of_firstDocument hfirst h signature modules).1
  exhausted hnone := by
    obtain ⟨failure, hsidecar, -, hattempts, hfailed⟩ :=
      exhausted_of_no_firstDocument hwords hclock hnone signature modules
    exact ⟨failure, hsidecar, hattempts, hfailed⟩
  requests := by
    obtain ⟨hcalls, hstate⟩ :=
      start_requests s signature w ask source modules
    rw [hcalls, hstate]
    exact Retry.run_state _ _ _ _
  unpublished hfailed := by
    rcases start_cases hwords hclock ask source signature modules with
      ⟨hok, -⟩ | ⟨-, -, hpublished⟩
    · rw [hfailed] at hok
      cases hok
    · exact hpublished

/-- A control plane that is not available for the first two requests. -/
def flakyControlPlane : Source Nat := fun moduleId n =>
  (if n < 2 then .error (.unsuccessful ("http://control-plane/modules/" ++ moduleId) 503)
    else .ok { module := { moduleId := moduleId } },
  n + 1)

/-- Settings for a few attempts at short distances, with a gateway that is not to be used. -/
def briefSettings : Settings where
  module := { id := "mod-foo-1.0.0", name := "mod-foo" }
  controlPlane := { retry := { maxAttempts := 5, baseDelayMillis := 1, maxDelayMillis := 2 } }
  routing := { gatewayUrl := some "http://gateway:9130", dynamicDiscovery := true }

/-- Attempts that take no time. -/
def swift : Retry.Surroundings where
  elapsed _ := .zero
  draw n := n

theorem firstDocument_flakyControlPlane :
    briefSettings.FirstDocument swift flakyControlPlane 0 2
      { module := { moduleId := "mod-foo-1.0.0" } } where
  answer := rfl
  failed k hk := by
    obtain rfl | rfl : k = 0 ∨ k = 1 := by omega
    · rfl
    · rfl
  goesOn attempt hle hlt := by
    obtain rfl | rfl : attempt = 1 ∨ attempt = 2 := by omega
    · exact Retry.goesOn_iff.2 ⟨.ofMillis 1, by decide⟩
    · exact Retry.goesOn_iff.2 ⟨.ofMillis 2, by decide⟩

theorem inWords_briefSettings :
    briefSettings.InWords where
  controlPlane := ⟨by decide, by decide, by decide, by decide, by decide, by decide⟩
  cache := inWords_default.cache
  proxy := inWords_default.proxy

theorem start_starts_flakyControlPlane :
    briefSettings.InWords ∧ swift.OnClock ∧
      let x := briefSettings.start ⟨"sig-123"⟩ swift flakyControlPlane 0 ()
      x.fetched.calls = 3 ∧ x.sidecar.isOk = true ∧
        (briefSettings.sidecar ⟨"sig-123"⟩ x.fetched.published ()).lookups.resolver.chain =
          [.ingress, .egress, .dynamic] := by
  have hclock : swift.OnClock := fun _ => Nat.zero_le _
  have hstarts :=
    start_starts inWords_briefSettings hclock ⟨"sig-123"⟩ flakyControlPlane 0 ()
  have hfirst := firstDocument_flakyControlPlane
  have hcompiled : briefSettings.compiled { module := { moduleId := "mod-foo-1.0.0" } } =
      .ok (.empty, .empty) := by
    decide
  exact ⟨inWords_briefSettings, hclock, hstarts.calls 2 _ hfirst,
    hstarts.started_iff.2 ⟨2, _, _, hfirst, hcompiled⟩,
    (hstarts.serves 2 _ _ _ hfirst hcompiled).chain⟩

end Main

end Settings
end SidecarProxy
