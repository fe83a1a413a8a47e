import SidecarProxy.Dispatch.Sidecar
import SidecarProxy.Proofs.Dispatch.Delivery
import SidecarProxy.Proofs.Dispatch.MountedPaths
import SidecarProxy.Proofs.Exchange.HeaderBoundary

/-!
# What a dispatched request leads to

The route of a request is searched for once, and what is found decides about
everything that follows.  Main statements: a request is sent exactly when its
route has a location that can be dialled and there is room for it, then once and
to the URL that its route leads to, and otherwise the caller is told why; and a
request from outside is dispatched as it is, unless it asks for no path.
-/

namespace SidecarProxy
namespace Dispatch

open Exchange Message Resolve Route Text Uri

section Joined

variable {location : String} {place uri : Uri} {r : Inbound}
variable {scheme authority target path fragment : List Char} {query : Option (List Char)}

theorem notMem_path_of_legal
    (h : uri.Legal) :
    '?' ∉ uri.path.toList ∧ '#' ∉ uri.path.toList :=
  ⟨notMem_of_illegal (by decide) h.path_legal, notMem_of_illegal (by decide) h.path_legal⟩

theorem legal_of_parseLocation
    (h : parseLocation location = .ok place) :
    place.Legal :=
  legal_of_parse ((parseLocation_eq_ok_iff location place).1 h).1

theorem length_le_of_parseLocation
    (h : Place location place scheme authority target path query fragment)
    {back : String}
    (hback : back.toList.head? = some '/')
    (huri : parseLocation (destinationUrl location back) = .ok uri) :
    (utf8 (destinationUrl location back)).length ≤ maxLength := by
  have hread := ((parseLocation_eq_ok_iff _ uri).1 huri).1
  rw [(h.written.destinationUrl h.authority_ne hback).ofChars_eq] at hread
  split at hread
  · cases hread
  · next hshort =>
    exact Nat.le_of_not_gt hshort

/-- A location and a path of which neither starts a query or a fragment. -/
def Unbroken (location path : String) : Prop :=
  ('?' ∉ location.toList ∧ '#' ∉ location.toList) ∧ '?' ∉ path.toList ∧ '#' ∉ path.toList

/-- A query that can be read has no hash sign. -/
def CleanQuery (r : Inbound) : Prop :=
  ∀ q, r.query = some q → ∀ c ∈ q.toList, isQueryChar c = true

theorem hash_notMem_withQuery
    (hpath : '#' ∉ r.path.toList)
    (hquery : CleanQuery r) :
    '#' ∉ (r.withQuery r.path).toList := by
  rw [toList_withQuery, List.mem_append]
  rintro (hmem | hmem)
  · exact hpath hmem
  · refine hash_notMem_queryText ?_ hmem
    intro q hq
    obtain ⟨text, htext, rfl⟩ := Option.map_eq_some_iff.1 hq
    exact hquery text htext

theorem head_withQuery_of_rooted
    (hrooted : r.path.toList.head? = some '/') :
    (r.withQuery r.path).toList.head? = some '/' := by
  rw [toList_withQuery, List.head?_append, hrooted, Option.some_or]

/-- A path that was read behind a location that is a path alone is legal. -/
theorem Place.received
    (h : Place location place scheme authority target path none [])
    (hrooted : r.path.toList.head? = some '/')
    (hpath : '?' ∉ r.path.toList ∧ '#' ∉ r.path.toList)
    (hquery : CleanQuery r)
    (hlength : (utf8 (destinationUrl location (r.withQuery r.path))).length ≤ maxLength)
    (huri : parseLocation (destinationUrl location (r.withQuery r.path)) = .ok uri) :
    Received r where
  rooted := hrooted
  path_legal c hc := by
    have hback := head_withQuery_of_rooted hrooted
    obtain ⟨parts, hparts, -⟩ := (h.parseLocation_destinationUrl_iff hback hlength uri).1 huri
    have htarget : target = path := by
      simpa [queryText] using h.parts.text_eq
    have hin : ∀ d ∈ withoutSlashes target ++ r.path.toList, inPath d = true := by
      intro d hd
      rcases List.mem_append.1 hd with hd | hd
      · exact inPath_of_isPathChar
          (h.parts.path_legal d (htarget ▸ (withoutSlashes_isPrefix target).subset hd))
      · simp only [inPath, Bool.and_eq_true, bne_iff_ne]
        exact ⟨fun heq => hpath.1 (heq ▸ hd), fun heq => hpath.2 (heq ▸ hd)⟩
    have hlegal := ((readTarget_eq_ok_iff _).1 ⟨parts, hparts⟩).1
    rw [toList_withQuery, ← List.append_assoc, List.takeWhile_append_of_pos hin] at hlegal
    exact hlegal c (List.mem_append_left _ (List.mem_append_right _ hc))
  query_legal := hquery

/--
A request that is sent below a location goes to the path and the query that it
names there exactly when neither the location nor its path breaks off a query or
a fragment, or else when it asks for no more than the location itself.
-/
theorem delivered_iff
    (hplace : parseLocation location = .ok place)
    (hrooted : r.path.toList.head? = some '/')
    (hquery : CleanQuery r)
    (huri : parseLocation (destinationUrl location (r.withQuery r.path)) = .ok uri) :
    Delivered place r uri
      ↔
    Unbroken location r.path ∨
      ('#' ∈ location.toList ∧
        place.path.toList = withoutSlashes place.path.toList ++ r.path.toList ∧
          place.query = r.query) := by
  have hread := notMem_path_of_legal (legal_of_parseLocation huri)
  have hown := notMem_path_of_legal (legal_of_parseLocation hplace)
  obtain ⟨scheme, authority, target, path, query, fragment, h⟩ := exists_place hplace
  have hback := head_withQuery_of_rooted hrooted
  have hlength := length_le_of_parseLocation h hback huri
  by_cases hpath : '?' ∉ r.path.toList ∧ '#' ∉ r.path.toList
  · by_cases hfragment : fragment = []
    · subst hfragment
      have hhash : '#' ∉ location.toList := fun hmem => h.hash_mem_iff.1 hmem rfl
      cases query with
      | none =>
          have hquestion : '?' ∉ location.toList := fun hmem => h.question_mem_iff.1 hmem rfl
          have hreceived := h.received hrooted hpath hquery hlength huri
          obtain ⟨uri', huri', hdelivered⟩ := h.arrives hreceived hlength
          rw [huri] at huri'
          cases huri'
          exact iff_of_true hdelivered (Or.inl ⟨⟨hquestion, hhash⟩, hpath⟩)
      | some q =>
          have hquestion : '?' ∈ location.toList := h.question_mem_iff.2 (by simp)
          rw [h.eq_of_parseLocation_of_query hback (hash_notMem_withQuery hpath.2 hquery) hlength
            huri]
          refine iff_of_false not_delivered_of_query ?_
          rintro (⟨⟨hno, -⟩, -⟩ | ⟨hmem, -⟩)
          · exact hno hquestion
          · exact hhash hmem
    · have hhash : '#' ∈ location.toList := h.hash_mem_iff.2 hfragment
      obtain rfl := (h.parseLocation_iff_of_fragment hfragment hback hlength uri).1 huri
      constructor
      · exact fun hdelivered => Or.inr ⟨hhash, hdelivered.path_eq, hdelivered.query_eq⟩
      · rintro (⟨⟨-, hno⟩, -⟩ | ⟨-, hsame, hquery⟩)
        · exact absurd hhash hno
        · exact ⟨rfl, rfl, hsame, hquery⟩
  -- No path that is read has a question mark or a hash sign.
  · have hnot {u : Uri} (hu : '?' ∉ u.path.toList ∧ '#' ∉ u.path.toList) :
        u.path.toList ≠ withoutSlashes place.path.toList ++ r.path.toList := by
      intro hsame
      rw [hsame] at hu
      exact hpath ⟨fun hmem => hu.1 (List.mem_append_right _ hmem),
        fun hmem => hu.2 (List.mem_append_right _ hmem)⟩
    refine iff_of_false (fun hdelivered => hnot hread hdelivered.path_eq) ?_
    rintro (⟨-, hclean⟩ | ⟨-, hsame, -⟩)
    · exact hpath hclean
    · exact hnot hown hsame

end Joined

section Calls

variable {σ : Type}
variable (s : Sidecar σ) (ask : ModuleCache.Source σ) (target : Target) (draw : Nat) (r : Request)

/-- What routing looks at in a request. -/
def Sidecar.inbound : Inbound :=
  Inbound.ofParts r.method r.uri r.headers s.forwarder.signature

/-- What the search for the route of a request comes to. -/
def Sidecar.searched : Except Resolve.Failure (Option Found) :=
  (s.lookups.run ask (s.lookups.resolver.search (s.inbound r))).1

/-- The request with the path that its route sends on. -/
def Sidecar.rewritten (direction : Direction) : Inbound :=
  { s.inbound r with path := sentPath s.lookups.resolver.mount direction (s.inbound r).path }

/-- A route was found, and it leads to a URL that can be dialled. -/
structure Sidecar.LeadsTo (found : Found) (location : String) (uri : Uri) : Prop where
  searched : s.searched ask r = .ok (some found)
  located : found.entry.location = some location
  dialled :
    parseLocation (destinationUrl location
      ((s.rewritten r found.direction).withQuery (s.rewritten r found.direction).path)) = .ok uri

/-- Whether there is room for the fields and the body of a request. -/
def Sidecar.Fits (direction : Direction) (uri : Uri) : Prop :=
  HasRoom direction (r.chain draw uri) r.headers ∧ (s.forwarder.transfer? r.body).isSome = true

/-- The requests that were sent. -/
def Served.calls (served : Served) : List Sent :=
  served.exchanged.toList.flatMap (·.sent)

/-- What a caller is told whose request leads nowhere. -/
def statusOfUncalled : Except Resolve.Failure (Option Found) → Nat
  | .ok none => 404
  | .error (.unknownName ..) => 404
  | .error .blankHint => 400
  | .error (.controlPlane _) => 502
  | .error (.entitlements _) => 502
  | .ok (some found) => if found.entry.location = none then 502 else 500

def Served.status? (served : Served) : Option Nat :=
  served.reply.map (·.status)

variable {s ask target draw r}

theorem dispatch_fst :
    (s.dispatch ask target draw r).1 =
      s.conclude target draw r (s.inbound r) (s.searched ask r) := rfl

/-- A request whose route leads to a URL is forwarded there. -/
theorem dispatch_of_leadsTo
    (target : Target) (draw : Nat)
    {found : Found} {location : String} {uri : Uri}
    (h : s.LeadsTo ask r found location uri) :
    ∃ url, parseLocation url = .ok uri ∧
      (s.dispatch ask target draw r).1 =
        .ofExchanged (s.forwarder.forward target draw r url found.direction
          found.entry.moduleId) := by
  refine ⟨_, h.dialled, ?_⟩
  rw [dispatch_fst, h.searched, Sidecar.conclude, Sidecar.handOn, destination, h.located]
  rfl

theorem calls_ofExchanged
    (x : Exchanged) :
    (Served.ofExchanged x).calls = x.sent := by
  simp [Served.calls, Served.ofExchanged]

theorem calls_of_fits
    (target : Target) (draw : Nat)
    {found : Found} {location : String} {uri : Uri}
    (h : s.LeadsTo ask r found location uri)
    (hfits : s.Fits draw r found.direction uri) :
    ∃ sent, (s.dispatch ask target draw r).1.calls = [sent] ∧
      sent.method = r.method ∧ sent.destination = uri := by
  obtain ⟨url, hurl, hserved⟩ := dispatch_of_leadsTo target draw h
  obtain ⟨body, hbody⟩ := Option.isSome_iff_exists.1 hfits.2
  rw [hserved, calls_ofExchanged, forward_sent hurl hfits.1 hbody]
  exact ⟨_, rfl, rfl, rfl⟩

/-- Without room the request breaks off. -/
theorem dispatch_of_not_fits
    {found : Found} {location : String} {uri : Uri}
    (h : s.LeadsTo ask r found location uri)
    (hno : ¬ s.Fits draw r found.direction uri) :
    (s.dispatch ask target draw r).1.calls = [] ∧
      (s.dispatch ask target draw r).1.status? = none := by
  obtain ⟨url, hurl, hserved⟩ := dispatch_of_leadsTo target draw h
  rw [hserved, forward_of_not_room hurl hno]
  exact ⟨rfl, rfl⟩

/-- A request that leads nowhere is refused. -/
theorem dispatch_of_not_leadsTo
    (hno : ∀ found location uri, ¬ s.LeadsTo ask r found location uri) :
    (s.dispatch ask target draw r).1.calls = [] ∧
      (s.dispatch ask target draw r).1.status? = some (statusOfUncalled (s.searched ask r)) := by
  rw [dispatch_fst]
  cases hsearched : s.searched ask r with
  | error e =>
      cases e <;> exact ⟨rfl, rfl⟩
  | ok result =>
      cases result with
      | none =>
          exact ⟨rfl, rfl⟩
      | some found =>
          rw [Sidecar.conclude, Sidecar.handOn, destination, statusOfUncalled]
          cases hlocation : found.entry.location with
          | none =>
              exact ⟨rfl, rfl⟩
          | some location =>
              dsimp only
              cases hdialled : parseLocation (destinationUrl location
                  ((s.inbound r).withQuery
                    (sentPath s.lookups.resolver.mount found.direction (s.inbound r).path))) with
              | ok uri =>
                  exact absurd ⟨hsearched, hlocation, hdialled⟩ (hno found location uri)
              | error why =>
                  rw [forward_of_error hdialled, if_neg (Option.some_ne_none location)]
                  exact ⟨rfl, rfl⟩

/-- There is one call or none, as the route and the room for it decide. -/
theorem calls_cases
    (s : Sidecar σ) (ask : ModuleCache.Source σ) (target : Target) (draw : Nat) (r : Request) :
    ((∃ found location uri, s.LeadsTo ask r found location uri ∧
        s.Fits draw r found.direction uri) ∧
      ∃ sent, (s.dispatch ask target draw r).1.calls = [sent]) ∨
    ((¬∃ found location uri, s.LeadsTo ask r found location uri ∧
        s.Fits draw r found.direction uri) ∧
      (s.dispatch ask target draw r).1.calls = []) := by
  by_cases hcalled : ∃ found location uri, s.LeadsTo ask r found location uri ∧
      s.Fits draw r found.direction uri
  · obtain ⟨found, location, uri, h, hfits⟩ := hcalled
    obtain ⟨sent, hsent, -⟩ := calls_of_fits target draw h hfits
    exact Or.inl ⟨⟨found, location, uri, h, hfits⟩, sent, hsent⟩
  · refine Or.inr ⟨hcalled, ?_⟩
    by_cases hleads : ∃ found location uri, s.LeadsTo ask r found location uri
    · obtain ⟨found, location, uri, h⟩ := hleads
      exact (dispatch_of_not_fits h fun hfits => hcalled ⟨found, location, uri, h, hfits⟩).1
    · simp only [not_exists] at hleads
      exact (dispatch_of_not_leadsTo hleads).1

theorem calls_ne_nil_iff
    (s : Sidecar σ) (ask : ModuleCache.Source σ) (target : Target) (draw : Nat) (r : Request) :
    (s.dispatch ask target draw r).1.calls ≠ []
      ↔
    ∃ found location uri,
      s.LeadsTo ask r found location uri ∧ s.Fits draw r found.direction uri := by
  rcases calls_cases s ask target draw r with ⟨hcalled, sent, hsent⟩ | ⟨hno, hnone⟩
  · exact iff_of_true (by simp [hsent]) hcalled
  · exact iff_of_false (fun hcalls => hcalls hnone) hno

/-- No exchange counts as a request without a route. -/
theorem count_routeMisses_records
    (records : List Record) :
    (records.flatMap Record.events).count (.count .routeMisses) = 0 := by
  rw [List.count_eq_zero, List.mem_flatMap]
  rintro ⟨record, -, hmem⟩
  simp [Record.events, Metrics.exchangeEnded] at hmem

theorem count_routeMisses_dispatch :
    (s.dispatch ask target draw r).1.measurements.count (.count .routeMisses) =
      if s.searched ask r = .ok none then 1 else 0 := by
  rw [dispatch_fst, Served.measurements, List.count_append, count_routeMisses_records]
  cases hsearched : s.searched ask r with
  | error e =>
      rfl
  | ok result =>
      cases result with
      | none =>
          rfl
      | some found =>
          rw [Sidecar.conclude, Sidecar.handOn]
          cases destination s.lookups.resolver.mount found (s.inbound r) <;> rfl

end Calls

section Main

variable {σ : Type}

/-- What the dispatch of a request keeps to. -/
structure Sidecar.Forwards (s : Sidecar σ) (ask : ModuleCache.Source σ) (target : Target)
    (draw : Nat) (r : Request) : Prop where
  at_most_one : (s.dispatch ask target draw r).1.calls.length ≤ 1
  called_iff :
    (s.dispatch ask target draw r).1.calls ≠ []
      ↔
    ∃ found location uri,
      s.LeadsTo ask r found location uri ∧ s.Fits draw r found.direction uri
  call :
    ∀ sent ∈ (s.dispatch ask target draw r).1.calls,
      ∀ found location uri, s.LeadsTo ask r found location uri →
        sent.method = r.method ∧ sent.destination = uri
  /-- The path and the query that are named below the location are the ones that are asked for,
  unless a query or a fragment is broken off before their end. -/
  delivered :
    ∀ text, Uri.parse text = .ok r.uri → r.uri.path.toList.head? = some '/' →
      ∀ name strategy, s.lookups.resolver.mount = .ofName name strategy →
        ∀ found location uri place, s.LeadsTo ask r found location uri →
          parseLocation location = .ok place →
            (Delivered place (s.rewritten r found.direction) uri
              ↔
            Unbroken location (s.rewritten r found.direction).path ∨
              ('#' ∈ location.toList ∧
                place.path.toList =
                  withoutSlashes place.path.toList ++
                    (s.rewritten r found.direction).path.toList ∧
                place.query = r.uri.query))
  refused :
    (¬∃ found location uri, s.LeadsTo ask r found location uri) →
      (s.dispatch ask target draw r).1.status? = some (statusOfUncalled (s.searched ask r))
  /-- Without room there is neither a call nor a reply. -/
  broken_off :
    ∀ found location uri, s.LeadsTo ask r found location uri →
      ¬ s.Fits draw r found.direction uri → (s.dispatch ask target draw r).1.status? = none
  misses :
    (s.dispatch ask target draw r).1.measurements.count (.count .routeMisses) =
      if s.searched ask r = .ok none then 1 else 0
  /-- Nothing is left behind but what the search leaves behind. -/
  after :
    (s.dispatch ask target draw r).2 =
      { s with lookups := (s.lookups.run ask (s.lookups.resolver.search (s.inbound r))).2 }

variable {s : Sidecar σ} {ask : ModuleCache.Source σ} {target : Target} {draw : Nat} {r : Request}

theorem rooted_rewritten
    {name : String} {strategy : MountStrategy}
    (hmount : s.lookups.resolver.mount = .ofName name strategy)
    (hrooted : r.uri.path.toList.head? = some '/')
    (direction : Direction) :
    (s.rewritten r direction).path.toList.head? = some '/' := by
  cases direction with
  | ingress =>
      change (sentPath s.lookups.resolver.mount .ingress r.uri.path).toList.head? = some '/'
      rw [hmount, sentPath, Mount.modulePath, String.toList_ofList]
      exact rooted_moduleChars hrooted
  | egress =>
      exact hrooted

/--
A request is sent exactly when its route leads to a URL that can be dialled and
there is room for it, and then once.  Its path and its query arrive there unless
the location or the path to be sent break off a query or a fragment.
-/
theorem dispatch_forwards
    (s : Sidecar σ) (ask : ModuleCache.Source σ) (target : Target) (draw : Nat) (r : Request) :
    s.Forwards ask target draw r where
  at_most_one := by
    rcases calls_cases s ask target draw r with ⟨-, sent, hsent⟩ | ⟨-, hnone⟩
    · rw [hsent, List.length_singleton]
    · rw [hnone]
      exact Nat.zero_le 1
  called_iff := calls_ne_nil_iff s ask target draw r
  call := by
    intro sent hsent found location uri h
    by_cases hfits : s.Fits draw r found.direction uri
    · obtain ⟨only, honly, hcall⟩ := calls_of_fits target draw h hfits
      rw [honly, List.mem_singleton] at hsent
      exact hsent ▸ hcall
    · rw [(dispatch_of_not_fits h hfits).1] at hsent
      cases hsent
  delivered := by
    intro text hrequest hrooted name strategy hmount found location uri place h hplace
    exact delivered_iff hplace (rooted_rewritten hmount hrooted found.direction)
      (legal_of_parse hrequest).query_legal h.dialled
  refused hno := by
    simp only [not_exists] at hno
    exact (dispatch_of_not_leadsTo hno).2
  broken_off _ _ _ h hno := (dispatch_of_not_fits h hno).2
  misses := count_routeMisses_dispatch
  after := rfl

/-- How a request from outside is served, beside its dispatch. -/
structure Sidecar.Serves (s : Sidecar σ) (ask : ModuleCache.Source σ) (target : Target)
    (draw : Nat) (r : Request) : Prop where
  called_iff :
    (s.serve ask target draw r).1.calls ≠ []
      ↔
    r.uri.path.toList.head? = some '/' ∧
      ∃ found location uri,
        s.LeadsTo ask r found location uri ∧ s.Fits draw r found.direction uri
  dispatched :
    r.uri.path.toList.head? = some '/' →
      (s.serve ask target draw r).1.calls = (s.dispatch ask target draw r).1.calls ∧
        (s.serve ask target draw r).1.status? = (s.dispatch ask target draw r).1.status? ∧
        (s.serve ask target draw r).1.measurements = (s.dispatch ask target draw r).1.measurements ∧
        (s.serve ask target draw r).2 = (s.dispatch ask target draw r).2
  /-- Only a request by `HEAD` loses what its reply carries. -/
  unchanged :
    r.uri.path.toList.head? = some '/' → r.method ≠ "HEAD" →
      s.serve ask target draw r = s.dispatch ask target draw r
  turned_away :
    r.uri.path.toList.head? ≠ some '/' →
      s.serve ask target draw r = ({ reply := some .noPath }, s)

/-- A reply without what it carries has the status that it had. -/
theorem status?_bare
    (served : Served) :
    { served with reply := served.reply.map Reply.bare : Served }.status? = served.status? := by
  simp [Served.status?, Reply.bare, Function.comp_def]

theorem serve_serves
    (s : Sidecar σ) (ask : ModuleCache.Source σ) (target : Target) (draw : Nat) (r : Request) :
    s.Serves ask target draw r := by
  by_cases hrooted : r.uri.path.toList.head? = some '/'
  · have hserve : s.serve ask target draw r =
        (if r.method = "HEAD" then
            { (s.dispatch ask target draw r).1 with
              reply := (s.dispatch ask target draw r).1.reply.map Reply.bare }
          else (s.dispatch ask target draw r).1,
          (s.dispatch ask target draw r).2) :=
      if_pos hrooted
    have hcalls :
        (s.serve ask target draw r).1.calls = (s.dispatch ask target draw r).1.calls := by
      rw [hserve]
      split <;> rfl
    refine ⟨?_, fun _ => ⟨hcalls, ?_, ?_, ?_⟩, fun _ hmethod => ?_, fun hno => absurd hrooted hno⟩
    · rw [hcalls, calls_ne_nil_iff]
      exact (and_iff_right hrooted).symm
    · rw [hserve]
      split
      · exact status?_bare _
      · rfl
    · rw [hserve]
      split <;> rfl
    · rw [hserve]
    · rw [hserve, if_neg hmethod]
  · have hserve : s.serve ask target draw r = ({ reply := some .noPath }, s) :=
      if_neg hrooted
    refine ⟨?_, fun h => absurd h hrooted, fun h => absurd h hrooted, fun _ => hserve⟩
    rw [hserve]
    exact iff_of_false (fun hcalls => hcalls rfl) fun h => hrooted h.1

/-- A sidecar without tables, in front of a gateway. -/
def gatewaySidecar (gateway : String) : Sidecar Unit where
  lookups :=
    { resolver := { mount := .ofName "mod-foo" .none, gateway := some gateway }
      entitled := .ofList []
      published := {}
      cache := { limits := .ofSettings {} }
      source := () }
  forwarder := signingForwarder

/-- A control plane that is never asked. -/
def silentSource : ModuleCache.Source Unit :=
  fun id s => (.ok { moduleId := id }, s)

/-- A request with a query. -/
def queryingRequest : Request where
  method := "GET"
  uri := { scheme := none, authority := "", writtenPath := "/foo/1", query := some "q=2" }

/-- The route to a gateway of a request that names no module. -/
def gatewayFound (gateway : String) : Found where
  strategy := .gateway
  entry := .gateway gateway none

theorem leadsTo_gateway_behind_query :
    (gatewaySidecar "http://mod-gw:8081/base?x=1").LeadsTo silentSource queryingRequest
      (gatewayFound "http://mod-gw:8081/base?x=1") "http://mod-gw:8081/base?x=1"
      { scheme := some "http", authority := "mod-gw:8081", writtenPath := "/base"
        query := some "x=1/foo/1?q=2" } where
  searched := by decide +kernel
  located := rfl
  dialled := by decide

/-- The query of a gateway takes in the request, which comes from outside. -/
theorem not_forwarded_as_asked :
    ∃ sent,
      ((gatewaySidecar "http://mod-gw:8081/base?x=1").dispatch silentSource foreignTarget 7
          queryingRequest).1.calls = [sent] ∧
        ((gatewaySidecar "http://mod-gw:8081/base?x=1").serve silentSource foreignTarget 7
          queryingRequest).1.calls = [sent] ∧
        queryingRequest.uri.query = some "q=2" ∧
        sent.destination.query = some "x=1/foo/1?q=2" ∧
        sent.destination.path = "/base" := by
  obtain ⟨sent, hsent, -, hdestination⟩ :=
    calls_of_fits foreignTarget 7 leadsTo_gateway_behind_query
      ⟨hasRoom_of_length (by decide), rfl⟩
  have hserved := (serve_serves (gatewaySidecar "http://mod-gw:8081/base?x=1") silentSource
    foreignTarget 7 queryingRequest).dispatched rfl
  exact ⟨sent, hsent, hserved.1.trans hsent, rfl, hdestination ▸ rfl, hdestination ▸ rfl⟩

end Main

end Dispatch
end SidecarProxy
