import SidecarProxy.Proofs.Uri.Target

/-!
# Where requests arrive

A request is sent to the location of its route with its path and its query
behind it, and the URL is read once more before it is dialled.  Main statement:
what is read then is the host, the port and the path of the location with the
path and the query of the request, exactly when the location has no query and no
fragment of its own.  A query swallows the request, and a fragment loses it.
-/

namespace SidecarProxy
namespace Dispatch

open Message Route Text Uri

section Places

/-- An accepted location in all its parts. -/
structure Place
    (location : String) (place : Uri)
    (scheme authority target path : List Char)
    (query : Option (List Char)) (fragment : List Char) : Prop where
  written : Written location.toList scheme authority target
  parts : TargetParts target path query fragment
  authority_ne : authority ≠ []
  checked : checkAuthority authority = .ok ()
  host_ne : place.host ≠ ""
  place_eq : place = ofParts (some "http".toList) authority (path, query)

theorem exists_place
    {location : String} {place : Uri}
    (h : parseLocation location = .ok place) :
    ∃ scheme authority target path query fragment,
      Place location place scheme authority target path query fragment := by
  obtain ⟨hread, hscheme, hhost⟩ := (parseLocation_eq_ok_iff location place).1 h
  obtain ⟨scheme, authority, target, hwritten⟩ := exists_written_of_ofChars hread hscheme
  rw [hwritten.ofChars_eq] at hread
  split at hread
  · cases hread
  · obtain ⟨hne, hchecked, ⟨path, query⟩, hparts, hplace⟩ :=
      (hwritten.readFull_eq_ok_iff place).1 hread
    obtain ⟨fragment, hfragment⟩ := exists_targetParts hparts
    exact ⟨scheme, authority, target, path, query, fragment,
      hwritten, hfragment, hne, hchecked, hhost, hplace⟩

variable {location : String} {place : Uri}
variable {scheme authority target path fragment : List Char} {query : Option (List Char)}

/-- Behind a location only the text behind its authority is read anew. -/
theorem Place.parseLocation_destinationUrl_iff
    (h : Place location place scheme authority target path query fragment)
    {back : String}
    (hback : back.toList.head? = some '/')
    (hlength : (utf8 (destinationUrl location back)).length ≤ maxLength)
    (uri : Uri) :
    parseLocation (destinationUrl location back) = .ok uri
      ↔
    ∃ parts, readTarget (withoutSlashes target ++ back.toList) = .ok parts ∧
      uri = ofParts (some "http".toList) authority parts := by
  have hwritten := h.written.destinationUrl h.authority_ne hback
  have hshort : ¬(utf8Chars (destinationUrl location back).toList).length > maxLength :=
    Nat.not_lt.2 hlength
  rw [parseLocation_eq_ok_iff, hwritten.ofChars_eq, if_neg hshort, hwritten.readFull_eq_ok_iff]
  constructor
  · rintro ⟨⟨-, -, parts, hparts, huri⟩, -⟩
    exact ⟨parts, hparts, huri⟩
  · rintro ⟨parts, hparts, rfl⟩
    have hhost : (ofParts (some "http".toList) authority parts).host ≠ "" := by
      have hne := h.host_ne
      rwa [h.place_eq] at hne
    exact ⟨⟨h.authority_ne, h.checked, parts, hparts, rfl⟩, rfl, hhost⟩

theorem path_ofParts
    (scheme authority path : List Char) (query : Option (List Char)) :
    (ofParts (some scheme) authority (path, query)).path.toList =
      if path = [] then ['/'] else path := by
  cases path <;> simp [Uri.path, hasPath, ofParts]

/-- The path of a location, up to the slashes at its end, is what was written. -/
theorem Place.withoutSlashes_path
    (h : Place location place scheme authority target path query fragment) :
    withoutSlashes place.path.toList = withoutSlashes path := by
  rw [h.place_eq, path_ofParts]
  split
  · next hempty =>
      rw [hempty]
      rfl
  · rfl

/-- Question marks and hash signs stand only behind an authority. -/
theorem mem_iff_mem_target
    (h : Written location.toList scheme authority target)
    {c : Char} (hc : c = '?' ∨ c = '#') :
    c ∈ location.toList ↔ c ∈ target := by
  have hscheme : c ∉ scheme := by
    intro hmem
    have halpha := h.isAlpha c hmem
    rcases hc with rfl | rfl <;> revert halpha <;> decide
  have hauthority : c ∉ authority := by
    intro hmem
    have hopen := h.authority_open c hmem
    rcases hc with rfl | rfl <;> cases hopen
  have hcolon : c ≠ ':' ∧ c ≠ '/' := by
    rcases hc with rfl | rfl <;> decide
  simp [h.text_eq, hscheme, hauthority, hcolon]

/-- A hash sign in a location starts its fragment. -/
theorem Place.hash_mem_iff
    (h : Place location place scheme authority target path query fragment) :
    '#' ∈ location.toList ↔ fragment ≠ [] := by
  have hpath : '#' ∉ path := notMem_of_illegal (by decide) h.parts.path_legal
  have hquery := hash_notMem_queryText h.parts.query_legal
  rw [mem_iff_mem_target h.written (Or.inr rfl), h.parts.text_eq, List.mem_append,
    List.mem_append, or_iff_right hpath, or_iff_right hquery]
  cases hfragment : fragment with
  | nil =>
      simp
  | cons c rest =>
      have hc := h.parts.fragment_head c (by simp [hfragment])
      simp [hc]

/-- Without a fragment, a question mark in a location starts its query. -/
theorem Place.question_mem_iff
    (h : Place location place scheme authority target path query [])  :
    '?' ∈ location.toList ↔ query ≠ none := by
  have hpath : '?' ∉ path := notMem_of_illegal (by decide) h.parts.path_legal
  rw [mem_iff_mem_target h.written (Or.inl rfl), h.parts.text_eq, List.mem_append,
    or_iff_right hpath]
  cases query <;> simp [queryText]

end Places

section Arrival

/-- A URL of the place with the path and the query of a request. -/
structure Delivered (place : Uri) (r : Inbound) (uri : Uri) : Prop where
  host_eq : uri.host = place.host
  port_eq : uri.portNumber? = place.portNumber?
  path_eq : uri.path.toList = withoutSlashes place.path.toList ++ r.path.toList
  query_eq : uri.query = r.query

/-- Whether a request is sent to the path that it names below a location. -/
def Arrives
    (location : String) (place : Uri) (r : Inbound) :
    Prop :=
  ∃ uri, parseLocation (destinationUrl location (r.withQuery r.path)) = .ok uri ∧
    Delivered place r uri

theorem toList_withQuery
    (r : Inbound) (path : String) :
    (r.withQuery path).toList = path.toList ++ queryText (r.query.map String.toList) := by
  cases hquery : r.query <;> simp [Inbound.withQuery, hquery, queryText]

/-- A request with a rooted path, as it was read. -/
structure Received (r : Inbound) : Prop where
  rooted : r.path.toList.head? = some '/'
  path_legal : ∀ c ∈ r.path.toList, isPathChar c = true
  query_legal : ∀ q, r.query = some q → ∀ c ∈ q.toList, isQueryChar c = true

variable {location : String} {place : Uri} {r : Inbound}
variable {scheme authority target path fragment : List Char} {query : Option (List Char)}

theorem Received.head_withQuery
    (hr : Received r) :
    (r.withQuery r.path).toList.head? = some '/' := by
  rw [toList_withQuery, List.head?_append, hr.rooted, Option.some_or]

/-- A location that is a path alone delivers every request. -/
theorem Place.arrives
    (h : Place location place scheme authority target path none [])
    (hr : Received r)
    (hlength : (utf8 (destinationUrl location (r.withQuery r.path))).length ≤ maxLength) :
    Arrives location place r := by
  have htarget : target = path := by
    simpa [queryText] using h.parts.text_eq
  have hjoined :
      TargetParts (withoutSlashes target ++ (r.withQuery r.path).toList)
        (withoutSlashes path ++ r.path.toList) (r.query.map String.toList) [] := by
    refine ⟨?_, ?_, ?_, by simp⟩
    · rw [htarget, toList_withQuery, List.append_nil, List.append_assoc]
    · intro c hc
      rcases List.mem_append.1 hc with hc | hc
      · exact h.parts.path_legal c ((withoutSlashes_isPrefix path).subset hc)
      · exact hr.path_legal c hc
    · intro q hq
      obtain ⟨text, htext, rfl⟩ := Option.map_eq_some_iff.1 hq
      exact hr.query_legal text htext
  refine ⟨_, (h.parseLocation_destinationUrl_iff hr.head_withQuery hlength _).2
    ⟨_, hjoined.readTarget_eq, rfl⟩, ?_, ?_, ?_, ?_⟩
  · rw [h.place_eq]
    rfl
  · rw [h.place_eq]
    rfl
  · have hne : withoutSlashes path ++ r.path.toList ≠ [] := by
      intro hnil
      have hrooted := hr.rooted
      rw [(List.append_eq_nil_iff.1 hnil).2] at hrooted
      cases hrooted
    rw [path_ofParts, if_neg hne, h.withoutSlashes_path]
  · cases hquery : r.query <;> simp [ofParts]

/-- A fragment takes in whatever is behind it, so that the location itself is read. -/
theorem Place.parseLocation_iff_of_fragment
    (h : Place location place scheme authority target path query fragment)
    (hfragment : fragment ≠ [])
    {back : String}
    (hback : back.toList.head? = some '/')
    (hlength : (utf8 (destinationUrl location back)).length ≤ maxLength)
    (uri : Uri) :
    parseLocation (destinationUrl location back) = .ok uri ↔ uri = place := by
  obtain ⟨c, rest, rfl⟩ := List.exists_cons_of_ne_nil hfragment
  obtain rfl := h.parts.fragment_head c rfl
  have htarget : target = path ++ queryText query ++ ['#'] ++ rest := by
    simpa using h.parts.text_eq
  have hjoined :
      TargetParts (withoutSlashes target ++ back.toList) path query
        ('#' :: (withoutSlashes rest ++ back.toList)) := by
    refine ⟨?_, h.parts.path_legal, h.parts.query_legal, ?_⟩
    · rw [htarget, withoutSlashes_append (by simp) (by decide)]
      simp
    · intro c hc
      cases hc
      rfl
  rw [h.parseLocation_destinationUrl_iff hback hlength, hjoined.readTarget_eq, h.place_eq]
  simp

/-- Behind a fragment only a request for the location itself arrives. -/
theorem Place.arrives_iff_of_fragment
    (h : Place location place scheme authority target path query fragment)
    (hfragment : fragment ≠ [])
    (hr : Received r)
    (hlength : (utf8 (destinationUrl location (r.withQuery r.path))).length ≤ maxLength) :
    Arrives location place r
      ↔
    place.path.toList = withoutSlashes place.path.toList ++ r.path.toList ∧
      place.query = r.query := by
  have hread := h.parseLocation_iff_of_fragment hfragment hr.head_withQuery hlength
  constructor
  · rintro ⟨uri, huri, hdelivered⟩
    obtain rfl := (hread uri).1 huri
    exact ⟨hdelivered.path_eq, hdelivered.query_eq⟩
  · rintro ⟨hpath, hquery⟩
    exact ⟨place, (hread place).2 rfl, rfl, rfl, hpath, hquery⟩

/-- A query takes in whatever is behind it. -/
theorem Place.eq_of_parseLocation_of_query
    {q : List Char}
    (h : Place location place scheme authority target path (some q) [])
    {back : String}
    (hback : back.toList.head? = some '/')
    (hhash : '#' ∉ back.toList)
    (hlength : (utf8 (destinationUrl location back)).length ≤ maxLength)
    {uri : Uri}
    (huri : parseLocation (destinationUrl location back) = .ok uri) :
    uri = ofParts (some "http".toList) authority
      (path, some (withoutSlashes q ++ back.toList)) := by
  obtain ⟨parts, hparts, rfl⟩ := (h.parseLocation_destinationUrl_iff hback hlength _).1 huri
  have htarget : target = path ++ ['?'] ++ q := by
    simpa [queryText] using h.parts.text_eq
  have hjoined :
      withoutSlashes target ++ back.toList =
        path ++ '?' :: (withoutSlashes q ++ back.toList) := by
    rw [htarget, withoutSlashes_append (by simp) (by decide)]
    simp
  have hclean : '#' ∉ withoutSlashes q ++ back.toList := by
    rw [List.mem_append]
    rintro (hmem | hmem)
    · exact notMem_of_illegal (by decide) (h.parts.query_legal q rfl)
        ((withoutSlashes_isPrefix q).subset hmem)
    · exact hhash hmem
  rw [hjoined] at hparts
  rw [readTarget_query_eq h.parts.path_legal hclean hparts]

/-- The query that takes in a request is longer than the query of the request. -/
theorem not_delivered_of_query
    {authority path q : List Char} :
    ¬Delivered place r (ofParts (some "http".toList) authority
      (path, some (withoutSlashes q ++ (r.withQuery r.path).toList))) := by
  intro hdelivered
  have hquery := hdelivered.query_eq
  have hlong := congrArg List.length (toList_withQuery r r.path)
  rw [← hquery] at hlong
  simp [ofParts, queryText] at hlong
  omega

theorem Place.not_arrives_of_query
    {q : List Char}
    (h : Place location place scheme authority target path (some q) [])
    (hr : Received r)
    (hlength : (utf8 (destinationUrl location (r.withQuery r.path))).length ≤ maxLength) :
    ¬Arrives location place r := by
  rintro ⟨uri, huri, hdelivered⟩
  have hhash : '#' ∉ (r.withQuery r.path).toList := by
    rw [toList_withQuery, List.mem_append]
    rintro (hmem | hmem)
    · exact notMem_of_illegal (by decide) hr.path_legal hmem
    · refine hash_notMem_queryText ?_ hmem
      intro q hq
      obtain ⟨text, htext, rfl⟩ := Option.map_eq_some_iff.1 hq
      exact hr.query_legal text htext
  rw [h.eq_of_parseLocation_of_query hr.head_withQuery hhash hlength huri] at hdelivered
  exact not_delivered_of_query hdelivered

theorem received_of_parse
    {text : String} {request : Uri}
    (hrequest : Uri.parse text = .ok request)
    (hrooted : request.path.toList.head? = some '/')
    (method : String) (headers : Headers) (signature : Signature) :
    Received (Inbound.ofParts method request headers signature) :=
  ⟨hrooted, (legal_of_parse hrequest).path_legal, (legal_of_parse hrequest).query_legal⟩

/--
A request arrives below a location exactly when the location has no query and no
fragment; behind a fragment only that request arrives which asks for no more
than the location itself, the slashes at the end of its path and its query.
-/
theorem arrives_iff_of_parseLocation
    {location text : String} {place request : Uri}
    (hplace : parseLocation location = .ok place)
    (hrequest : Uri.parse text = .ok request)
    (hrooted : request.path.toList.head? = some '/')
    {method : String} {headers : Headers} {signature : Signature} {r : Inbound}
    (hr : r = Inbound.ofParts method request headers signature)
    (hlength : (utf8 (destinationUrl location (r.withQuery r.path))).length ≤ maxLength) :
    Arrives location place r
      ↔
    ('?' ∉ location.toList ∧ '#' ∉ location.toList) ∨
      ('#' ∈ location.toList ∧
        place.path.toList = withoutSlashes place.path.toList ++ r.path.toList ∧
          place.query = r.query) := by
  have hreceived : Received r := hr ▸ received_of_parse hrequest hrooted method headers signature
  obtain ⟨scheme, authority, target, path, query, fragment, h⟩ := exists_place hplace
  by_cases hfragment : fragment = []
  · subst hfragment
    have hhash : '#' ∉ location.toList := fun hmem => h.hash_mem_iff.1 hmem rfl
    cases hquery : query with
    | none =>
        subst hquery
        have hquestion : '?' ∉ location.toList := fun hmem => h.question_mem_iff.1 hmem rfl
        exact iff_of_true (h.arrives hreceived hlength) (Or.inl ⟨hquestion, hhash⟩)
    | some q =>
        subst hquery
        have hquestion : '?' ∈ location.toList := h.question_mem_iff.2 (by simp)
        refine iff_of_false (h.not_arrives_of_query hreceived hlength) ?_
        rintro (⟨hno, -⟩ | ⟨hmem, -⟩)
        · exact hno hquestion
        · exact hhash hmem
  · have hhash : '#' ∈ location.toList := h.hash_mem_iff.2 hfragment
    rw [h.arrives_iff_of_fragment hfragment hreceived hlength]
    constructor
    · exact fun harrives => Or.inr ⟨hhash, harrives⟩
    · rintro (⟨-, hno⟩ | ⟨-, harrives⟩)
      · exact absurd hhash hno
      · exact harrives

/-- A request for one resource, with a query. -/
def resourceRequest : Inbound :=
  .ofParts "GET" { scheme := none, authority := "", writtenPath := "/foo/1", query := some "x=1" }
    [] ⟨"me"⟩

theorem arrives_iff_of_parseLocation_resourceRequest :
    parseLocation "HTTP://me@mod-foo:8081/base//" =
        .ok {
          scheme := some "http", authority := "me@mod-foo:8081"
          writtenPath := "/base//", query := none } ∧
      Uri.parse "/foo/1?x=1" =
        .ok { scheme := none, authority := "", writtenPath := "/foo/1", query := some "x=1" } ∧
      Arrives "HTTP://me@mod-foo:8081/base//"
        { scheme := some "http", authority := "me@mod-foo:8081"
          writtenPath := "/base//", query := none }
        resourceRequest := by
  have hplace :
      parseLocation "HTTP://me@mod-foo:8081/base//" =
        .ok {
          scheme := some "http", authority := "me@mod-foo:8081"
          writtenPath := "/base//", query := none } := by
    decide
  have hrequest :
      Uri.parse "/foo/1?x=1" =
        .ok { scheme := none, authority := "", writtenPath := "/foo/1", query := some "x=1" } := by
    decide
  exact ⟨hplace, hrequest,
    (arrives_iff_of_parseLocation hplace hrequest (by decide) rfl (by decide)).2
      (Or.inl ⟨by decide, by decide⟩)⟩

/-- Below a location with a query, a request is read as more of the query. -/
theorem not_arrives_behind_query :
    ∃ place,
      parseLocation "http://mod-foo:8081/base?y=2" = .ok place ∧
        ¬Arrives "http://mod-foo:8081/base?y=2" place resourceRequest ∧
          parseLocation
              (destinationUrl "http://mod-foo:8081/base?y=2"
                (resourceRequest.withQuery resourceRequest.path)) =
            .ok { place with query := some "y=2/foo/1?x=1" } := by
  have hread :
      parseLocation
          (destinationUrl "http://mod-foo:8081/base?y=2"
            (resourceRequest.withQuery resourceRequest.path)) =
        .ok {
          scheme := some "http", authority := "mod-foo:8081"
          writtenPath := "/base", query := some "y=2/foo/1?x=1" } := by
    decide
  refine ⟨⟨some "http", "mod-foo:8081", "/base", some "y=2"⟩, by decide, ?_, hread⟩
  rintro ⟨uri, huri, hdelivered⟩
  rw [hread] at huri
  cases huri
  exact absurd hdelivered.query_eq (by decide)

end Arrival

end Dispatch
end SidecarProxy
