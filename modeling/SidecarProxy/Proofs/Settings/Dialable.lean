import SidecarProxy.Proofs.Route.Rejections
import SidecarProxy.Proofs.Uri.Joined
import SidecarProxy.Proofs.WebUrl.Accepted
import SidecarProxy.Settings.Check

/-!
# Settings and the URLs that can be dialled

The check of settings accepts every URL of the web, while only locations can be
dialled.  Main statement: an accepted URL is a location exactly when it is plain,
that is, when its text already has the form in which a URI is written.
-/

namespace SidecarProxy
namespace Settings

open Route Text Uri WebUrl

section Urls

/-- Text that the sidecar can dial. -/
def Dialable
    (text : String) :
    Prop :=
  ∃ uri, parseLocation text = .ok uri

/--
The parts of a plain URL.  It begins with `http://` and an authority that is not
empty; behind the user information the authority holds only characters that may
stand in the authority of a URI, and so do the path and the query for theirs.
-/
structure PlainParts (text : String) (scheme authority target : List Char) : Prop where
  written : Written text.toList scheme authority target
  length_le : (utf8 text).length ≤ Uri.maxLength
  authority_ne : authority ≠ []
  user : userPasses ((cutUser authority).1.getD []) (cutUser authority).2 = true
  host : ∀ c ∈ (cutUser authority).2, isAuthorityChar c = true
  target : ∃ parts, readTarget target = .ok parts

/-- Text that is written as a plain URL. -/
def PlainUrl
    (text : String) :
    Prop :=
  ∃ scheme authority target, PlainParts text scheme authority target

/-- Every character of a plain authority may stand in the authority of a URI, or is a percent sign. -/
theorem PlainParts.isAuthorityChar
    {text : String} {scheme authority target : List Char}
    (h : PlainParts text scheme authority target) :
    ∀ c ∈ authority, isAuthorityChar c = true ∨ c = '%' := by
  obtain ⟨s, huser, -⟩ := (userPasses_iff _ _).1 h.user
  have hlegal := isAuthorityChar_of_scan huser
  have hhost := h.host
  by_cases hat : '@' ∈ authority
  · obtain ⟨user, host, rfl, hno⟩ := eq_append_cons_of_last hat
    rw [cutUser_append hno] at hlegal hhost
    intro c hc
    simp only [List.mem_append, List.mem_cons] at hc
    rcases hc with hc | rfl | hc
    · exact hlegal c hc
    · exact Or.inl (by decide)
    · exact Or.inl (hhost c hc)
  · rw [cutUser_of_notMem hat] at hhost
    exact fun c hc => Or.inl (hhost c hc)

/-- Among the URLs that are read, those that can be dialled are the plain ones. -/
theorem dialable_iff_plainUrl
    {text : String} {url : WebUrl}
    (h : WebUrl.parse text = .ok url) :
    Dialable text ↔ PlainUrl text := by
  constructor
  · rintro ⟨uri, huri⟩
    obtain ⟨hread, hscheme, -⟩ := (parseLocation_eq_ok_iff text uri).1 huri
    obtain ⟨scheme, authority, target, hwritten⟩ := exists_written_of_ofChars hread hscheme
    rw [hwritten.ofChars_eq] at hread
    split at hread
    · cases hread
    · obtain ⟨hne, hcheck, -⟩ := (hwritten.readFull_eq_ok_iff uri).1 hread
      obtain ⟨s, hscan, -⟩ := (checkAuthority_eq_ok_iff authority).1 hcheck
      have hhost := hostAndPort_of_parse hwritten hne (isAuthorityChar_of_scan hscan) h
      obtain ⟨hlength, huser, hchars, hparts⟩ :=
        (hwritten.parseLocation_iff hhost).1 ⟨uri, huri⟩
      exact ⟨scheme, authority, target, hwritten, hlength, hne, huser, hchars, hparts⟩
  · rintro ⟨scheme, authority, target, hplain⟩
    have hhost :=
      hostAndPort_of_parse hplain.written hplain.authority_ne hplain.isAuthorityChar h
    exact (hplain.written.parseLocation_iff hhost).2
      ⟨hplain.length_le, hplain.user, hplain.host, hplain.target⟩

end Urls

section Validation

/-- Settings that are accepted pass every check. -/
theorem check_eq_none_of_validate
    {s s' : Settings}
    (h : s.validate = .ok s')
    {c : String × (Settings → Option Fault)}
    (hc : c ∈ checks) :
    c.2 s = none := by
  unfold validate at h
  split at h
  · next hempty =>
      have hnil : s.problems = [] := List.isEmpty_iff.1 hempty
      have hnone := List.filterMap_eq_nil_iff.1 hnil c hc
      simpa using hnone
  · cases h

theorem exists_parse_of_checkUrl
    {text : String}
    (h : checkUrl text = none) :
    ∃ url, WebUrl.parse text = .ok url := by
  unfold checkUrl at h
  split at h
  · next url hurl =>
      exact ⟨url, hurl⟩
  · cases h

/-- The URLs of the local module and of the gateway are read where settings are accepted. -/
theorem exists_parse_of_validate
    {s s' : Settings}
    (h : s.validate = .ok s') :
    (∃ url, WebUrl.parse s.module.url = .ok url) ∧
      ∀ gateway, s.routing.gatewayUrl = some gateway →
        ∃ url, WebUrl.parse gateway = .ok url := by
  constructor
  · have hcheck : checkUrl s.module.url = none :=
      check_eq_none_of_validate h
        (c := ("module.url", fun s => checkUrl s.module.url)) (by simp [checks])
    exact exists_parse_of_checkUrl hcheck
  · intro gateway hgateway
    have hcheck : checkGateway s.routing.gatewayUrl s.routing.forwardUnknown = none :=
      check_eq_none_of_validate h
        (c := ("routing.gateway_url",
          fun s => checkGateway s.routing.gatewayUrl s.routing.forwardUnknown)) (by simp [checks])
    rw [hgateway] at hcheck
    exact exists_parse_of_checkUrl hcheck

end Validation

section Uses

/-- No module is rejected for the location that takes the place of its own, if it can be dialled. -/
theorem moduleEntries_ne_badLocation
    {url : String}
    (hurl : Dialable url)
    {d : Catalog.ModuleDescription} {location : String} {why : LocationError} :
    Table.moduleEntries d (some url) ≠ .error (.badLocation location why) := by
  obtain ⟨uri, huri⟩ := hurl
  intro h
  obtain ⟨c, hc, hfails⟩ := exists_fails_of_moduleEntries h
  cases hfails with
  | location hwhy =>
      rcases mem_checks_iff.1 hc with h | ⟨text, htext, h⟩ | ⟨_, _, h | ⟨_, _, h | h⟩⟩ <;> cases h
      cases htext
      rw [huri] at hwhy
      cases hwhy

/-- Every module with an id is rejected for a location that cannot be dialled. -/
theorem moduleEntries_eq_badLocation
    {url : String} {why : LocationError}
    (hurl : parseLocation url = .error why)
    {d : Catalog.ModuleDescription}
    (hid : isBlank d.moduleId = false) :
    Table.moduleEntries d (some url) = .error (.badLocation url why) := by
  have hplace : Table.checkLocation (some url) = .error (.badLocation url why) := by
    simp [Table.checkLocation, hurl]
  unfold Table.moduleEntries
  rw [if_neg (by simp [hid])]
  simp only [Table.locationFor, Option.some_or, hplace]
  rfl

/-- A module is rejected for the fault of its entries, under the id that it is reported by. -/
theorem addModule_eq_error_iff
    {t : Table} {d : Catalog.ModuleDescription} {location : Option String}
    {rejection : ConfigError} :
    t.addModule d location = .error rejection
      ↔
    ∃ fault, Table.moduleEntries d location = .error fault ∧
      rejection = { moduleId := Table.reportedId d, fault := fault } := by
  unfold Table.addModule
  cases Table.moduleEntries d location with
  | error fault =>
      simp [eq_comm]
  | ok entries =>
      simp

/-- A location that can be dialled is no reason to reject a module, and any other one is. -/
theorem dialable_iff_addModule
    (url : String) :
    Dialable url
      ↔
    ∀ t d rejection location why,
      Table.addModule t d (some url) = .error rejection →
        rejection.fault ≠ .badLocation location why := by
  constructor
  · intro hurl t d rejection location why h hfault
    obtain ⟨fault, hentries, rfl⟩ := addModule_eq_error_iff.1 h
    obtain rfl : fault = .badLocation location why := hfault
    exact moduleEntries_ne_badLocation hurl hentries
  · intro h
    cases hurl : parseLocation url with
    | ok uri =>
        exact ⟨uri, hurl⟩
    | error why =>
        let d : Catalog.ModuleDescription := { moduleId := "module" }
        have hentries := moduleEntries_eq_badLocation hurl (d := d) (by decide)
        have hreject := (addModule_eq_error_iff (t := .empty)).2 ⟨_, hentries, rfl⟩
        exact absurd rfl (h _ _ _ url why hreject)

/-- Behind a plain URL without a query, every path that may be read can be dialled. -/
theorem dialable_destinationUrl
    {url : String} {read : WebUrl}
    (hread : WebUrl.parse url = .ok read)
    (hplain : PlainUrl url)
    (hquery : '?' ∉ url.toList)
    {back : String}
    (hslash : back.toList.head? = some '/')
    (hback : ∃ parts, readTarget back.toList = .ok parts)
    (hlength : (utf8 (Dispatch.destinationUrl url back)).length ≤ Uri.maxLength) :
    Dialable (Dispatch.destinationUrl url back) := by
  obtain ⟨scheme, authority, target, hparts⟩ := hplain
  have hhost :=
    hostAndPort_of_parse hparts.written hparts.authority_ne hparts.isAuthorityChar hread
  have htarget : '?' ∉ target := by
    intro hmem
    exact hquery (by simp [hparts.written.text_eq, hmem])
  exact ((hparts.written.destinationUrl hparts.authority_ne hslash).parseLocation_iff hhost).2
    ⟨hlength, hparts.user, hparts.host, readTarget_join htarget hparts.target hback⟩

end Uses

section Accepted

/--
Where settings are accepted, the URLs of the local module and of the gateway can
be dialled exactly when they are plain.  The location of the local module is then
no reason to reject a module, and behind the gateway every path can be dialled
that fits into a URI.
-/
theorem dialable_iff_of_validate
    {s s' : Settings}
    (h : s.validate = .ok s') :
    ((Dialable s.module.url ↔ PlainUrl s.module.url) ∧
      (PlainUrl s.module.url ↔
        ∀ t d rejection location why,
          Table.addModule t d (some s.module.url) = .error rejection →
            rejection.fault ≠ .badLocation location why)) ∧
    ∀ gateway, s.routing.gatewayUrl = some gateway →
      (Dialable gateway ↔ PlainUrl gateway) ∧
        (PlainUrl gateway → '?' ∉ gateway.toList →
          ∀ back : String, back.toList.head? = some '/' →
            (∃ parts, readTarget back.toList = .ok parts) →
              (utf8 (Dispatch.destinationUrl gateway back)).length ≤ Uri.maxLength →
                Dialable (Dispatch.destinationUrl gateway back)) := by
  obtain ⟨⟨url, hurl⟩, hgateways⟩ := exists_parse_of_validate h
  have hmodule := dialable_iff_plainUrl hurl
  refine ⟨⟨hmodule, hmodule.symm.trans (dialable_iff_addModule _)⟩, ?_⟩
  intro gateway hgateway
  obtain ⟨read, hread⟩ := hgateways gateway hgateway
  exact ⟨dialable_iff_plainUrl hread,
    fun hplain hquery _ => dialable_destinationUrl hread hplain hquery⟩

/-- Settings with an address behind user information and with a gateway. -/
def plainSettings : Settings where
  module := { id := "mod-foo-1.0.0", name := "mod-foo", url := "HTTP://me@[::1]:8080/base" }
  routing := { gatewayUrl := some "http://gateway:9130/" }

theorem dialable_iff_of_validate_plainSettings :
    plainSettings.validate = .ok plainSettings ∧
      PlainUrl "HTTP://me@[::1]:8080/base" ∧
      PlainUrl "http://gateway:9130/" ∧
      Dialable (Dispatch.destinationUrl "http://gateway:9130/" "/users/7?full=true") := by
  have hvalid : plainSettings.validate = .ok plainSettings := by
    decide
  obtain ⟨hmodule, hgateways⟩ := dialable_iff_of_validate hvalid
  obtain ⟨hgateway, hbehind⟩ := hgateways "http://gateway:9130/" rfl
  have hplain : PlainUrl "http://gateway:9130/" :=
    hgateway.1 ⟨_, rfl⟩
  exact ⟨hvalid, hmodule.1.1 ⟨_, rfl⟩, hplain,
    hbehind hplain (by decide) "/users/7?full=true" rfl ⟨_, rfl⟩ (by decide)⟩

/-- Settings whose module is reached by the other scheme of the web. -/
def secureSettings : Settings where
  module := { id := "mod-foo-1.0.0", name := "mod-foo", url := "https://localhost:8443" }

theorem not_dialable_secureSettings :
    secureSettings.validate = .ok secureSettings ∧
      ¬Dialable secureSettings.module.url ∧
      Table.empty.addModule { moduleId := "mod-foo-1.0.0" } (some secureSettings.module.url) =
        .error {
          moduleId := "mod-foo-1.0.0"
          fault := .badLocation "https://localhost:8443" (.unsupportedScheme "https") } := by
  have hlocation :
      parseLocation secureSettings.module.url = .error (.unsupportedScheme "https") := by
    decide
  refine ⟨by decide, ?_, by decide⟩
  rintro ⟨uri, huri⟩
  rw [hlocation] at huri
  cases huri

end Accepted

end Settings
end SidecarProxy
