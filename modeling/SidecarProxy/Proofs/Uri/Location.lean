import SidecarProxy.Proofs.Uri.Authority
import SidecarProxy.Route.Location

/-!
# Locations in their parts

A location is a URL of the scheme `http` with an authority.  Main statements:
text is a location exactly when it is written so, is not too long, and its
authority and the text behind it pass their checks.
-/

namespace SidecarProxy
namespace Uri

open Text WebUrl Route

section Written

/-- Text in its parts: the scheme `http` in letters of either case, an authority and the rest. -/
structure Written (cs scheme authority target : List Char) : Prop where
  text_eq : cs = scheme ++ ':' :: '/' :: '/' :: (authority ++ target)
  scheme_eq : scheme.map Char.toLower = "http".toList
  authority_open : ∀ c ∈ authority, endsAuthority c = false
  target_cut : ∀ c, target.head? = some c → endsAuthority c = true

variable {cs scheme authority target : List Char}

theorem isAlpha_of_toLower
    {c : Char}
    (h : c.toLower.isAlpha = true) :
    c.isAlpha = true := by
  by_cases hc : c.isUpper = true
  · exact Bool.or_eq_true_iff.2 (Or.inl hc)
  · have hsame : c.toLower = c := by
      have hupper : ¬(c.val ≥ 'A'.val ∧ c.val ≤ 'Z'.val) := fun hupper => hc (decide_eq_true hupper)
      unfold Char.toLower
      rw [dif_neg hupper]
    rwa [hsame] at h

theorem Written.isAlpha
    (h : Written cs scheme authority target) :
    ∀ c ∈ scheme, c.isAlpha = true := by
  intro c hc
  have hmem : c.toLower ∈ "http".toList :=
    h.scheme_eq ▸ List.mem_map_of_mem hc
  have hall : "http".toList.all Char.isAlpha = true := by
    decide
  exact isAlpha_of_toLower (List.all_eq_true.1 hall _ hmem)

theorem Written.length_scheme
    (h : Written cs scheme authority target) :
    scheme.length = 4 := by
  have hlength := congrArg List.length h.scheme_eq
  simpa using hlength

/-- A text is read up to the end of its scheme. -/
theorem Written.splitScheme_eq
    (h : Written cs scheme authority target) :
    splitScheme cs = .ok (some ("http".toList, authority ++ target)) := by
  have hchars : ∀ c ∈ scheme, isSchemeChar c = true := by
    intro c hc
    simp [isSchemeChar, Char.isAlphanum, h.isAlpha c hc]
  have hcolon : ∀ c, (':' :: '/' :: '/' :: (authority ++ target)).head? = some c →
      isSchemeChar c = false := by
    intro c hc
    cases hc
    decide
  have hlong : ¬cs.length ≤ 3 := by
    rw [h.text_eq, List.length_append, h.length_scheme]
    omega
  have hname : equalsIgnoringCase scheme "http".toList = true := by
    rw [equalsIgnoringCase, h.scheme_eq]
    decide
  have htake : cs.takeWhile isSchemeChar = scheme := by
    rw [h.text_eq]
    exact takeWhile_append_eq hchars hcolon
  have hdrop : cs.dropWhile isSchemeChar = ':' :: '/' :: '/' :: (authority ++ target) := by
    rw [h.text_eq]
    exact dropWhile_append_eq hchars hcolon
  simp only [splitScheme, htake, hdrop, if_neg hlong, if_pos hname]

/-- An authority is read up to its end. -/
theorem Written.splitAuthority_eq_ok_iff
    (h : Written cs scheme authority target)
    (read rest : List Char) :
    splitAuthority (authority ++ target) = .ok (read, rest)
      ↔
    authority ++ target ≠ [] ∧ checkAuthority authority = .ok () ∧
      read = authority ∧ rest = target := by
  have hopen : ∀ c ∈ authority, (!endsAuthority c) = true := by
    intro c hc
    rw [h.authority_open c hc]
    rfl
  have hcut : ∀ c, target.head? = some c → (!endsAuthority c) = false := by
    intro c hc
    rw [h.target_cut c hc]
    rfl
  unfold splitAuthority
  rw [takeWhile_append_eq hopen hcut, dropWhile_append_eq hopen hcut]
  cases htext : authority ++ target with
  | nil =>
      simp
  | cons c text =>
      cases hcheck : checkAuthority authority with
      | error why =>
          simp [bind, Except.bind, hcheck]
      | ok =>
          simp [bind, Except.bind, pure, Except.pure, hcheck, eq_comm]

/-- Text in its parts is a URI when its authority and the rest of it pass their checks. -/
theorem Written.readFull_eq_ok_iff
    (h : Written cs scheme authority target)
    (uri : Uri) :
    readFull cs = .ok uri
      ↔
    authority ≠ [] ∧ checkAuthority authority = .ok () ∧
      ∃ parts, readTarget target = .ok parts ∧
        uri = ofParts (some "http".toList) authority parts := by
  have hread : readFull cs =
      splitAuthority (authority ++ target) >>= fun read =>
        if read.1.isEmpty then .error .invalidFormat
        else do return ofParts (some "http".toList) read.1 (← readTarget read.2) := by
    unfold readFull
    rw [h.splitScheme_eq]
    rfl
  rw [hread]
  constructor
  · intro hok
    obtain ⟨⟨read, rest⟩, hsplit, hbehind⟩ := bind_eq_ok hok
    obtain ⟨-, hcheck, rfl, rfl⟩ := (h.splitAuthority_eq_ok_iff _ _).1 hsplit
    simp only at hbehind
    split at hbehind
    · cases hbehind
    · next hne =>
        obtain ⟨parts, hparts, huri⟩ := bind_eq_ok hbehind
        cases huri
        exact ⟨by simpa using hne, hcheck, parts, hparts, rfl⟩
  · rintro ⟨hne, hcheck, parts, hparts, rfl⟩
    rw [(h.splitAuthority_eq_ok_iff authority target).2 ⟨by simp [hne], hcheck, rfl, rfl⟩]
    simp only [bind, Except.bind, hparts]
    rw [if_neg (by simpa using hne)]
    rfl

theorem Written.ofChars_eq
    (h : Written cs scheme authority target) :
    ofChars cs =
      if (utf8Chars cs).length > maxLength then .error .tooLong else readFull cs := by
  have hlong : 7 ≤ cs.length := by
    rw [h.text_eq, List.length_append, h.length_scheme]
    simp
    omega
  have hhead : ∀ rest, cs ≠ '/' :: rest := by
    intro rest hrest
    have hne : scheme ≠ [] := by
      intro hnil
      have hlength := h.length_scheme
      simp [hnil] at hlength
    obtain ⟨c, more, rfl⟩ := List.exists_cons_of_ne_nil hne
    have hc := h.isAlpha c (by simp)
    rw [h.text_eq, List.cons_append] at hrest
    rw [(List.cons.inj hrest).1] at hc
    revert hc
    decide
  unfold ofChars
  split
  · rfl
  · split
    · simp at hlong
    · simp at hlong
    · exact absurd rfl (hhead _)
    · simp at hlong
    · rfl

end Written

section Location

variable {cs scheme authority target : List Char}

/-- Text whose scheme is read as `http` has the parts of such a text. -/
theorem exists_written_of_splitScheme
    {rest : List Char}
    (h : splitScheme cs = .ok (some ("http".toList, rest))) :
    ∃ scheme authority target, Written cs scheme authority target := by
  unfold splitScheme at h
  split at h
  · next after hdrop =>
      have hcs : cs = cs.takeWhile isSchemeChar ++ ':' :: '/' :: '/' :: after := by
        rw [← hdrop]
        exact List.takeWhile_append_dropWhile.symm
      have hname : (cs.takeWhile isSchemeChar).map Char.toLower = "http".toList := by
        dsimp only at h
        split at h
        · cases h
        · split at h
          · next hhttp =>
              rw [equalsIgnoringCase, beq_iff_eq] at hhttp
              exact hhttp
          · split at h
            · have hscheme : "https".toList = "http".toList :=
                congrArg Prod.fst (Option.some.inj (Except.ok.inj h))
              exact absurd hscheme (by decide)
            · split at h
              · cases h
              · have hscheme : cs.takeWhile isSchemeChar = "http".toList :=
                  congrArg Prod.fst (Option.some.inj (Except.ok.inj h))
                rw [hscheme]
                rfl
      refine ⟨cs.takeWhile isSchemeChar, after.takeWhile (!endsAuthority ·),
        after.dropWhile (!endsAuthority ·), ?_, hname, ?_, ?_⟩
      · rw [List.takeWhile_append_dropWhile]
        exact hcs
      · intro c hc
        simpa using List.mem_takeWhile_imp hc
      · intro c hc
        simpa using of_head?_dropWhile hc
  · cases h

/-- Text that is read as a URI of the scheme `http` has the parts of such a text. -/
theorem exists_written_of_ofChars
    {uri : Uri}
    (h : ofChars cs = .ok uri)
    (hscheme : uri.scheme = some "http") :
    ∃ scheme authority target, Written cs scheme authority target := by
  unfold ofChars at h
  split at h
  · cases h
  · split at h
    · cases h
    · cases h
      cases hscheme
    · obtain ⟨parts, -, huri⟩ := bind_eq_ok h
      cases huri
      cases hscheme
    · split at h
      · cases h
      · obtain ⟨found, -, huri⟩ := bind_eq_ok h
        cases huri
        cases hscheme
    · obtain ⟨found, hfound, hread⟩ := bind_eq_ok h
      cases found with
      | none =>
          obtain ⟨read, -, hrest⟩ := bind_eq_ok hread
          simp only at hrest
          split at hrest
          · cases hrest
            cases hscheme
          · cases hrest
      | some found =>
          obtain ⟨name, rest⟩ := found
          obtain ⟨read, -, hrest⟩ := bind_eq_ok hread
          simp only at hrest
          split at hrest
          · cases hrest
          · obtain ⟨parts, -, huri⟩ := bind_eq_ok hrest
            cases huri
            have hname : name = "http".toList := by
              rw [← String.toList_ofList (l := name)]
              exact congrArg String.toList (Option.some.inj hscheme)
            exact exists_written_of_splitScheme (hname ▸ hfound)

/-- The reader of URIs and that of URLs look for the host at the same place. -/
theorem hostAndPort_ofParts
    (scheme : Option (List Char)) (authority : List Char)
    (parts : List Char × Option (List Char)) :
    (ofParts scheme authority parts).hostAndPort = (cutUser authority).2 := by
  simp only [hostAndPort, ofParts, String.toList_ofList]
  by_cases hat : '@' ∈ authority
  · obtain ⟨user, host, rfl, hhost⟩ := eq_append_cons_of_last hat
    rw [cutUser_append hhost, reverse_takeWhile_append hhost]
  · rw [cutUser_of_notMem hat, takeWhile_reverse_of_notMem hat, List.reverse_reverse]

theorem host_ne_empty
    {uri : Uri}
    (h : HostAndPort uri.hostAndPort) :
    uri.host ≠ "" := by
  have hne : ∀ c cs, String.ofList (c :: cs) ≠ "" := by
    intro c cs hempty
    have hnil := congrArg String.toList hempty
    simp at hnil
  unfold host
  generalize uri.hostAndPort = hp at h
  cases h with
  | address =>
      exact hne _ _
  | @name name port hname hopening _ hcolon =>
      obtain ⟨c, more, rfl⟩ := List.exists_cons_of_ne_nil hname
      rw [List.mem_cons, not_or] at hopening hcolon
      split
      · next hbracket =>
          exact absurd (List.cons.inj hbracket).1.symm hopening.1
      · have hc : (c != ':') = true :=
          bne_iff_ne.2 (Ne.symm hcolon.1)
        rw [List.cons_append, List.takeWhile_cons, hc]
        exact hne c _

theorem parseLocation_eq_ok_iff
    (text : String) (uri : Uri) :
    parseLocation text = .ok uri
      ↔
    ofChars text.toList = .ok uri ∧ uri.scheme = some "http" ∧ uri.host ≠ "" := by
  unfold parseLocation parse
  constructor
  · intro h
    split at h
    · cases h
    · next read hread =>
        split at h
        · cases h
        · next scheme hscheme =>
            split at h
            · cases h
            · next hhttp =>
                split at h
                · cases h
                · next hhost =>
                    cases h
                    rw [ne_eq, Decidable.not_not] at hhttp
                    exact ⟨hread, hhttp ▸ hscheme, hhost⟩
  · rintro ⟨hread, hscheme, hhost⟩
    rw [hread]
    simp only [hscheme]
    rw [if_neg (by decide), if_neg hhost]

/--
Text in its parts, with a host and a port in its authority, is a location exactly
when it is not too long and the characters of its parts pass their checks.
-/
theorem Written.parseLocation_iff
    {text : String}
    (h : Written text.toList scheme authority target)
    (hhost : HostAndPort (cutUser authority).2) :
    (∃ uri, parseLocation text = .ok uri)
      ↔
    (utf8 text).length ≤ maxLength ∧
      userPasses ((cutUser authority).1.getD []) (cutUser authority).2 = true ∧
      (∀ c ∈ (cutUser authority).2, isAuthorityChar c = true) ∧
      ∃ parts, readTarget target = .ok parts := by
  have hne : authority ≠ [] := by
    rintro rfl
    exact hhost.ne_nil rfl
  have hlength : (utf8Chars text.toList).length = (utf8 text).length := rfl
  rw [← and_assoc (a := userPasses _ _ = true), ← checkAuthority_iff_of_hostAndPort hhost]
  constructor
  · rintro ⟨uri, huri⟩
    have hread := ((parseLocation_eq_ok_iff text uri).1 huri).1
    rw [h.ofChars_eq] at hread
    split at hread
    · cases hread
    · next hlong =>
        obtain ⟨-, hcheck, parts, hparts, -⟩ := (h.readFull_eq_ok_iff uri).1 hread
        exact ⟨Nat.not_lt.1 hlong, hcheck, parts, hparts⟩
  · rintro ⟨hlong, hcheck, parts, hparts⟩
    refine ⟨ofParts (some "http".toList) authority parts, ?_⟩
    rw [parseLocation_eq_ok_iff]
    refine ⟨?_, rfl, host_ne_empty ?_⟩
    · rw [h.ofChars_eq, if_neg (by rw [hlength]; exact Nat.not_lt.2 hlong)]
      exact (h.readFull_eq_ok_iff _).2 ⟨hne, hcheck, parts, hparts, rfl⟩
    · rw [hostAndPort_ofParts]
      exact hhost

end Location

end Uri
end SidecarProxy
