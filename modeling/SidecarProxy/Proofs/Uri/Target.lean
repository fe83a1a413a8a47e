import SidecarProxy.Proofs.Uri.Joined

/-!
# Paths and queries behind an authority

The text behind an authority is a path, a query and a fragment, of which the
last two may be missing.  Main statements: the reader finds exactly the path and
the query of such text, and in every URI that is read the characters of both
are legal where they stand.
-/

namespace SidecarProxy
namespace Uri

open Text

section Parts

/-- A query as it is written, with its question mark. -/
def queryText : Option (List Char) → List Char
  | none => []
  | some query => '?' :: query

/-- Text in its parts: a path, perhaps a query, and perhaps a fragment. -/
structure TargetParts
    (cs path : List Char) (query : Option (List Char)) (fragment : List Char) : Prop where
  text_eq : cs = path ++ (queryText query ++ fragment)
  path_legal : ∀ c ∈ path, isPathChar c = true
  query_legal : ∀ q, query = some q → ∀ c ∈ q, isQueryChar c = true
  fragment_head : ∀ c, fragment.head? = some c → c = '#'

theorem notMem_of_illegal
    {legal : Char → Bool} {c : Char} {cs : List Char}
    (hc : legal c = false)
    (hcs : ∀ d ∈ cs, legal d = true) :
    c ∉ cs := by
  intro hmem
  rw [hcs c hmem] at hc
  cases hc

theorem hash_notMem_queryText
    {query : Option (List Char)}
    (hquery : ∀ q, query = some q → ∀ c ∈ q, isQueryChar c = true) :
    '#' ∉ queryText query := by
  cases query with
  | none =>
      simp [queryText]
  | some q =>
      have hq : '#' ∉ q := notMem_of_illegal (by decide) (hquery q rfl)
      simpa [queryText] using hq

theorem inPath_of_isPathChar
    {c : Char}
    (hc : isPathChar c = true) :
    inPath c = true := by
  have hne : ∀ d : Char, isPathChar d = false → c ≠ d := by
    rintro d hd rfl
    rw [hc] at hd
    cases hd
  simp [inPath, hne '?' (by decide), hne '#' (by decide)]

theorem ne_hash_of_isQueryChar
    {c : Char}
    (hc : isQueryChar c = true) :
    c ≠ '#' := by
  rintro rfl
  revert hc
  decide

variable {cs path fragment : List Char} {query : Option (List Char)}

/-- The reader stops at the query or at the fragment. -/
theorem TargetParts.head_eq
    (h : TargetParts cs path query fragment) :
    ∀ c, (queryText query ++ fragment).head? = some c → inPath c = false := by
  intro c hc
  cases query with
  | none =>
      rw [h.fragment_head c hc]
      rfl
  | some q =>
      cases hc
      rfl

/-- A path and a query are read as they are written. -/
theorem TargetParts.readTarget_eq
    (h : TargetParts cs path query fragment) :
    readTarget cs = .ok (path, query) := by
  have hin : (fun c : Char => c != '?' && c != '#') = inPath := rfl
  have hpath : ∀ c ∈ path, inPath c = true :=
    fun c hc => inPath_of_isPathChar (h.path_legal c hc)
  have hlegal : path.all isPathChar = true :=
    List.all_eq_true.2 h.path_legal
  rw [h.text_eq]
  simp only [readTarget, hin]
  rw [takeWhile_append_eq hpath h.head_eq, dropWhile_append_eq hpath h.head_eq, hlegal]
  cases query with
  | none =>
      cases fragment with
      | nil =>
          rfl
      | cons c fragment =>
          rw [h.fragment_head c rfl]
          rfl
  | some q =>
      have hquery : ∀ c ∈ q, (c != '#') = true :=
        fun c hc => bne_iff_ne.2 (ne_hash_of_isQueryChar (h.query_legal q rfl c hc))
      have hstop : ∀ c, fragment.head? = some c → (c != '#') = false := by
        intro c hc
        rw [h.fragment_head c hc]
        rfl
      have hall : q.all isQueryChar = true :=
        List.all_eq_true.2 (h.query_legal q rfl)
      simp only [queryText, List.cons_append, takeWhile_append_eq hquery hstop, hall,
        Bool.not_true, Bool.false_eq_true, if_false, if_true]

/-- What is read are the parts of the text. -/
theorem exists_targetParts
    (h : readTarget cs = .ok (path, query)) :
    ∃ fragment, TargetParts cs path query fragment := by
  have hin : (fun c : Char => c != '?' && c != '#') = inPath := rfl
  have hcut : cs.takeWhile inPath ++ cs.dropWhile inPath = cs :=
    List.takeWhile_append_dropWhile
  simp only [readTarget, hin] at h
  split at h
  · cases h
  · next hlegal =>
      rw [Bool.not_eq_true, Bool.not_eq_false'] at hlegal
      have hpath := List.all_eq_true.1 hlegal
      split at h
      · next rest hrest =>
          split at h
          · next hall =>
              cases h
              refine ⟨rest.dropWhile (· != '#'), ?_, hpath, ?_, ?_⟩
              · rw [queryText, List.cons_append, List.takeWhile_append_dropWhile, ← hrest, hcut]
              · rintro q hq
                cases hq
                exact List.all_eq_true.1 hall
              · intro c hc
                simpa using of_head?_dropWhile hc
          · cases h
      · next hother =>
          cases h
          refine ⟨cs.dropWhile inPath, hcut.symm, hpath, by simp, ?_⟩
          intro c hc
          have hstop := of_head?_dropWhile hc
          have hquery : c ≠ '?' := by
            rintro rfl
            obtain ⟨rest, hrest⟩ := List.head?_eq_some_iff.1 hc
            exact hother rest hrest
          simpa [inPath, hquery] using hstop

/-- A query without a fragment behind it is read to its end. -/
theorem readTarget_query_eq
    {q : List Char} {parts : List Char × Option (List Char)}
    (hpath : ∀ c ∈ path, isPathChar c = true)
    (hq : '#' ∉ q)
    (h : readTarget (path ++ '?' :: q) = .ok parts) :
    parts = (path, some q) := by
  have hin : (fun c : Char => c != '?' && c != '#') = inPath := rfl
  have hpathIn : ∀ c ∈ path, inPath c = true :=
    fun c hc => inPath_of_isPathChar (hpath c hc)
  have hstop : ∀ c, ('?' :: q).head? = some c → inPath c = false := by
    intro c hc
    cases hc
    rfl
  have hwhole : q.takeWhile (· != '#') = q := by
    rw [List.takeWhile_eq_self_iff]
    intro c hc
    rw [bne_iff_ne]
    rintro rfl
    exact hq hc
  simp only [readTarget, hin] at h
  rw [takeWhile_append_eq hpathIn hstop, dropWhile_append_eq hpathIn hstop] at h
  split at h
  · cases h
  · simp only [hwhole] at h
    split at h
    · cases h
      rfl
    · cases h

end Parts

section Legal

/-- A URI whose path and query hold legal characters only. -/
structure Legal (u : Uri) : Prop where
  path_legal : ∀ c ∈ u.path.toList, isPathChar c = true
  query_legal : ∀ q, u.query = some q → ∀ c ∈ q.toList, isQueryChar c = true

theorem TargetParts.legal_ofParts
    {cs path fragment : List Char} {query : Option (List Char)}
    (h : TargetParts cs path query fragment)
    (scheme : Option (List Char)) (authority : List Char) :
    (ofParts scheme authority (path, query)).Legal where
  path_legal := by
    unfold Uri.path
    split
    · simpa [ofParts] using h.path_legal
    · split
      · exact List.forall_mem_singleton.2 (by decide : isPathChar '/' = true)
      · exact List.forall_mem_nil _
  query_legal := by
    intro q hq
    obtain ⟨cs, hcs, rfl⟩ := Option.map_eq_some_iff.1 hq
    simpa using h.query_legal cs hcs

/-- Every URI that is read is legal. -/
theorem legal_of_parse
    {text : String} {u : Uri}
    (h : Uri.parse text = .ok u) :
    u.Legal := by
  have hstar : TargetParts ['*'] ['*'] none [] :=
    ⟨rfl, List.forall_mem_singleton.2 (by decide), nofun, nofun⟩
  have hempty : TargetParts [] [] none [] := ⟨rfl, List.forall_mem_nil _, nofun, nofun⟩
  unfold Uri.parse ofChars at h
  split at h
  · cases h
  · split at h
    · cases h
    · cases h
      exact hstar.legal_ofParts _ _
    · obtain ⟨⟨path, query⟩, hparts, hu⟩ := bind_eq_ok h
      cases hu
      obtain ⟨fragment, hfragment⟩ := exists_targetParts hparts
      exact hfragment.legal_ofParts _ _
    · split at h
      · cases h
      · obtain ⟨read, -, hu⟩ := bind_eq_ok h
        cases hu
        exact hempty.legal_ofParts _ _
    · obtain ⟨found, -, hread⟩ := bind_eq_ok h
      cases found with
      | none =>
          obtain ⟨read, -, hrest⟩ := bind_eq_ok hread
          dsimp only at hrest
          split at hrest
          · cases hrest
            exact hempty.legal_ofParts _ _
          · cases hrest
      | some found =>
          obtain ⟨read, -, hrest⟩ := bind_eq_ok hread
          dsimp only at hrest
          split at hrest
          · cases hrest
          · obtain ⟨⟨path, query⟩, hparts, hu⟩ := bind_eq_ok hrest
            cases hu
            obtain ⟨fragment, hfragment⟩ := exists_targetParts hparts
            exact hfragment.legal_ofParts _ _

end Legal

end Uri
end SidecarProxy
