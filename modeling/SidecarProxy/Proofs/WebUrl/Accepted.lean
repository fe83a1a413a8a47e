import SidecarProxy.Proofs.Uri.Location

/-!
# URLs that are accepted

Blanks at the ends of a URL, line ends in it and further slashes do not count,
so that its text and its parts can differ.  Main statement: where the text is
written with the scheme `http` and an authority of plain characters, exactly
this authority is read.
-/

namespace SidecarProxy
namespace WebUrl

open Text Uri

section Significant

variable {front back : List Char}

/-- A search for blanks from behind ends at text that has none. -/
theorem dropWhile_reverse_append
    (hfront : ∀ c ∈ front, isControlOrBlank c = false) :
    (front ++ back).reverse.dropWhile isControlOrBlank =
      back.reverse.dropWhile isControlOrBlank ++ front.reverse := by
  rw [List.reverse_append]
  exact dropWhile_append_of_head fun c hc =>
    hfront c (List.mem_reverse.1 (List.mem_of_mem_head? hc))

/-- A text in front whose characters all count is kept, and so is the character behind it. -/
theorem significant_append
    (hne : front ≠ [])
    (hfront : ∀ c ∈ front, isControlOrBlank c = false)
    (hback : ∀ c, back.head? = some c → isControlOrBlank c = false) :
    ∃ kept, significant (front ++ back) = front ++ kept ∧ kept.head? = back.head? := by
  have hskipped : ∀ c, isControlOrBlank c = false → (!isSkipped c) = true := by
    intro c hc
    by_cases hskip : isSkipped c = true
    · simp only [isSkipped, Bool.or_eq_true, beq_iff_eq] at hskip
      rcases hskip with (rfl | rfl) | rfl <;> cases hc
    · simp [hskip]
  have hstart : (front ++ back).dropWhile isControlOrBlank = front ++ back := by
    obtain ⟨c, more, rfl⟩ := List.exists_cons_of_ne_nil hne
    rw [List.cons_append, List.dropWhile_cons, hfront c (by simp)]
    rfl
  have hfilter : front.filter (!isSkipped ·) = front :=
    List.filter_eq_self.2 fun c hc => hskipped c (hfront c hc)
  refine ⟨((back.reverse.dropWhile isControlOrBlank).reverse).filter (!isSkipped ·), ?_, ?_⟩
  · rw [significant, hstart, dropWhile_reverse_append hfront, List.reverse_append,
      List.reverse_reverse, List.filter_append, hfilter]
  · cases back with
    | nil =>
        rfl
    | cons c more =>
        have hc := hback c rfl
        have hkept : (c :: more).reverse.dropWhile isControlOrBlank =
            more.reverse.dropWhile isControlOrBlank ++ [c] :=
          @dropWhile_reverse_append [c] more (by simpa using hc)
        rw [hkept]
        simp [hskipped c hc]

end Significant

section Reading

variable {cs scheme authority target : List Char}

/-- The scheme `http` is read from its letters, whatever their case. -/
theorem readScheme_append
    (hscheme : scheme.map Char.toLower = "http".toList)
    (halpha : ∀ c ∈ scheme, c.isAlpha = true)
    (rest : List Char) :
    readScheme (scheme ++ ':' :: rest) = some ("http", rest) := by
  have hchars : ∀ c ∈ scheme,
      (c.isAlphanum || c == '+' || c == '-' || c == '.') = true := by
    intro c hc
    simp [Char.isAlphanum, halpha c hc]
  have hcolon : ∀ c, (':' :: rest).head? = some c →
      (c.isAlphanum || c == '+' || c == '-' || c == '.') = false := by
    intro c hc
    cases hc
    decide
  have hlower : lowerAscii (String.ofList scheme) = "http" := by
    rw [lowerAscii, String.toList_ofList, hscheme]
    rfl
  unfold readScheme
  simp only [takeWhile_append_eq hchars hcolon, dropWhile_append_eq hchars hcolon]
  cases scheme with
  | nil =>
      cases hscheme
  | cons c name =>
      simp only [halpha c (by simp), if_true, hlower]

/-- The characters of an authority that both readers cut at the same place. -/
def isPlain (c : Char) : Bool :=
  !isControlOrBlank c && c != '\\' && !Uri.endsAuthority c

theorem not_isControlOrBlank_of_isAlphanum
    {c : Char}
    (h : c.isAlphanum = true) :
    isControlOrBlank c = false := by
  have hval : c.toNat = c.val.toNat := rfl
  have hfirst : 'A'.val ≤ c.val ∨ 'a'.val ≤ c.val ∨ '0'.val ≤ c.val := by
    rcases Bool.or_eq_true_iff.1 h with halpha | hdigit
    · rcases Bool.or_eq_true_iff.1 halpha with hupper | hlower
      · exact Or.inl (of_decide_eq_true hupper).1
      · exact Or.inr (Or.inl (of_decide_eq_true (Bool.and_eq_true_iff.1 hlower).1))
    · exact Or.inr (Or.inr (of_decide_eq_true (Bool.and_eq_true_iff.1 hdigit).1))
  simp only [UInt32.le_iff_toNat_le] at hfirst
  rw [isControlOrBlank, decide_eq_false_iff_not, hval]
  rcases hfirst with hle | hle | hle
  all_goals
    simp at hle
    omega

theorem isPlain_of_isAuthorityChar
    {c : Char}
    (h : isAuthorityChar c = true ∨ c = '%')
    (hopen : Uri.endsAuthority c = false) :
    isPlain c = true := by
  have hmarks : "!$&'()*+,-.:;=@[]_~".toList.all (!isControlOrBlank ·) = true := by
    decide
  rcases h with h | rfl
  · have hblank : isControlOrBlank c = false := by
      rw [isAuthorityChar, Bool.or_eq_true, decide_eq_true_eq] at h
      rcases h with h | h
      · exact not_isControlOrBlank_of_isAlphanum h
      · simpa using List.all_eq_true.1 hmarks c h
    have hback : c ≠ '\\' := by
      rintro rfl
      revert h
      decide
    simp [isPlain, hblank, hback, hopen]
  · decide

theorem readAfterSlashes_eq_ok
    {url : WebUrl}
    (hauthority : ∀ c ∈ authority, isPlain c = true)
    (htarget : ∀ c, target.head? = some c → Uri.endsAuthority c = true)
    (h : readAfterSlashes "http" (authority ++ target) = .ok url) :
    ∃ a, readAuthority "http" authority target.isEmpty = .ok a := by
  have hopen : ∀ c ∈ authority, (!endsAuthority (kindOf "http") c) = true := by
    intro c hc
    have hplain := hauthority c hc
    simp only [isPlain, Bool.and_eq_true, Bool.not_eq_true', bne_iff_ne] at hplain
    have hends : Uri.endsAuthority c = false := hplain.2
    simp only [Uri.endsAuthority] at hends
    simp [endsAuthority, hends, hplain.1.2]
  have hcut : ∀ c, target.head? = some c → (!endsAuthority (kindOf "http") c) = false := by
    intro c hc
    have hends := htarget c hc
    simp only [Uri.endsAuthority] at hends
    simp [endsAuthority, hends]
  unfold readAfterSlashes at h
  simp only [takeWhile_append_eq hopen hcut, dropWhile_append_eq hopen hcut] at h
  obtain ⟨a, ha, -⟩ := bind_eq_ok h
  exact ⟨a, ha⟩

theorem not_blank_of_isPlain
    {c : Char}
    (h : isPlain c = true) :
    isControlOrBlank c = false := by
  simp only [isPlain, Bool.and_eq_true, Bool.not_eq_true'] at h
  exact h.1.1

theorem not_slash_of_isPlain
    {c : Char}
    (h : isPlain c = true) :
    (c == '/' || c == '\\') = false := by
  have hslash : c ≠ '/' := by
    rintro rfl
    revert h
    decide
  have hback : c ≠ '\\' := by
    rintro rfl
    revert h
    decide
  simp [hslash, hback]

/-- The slashes behind the scheme are passed over, and the rest of the text is read. -/
theorem parse_eq_readAfterSlashes
    {text : String} {kept : List Char}
    (hscheme : scheme.map Char.toLower = "http".toList)
    (halpha : ∀ c ∈ scheme, c.isAlpha = true)
    (hne : authority ≠ [])
    (hplain : ∀ c ∈ authority, isPlain c = true)
    (hsignificant :
      significant text.toList = scheme ++ ':' :: '/' :: '/' :: authority ++ kept) :
    parse text = readAfterSlashes "http" (authority ++ kept) := by
  have hassoc : scheme ++ ':' :: '/' :: '/' :: authority ++ kept =
      scheme ++ ':' :: ('/' :: '/' :: (authority ++ kept)) := by
    simp
  have hdrop : ('/' :: '/' :: (authority ++ kept)).dropWhile (fun c => c == '/' || c == '\\') =
      authority ++ kept := by
    obtain ⟨c, more, rfl⟩ := List.exists_cons_of_ne_nil hne
    have hc := not_slash_of_isPlain (hplain c (by simp))
    rw [List.dropWhile_cons_of_pos (by decide), List.dropWhile_cons_of_pos (by decide),
      List.cons_append, List.dropWhile_cons, hc]
    rfl
  unfold parse
  rw [hsignificant, hassoc, readScheme_append hscheme halpha]
  have hkind : kindOf "http" = .web := by
    decide
  simp only [hkind, hdrop]

/-- A URL that is accepted has a host and a port where the authority of its text has them. -/
theorem hostAndPort_of_parse
    {text : String} {url : WebUrl}
    (hwritten : Written text.toList scheme authority target)
    (hne : authority ≠ [])
    (hchars : ∀ c ∈ authority, isAuthorityChar c = true ∨ c = '%')
    (h : parse text = .ok url) :
    HostAndPort (cutUser authority).2 := by
  have hplain : ∀ c ∈ authority, isPlain c = true := fun c hc =>
    isPlain_of_isAuthorityChar (hchars c hc) (hwritten.authority_open c hc)
  have hfront : ∀ c ∈ scheme ++ ':' :: '/' :: '/' :: authority, isControlOrBlank c = false := by
    intro c hc
    simp only [List.mem_append, List.mem_cons] at hc
    rcases hc with hc | rfl | rfl | rfl | hc
    · exact not_isControlOrBlank_of_isAlphanum
        (by simp [Char.isAlphanum, hwritten.isAlpha c hc])
    · decide
    · decide
    · decide
    · exact not_blank_of_isPlain (hplain c hc)
  have hback : ∀ c, target.head? = some c → isControlOrBlank c = false := by
    intro c hc
    have hends := hwritten.target_cut c hc
    simp only [Uri.endsAuthority, Bool.or_eq_true, beq_iff_eq] at hends
    rcases hends with (rfl | rfl) | rfl <;> decide
  obtain ⟨kept, hkept, hhead⟩ := significant_append (by simp) hfront hback
  have htext : text.toList = scheme ++ ':' :: '/' :: '/' :: authority ++ target := by
    rw [hwritten.text_eq]
    simp
  rw [← htext] at hkept
  rw [parse_eq_readAfterSlashes hwritten.scheme_eq hwritten.isAlpha hne hplain hkept] at h
  obtain ⟨a, ha⟩ := readAfterSlashes_eq_ok hplain
    (fun c hc => hwritten.target_cut c (hhead ▸ hc)) h
  refine hostAndPort_of_readAuthority (by decide) ?_ ha
  intro hmem
  exact absurd (hplain '\\' (mem_of_mem_cutUser hmem)) (by decide)

end Reading

end WebUrl
end SidecarProxy
