import SidecarProxy.Dispatch.Destination
import SidecarProxy.Proofs.Uri.Location

/-!
# Locations with a path behind them

A request is sent to a location without its slashes at the end, followed by the
path and the query of the request.  Main statement: behind a location without a
query this is a location again, as long as it is not too long.
-/

namespace SidecarProxy
namespace Uri

open Text WebUrl Route Dispatch

section Slashes

/-- Text without the slashes at its end. -/
def withoutSlashes
    (cs : List Char) :
    List Char :=
  (cs.reverse.dropWhile (· == '/')).reverse

theorem withoutSlashes_isPrefix
    (cs : List Char) :
    withoutSlashes cs <+: cs := by
  refine ⟨(cs.reverse.takeWhile (· == '/')).reverse, ?_⟩
  rw [withoutSlashes, ← List.reverse_append, List.takeWhile_append_dropWhile,
    List.reverse_reverse]

theorem withoutSlashes_append
    {front back : List Char}
    (hne : front ≠ [])
    (hfront : '/' ∉ front)
    (before : List Char) :
    withoutSlashes (before ++ front ++ back) = before ++ front ++ withoutSlashes back := by
  have hlast : ∀ c, (before ++ front).reverse.head? = some c → (c == '/') = false := by
    intro c hc
    have hback : front.reverse.head? = some c := by
      obtain ⟨d, more, hcons⟩ := List.exists_cons_of_ne_nil (List.reverse_ne_nil_iff.2 hne)
      simpa [hcons] using hc
    have hmem : c ∈ front := List.mem_reverse.1 (List.mem_of_mem_head? hback)
    rw [beq_eq_false_iff_ne]
    rintro rfl
    exact hfront hmem
  rw [withoutSlashes, List.reverse_append, dropWhile_append_of_head hlast,
    List.reverse_append, List.reverse_reverse, withoutSlashes]

end Slashes

section Targets

/-- A character before the query and the fragment. -/
def inPath (c : Char) : Bool :=
  c != '?' && c != '#'

theorem readTarget_eq_ok_iff
    (cs : List Char) :
    (∃ parts, readTarget cs = .ok parts)
      ↔
    (∀ c ∈ cs.takeWhile inPath, isPathChar c = true) ∧
      ∀ rest, cs.dropWhile inPath = '?' :: rest →
        ∀ c ∈ rest.takeWhile (· != '#'), isQueryChar c = true := by
  have hin : (fun c : Char => c != '?' && c != '#') = inPath := rfl
  simp only [readTarget, hin]
  by_cases hpath : (cs.takeWhile inPath).all isPathChar = true
  · have hchars := List.all_eq_true.1 hpath
    simp only [hpath, Bool.not_true, Bool.false_eq_true, if_false]
    split
    · next rest hrest =>
        rw [hrest]
        by_cases hquery : (rest.takeWhile (· != '#')).all isQueryChar = true
        · have hall := List.all_eq_true.1 hquery
          simp only [hquery, if_true]
          constructor
          · rintro -
            refine ⟨hchars, ?_⟩
            intro rest' hsame
            obtain ⟨-, rfl⟩ := List.cons.inj hsame
            exact hall
          · exact fun _ => ⟨_, rfl⟩
        · simp only [hquery]
          constructor
          · rintro ⟨parts, hparts⟩
            cases hparts
          · rintro ⟨-, hall⟩
            exact absurd (List.all_eq_true.2 (hall rest rfl)) hquery
    · next hother =>
        constructor
        · rintro -
          exact ⟨hchars, fun rest hrest => absurd hrest (hother rest)⟩
        · exact fun _ => ⟨_, rfl⟩
  · have hchars : ¬∀ c ∈ cs.takeWhile inPath, isPathChar c = true := by
      rwa [← List.all_eq_true]
    simp [hpath, hchars]

/-- A path that may be read can stand behind another one that has no query. -/
theorem readTarget_join
    {target back : List Char}
    (hquery : '?' ∉ target)
    (htarget : ∃ parts, readTarget target = .ok parts)
    (hback : ∃ parts, readTarget back = .ok parts) :
    ∃ parts, readTarget (withoutSlashes target ++ back) = .ok parts := by
  rw [readTarget_eq_ok_iff] at htarget hback ⊢
  obtain ⟨slashes, hsplit⟩ := withoutSlashes_isPrefix target
  generalize withoutSlashes target = front at hsplit ⊢
  have hfront : '?' ∉ front := fun hmem => hquery (hsplit ▸ List.mem_append_left _ hmem)
  by_cases hfragment : '#' ∈ front
  -- Behind a fragment nothing counts any more.
  · obtain ⟨before, after, rfl, hbefore⟩ := List.eq_append_cons_of_mem hfragment
    have hin : ∀ c ∈ before, inPath c = true := by
      intro c hc
      simp only [inPath, Bool.and_eq_true, bne_iff_ne]
      exact ⟨fun h => hfront (List.mem_append_left _ (h ▸ hc)), fun h => hbefore (h ▸ hc)⟩
    have hstop : ∀ more : List Char, ∀ c, ('#' :: more).head? = some c → inPath c = false := by
      intro more c hc
      cases hc
      rfl
    rw [← hsplit, List.append_assoc, List.cons_append,
      takeWhile_append_eq hin (hstop _)] at htarget
    rw [List.append_assoc, List.cons_append, takeWhile_append_eq hin (hstop _),
      dropWhile_append_eq hin (hstop _)]
    refine ⟨htarget.1, ?_⟩
    intro rest hrest
    exact absurd (List.cons.inj hrest).1 (by decide)
  · have hin : ∀ c ∈ front, inPath c = true := by
      intro c hc
      simp only [inPath, Bool.and_eq_true, bne_iff_ne]
      exact ⟨fun h => hfront (h ▸ hc), fun h => hfragment (h ▸ hc)⟩
    rw [← hsplit, List.takeWhile_append_of_pos hin] at htarget
    rw [List.takeWhile_append_of_pos hin, List.dropWhile_append_of_pos hin]
    refine ⟨?_, hback.2⟩
    intro c hc
    rcases List.mem_append.1 hc with hc | hc
    · exact htarget.1 c (List.mem_append_left _ hc)
    · exact hback.1 c hc

end Targets

section Destinations

variable {scheme authority target : List Char}

/-- What is joined has the scheme and the authority of the location. -/
theorem Written.destinationUrl
    {url back : String}
    (h : Written url.toList scheme authority target)
    (hne : authority ≠ [])
    (hback : back.toList.head? = some '/') :
    Written (destinationUrl url back).toList scheme authority
      (withoutSlashes target ++ back.toList) := by
  have hslash : '/' ∉ authority := by
    intro hmem
    have hopen := h.authority_open '/' hmem
    cases hopen
  have htext : (Dispatch.destinationUrl url back).toList =
      withoutSlashes url.toList ++ back.toList := by
    simp [Dispatch.destinationUrl, withoutSlashes]
  have hassoc : scheme ++ ':' :: '/' :: '/' :: (authority ++ target) =
      scheme ++ [':', '/', '/'] ++ authority ++ target := by
    simp
  refine ⟨?_, h.scheme_eq, h.authority_open, ?_⟩
  · rw [htext, h.text_eq, hassoc, withoutSlashes_append hne hslash]
    simp
  · intro c hc
    obtain ⟨slashes, hsplit⟩ := withoutSlashes_isPrefix target
    cases hfront : withoutSlashes target with
    | nil =>
        rw [hfront, List.nil_append, hback] at hc
        cases hc
        rfl
    | cons d front =>
        rw [hfront] at hc hsplit
        refine h.target_cut c ?_
        rw [← hsplit]
        simpa using hc

end Destinations

end Uri
end SidecarProxy
