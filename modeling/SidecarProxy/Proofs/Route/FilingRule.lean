import SidecarProxy.Proofs.Route.LiteralReach
import SidecarProxy.Proofs.Route.Orderly

/-!
# Filing against matching

An endpoint is filed by its trimmed texts: by its pattern when that is rooted,
and else by its literal path.  It is matched by its texts as they were written,
and by the literal path only when there is no pattern at all.  Main statement: a
request that belongs to an endpoint by the first rule is sure to find an entry
exactly when it belongs to it by the second one, which apart from a star in front
and a blank at the end of the path means that the text was written plainly.
-/

namespace SidecarProxy
namespace Route

open Catalog Text Pattern

section Rules

/-- The rule of filing: trimmed texts, and the literal path when the pattern is not rooted. -/
def FiledFor
    (e : Endpoint) (path : String) :
    Prop :=
  match e.pathPattern.bind rooted? with
  | some pattern => Accepts (utf8 pattern) (utf8 path)
  | none => e.path.bind rooted? = some path

/-- The rule of matching: the texts as they were written, and the pattern whenever there is one. -/
def WrittenFor
    (e : Endpoint) (path : String) :
    Prop :=
  match e.pathPattern, e.path with
  | some pattern, _ => Accepts (utf8 pattern) (utf8 path)
  | none, some literal => literal.toList <+: path.toList
  | none, none => False

/-- The text that is matched is rooted and trimmed as it stands. -/
def PlainlyWritten
    (e : Endpoint) :
    Prop :=
  ∃ text, e.pathPattern.or e.path = some text ∧ rooted? text = some text

/--
A request finds an entry in the table of every accepted module that offers the
endpoint on an interface of its own, under any limit that covers its pattern.
-/
def SurelyFound
    (e : Endpoint) (q : Query) :
    Prop :=
  ∀ (m : Matcher) (d : ModuleDescription) (location : Option String) (t : Table),
    ({ matcher := m } : Table).addModule d location = .ok t →
      ∀ i ∈ d.interfaces, i.kind ≠ .multiple → e ∈ i.endpoints →
        (∀ pattern ∈ e.pathPattern, work pattern q.path ≤ m.limit) →
          ∃ found, t.lookup q = some found

theorem filedFor_of_pattern
    {e : Endpoint} {pattern path : String}
    (hpattern : e.pathPattern.bind rooted? = some pattern)
    (h : Accepts (utf8 pattern) (utf8 path)) :
    FiledFor e path := by
  rw [FiledFor, hpattern]
  exact h

theorem filedFor_of_literal
    {e : Endpoint} {path : String}
    (hpattern : e.pathPattern.bind rooted? = none)
    (hliteral : e.path.bind rooted? = some path) :
    FiledFor e path := by
  rw [FiledFor, hpattern]
  exact hliteral

end Rules

section Rooted

theorem rooted?_eq_some
    {text rooted : String}
    (h : rooted? text = some rooted) :
    trim text = rooted ∧ rooted.toList.head? = some '/' := by
  unfold rooted? at h
  dsimp only at h
  split at h
  · next hroot =>
      cases h
      exact ⟨rfl, hroot⟩
  · cases h

theorem head?_of_bind_rooted?
    {text : Option String} {rooted : String}
    (h : text.bind rooted? = some rooted) :
    rooted.toList.head? = some '/' := by
  obtain ⟨text, -, htext⟩ := Option.bind_eq_some_iff.1 h
  exact (rooted?_eq_some htext).2

theorem rooted?_self
    {text : String}
    (hroot : text.toList.head? = some '/')
    (hlast : ∀ c, text.toList.getLast? = some c → isBlankChar c = false) :
    rooted? text = some text := by
  have hhead : ∀ c, text.toList.head? = some c → isBlankChar c = false := by
    intro c hc
    rw [hroot] at hc
    cases hc
    decide
  have htrim : trim text = text := by
    rw [trim, trimChars_eq_self hhead hlast, String.ofList_toList]
  simp [rooted?, htrim, hroot]

theorem leadsTo_of_filedFor
    {e : Endpoint} {path : String}
    (h : FiledFor e path) :
    ∃ key, endpointKey? e = some key ∧ LeadsTo path.toList key.toList := by
  unfold FiledFor at h
  unfold endpointKey?
  cases hpattern : e.pathPattern.bind rooted? with
  | some pattern =>
      rw [hpattern] at h
      refine ⟨patternKey pattern, rfl, ?_⟩
      rw [patternKey, String.toList_ofList]
      exact leadsTo_patternKeyChars (head?_of_bind_rooted? hpattern) h
  | none =>
      rw [hpattern] at h
      exact ⟨path, h, Or.inl rfl⟩

theorem head?_of_filedFor
    {e : Endpoint} {path : String}
    (h : FiledFor e path) :
    path.toList.head? = some '/' := by
  unfold FiledFor at h
  split at h
  · next pattern hpattern =>
      obtain ⟨rest, hrest⟩ := List.head?_eq_some_iff.1 (head?_of_bind_rooted? hpattern)
      rw [utf8, hrest, ← List.singleton_append] at h
      obtain ⟨more, hmore, -⟩ := literal_prefix_path (by decide) (by decide) h
      rw [hmore]
      rfl
  · exact head?_of_bind_rooted? h

end Rooted

section Matching

variable {m : Matcher} {e : Endpoint} {path : String}

theorem writtenFor_of_coversPath
    (h : coversPath m e path = true) :
    WrittenFor e path := by
  unfold coversPath at h
  unfold WrittenFor
  cases hpattern : e.pathPattern with
  | some pattern =>
      rw [hpattern] at h
      exact accepts_of_matches h
  | none =>
      rw [hpattern] at h
      cases hliteral : e.path with
      | some literal =>
          rw [hliteral] at h
          exact List.isPrefixOf_iff_prefix.1 h
      | none =>
          rw [hliteral] at h
          cases h

theorem coversPath_of_writtenFor
    (hlimit : ∀ pattern ∈ e.pathPattern, work pattern path ≤ m.limit)
    (h : WrittenFor e path) :
    coversPath m e path = true := by
  unfold WrittenFor at h
  unfold coversPath
  cases hpattern : e.pathPattern with
  | some pattern =>
      rw [hpattern] at h
      exact (matches_iff_work_le m pattern path).2 ⟨h, hlimit pattern hpattern⟩
  | none =>
      rw [hpattern] at h
      cases hliteral : e.path with
      | some literal =>
          rw [hliteral] at h
          exact List.isPrefixOf_iff_prefix.2 h
      | none =>
          rw [hliteral] at h
          exact h.elim

theorem surelyFound_of_writtenFor
    {q : Query}
    (hmethod : e.allows q.method = true)
    (hfiled : FiledFor e q.path)
    (h : WrittenFor e q.path) :
    SurelyFound e q := by
  intro m d location t hadd i hi hkind he hlimit
  obtain ⟨key, hkey, hleads⟩ := leadsTo_of_filedFor hfiled
  have hbucket : declaredEntry d location i e ∈ t.buckets.get key := by
    rw [get_of_addModule hadd, List.mem_eraseDups, List.mem_filter]
    refine ⟨List.mem_flatMap.2 ⟨i, hi, List.mem_map_of_mem he⟩, ?_⟩
    simp [Entry.key?, declaredEntry, hkey]
  have hmatcher : t.matcher = m := by
    obtain ⟨keyed, -, rfl⟩ := addModule_eq_ok hadd
    exact foldl_file_matcher _ _
  refine lookup_finds_of_leadsTo hbucket hleads ?_
  rw [hmatcher]
  simp [Entry.takes, Entry.isMultiple, declaredEntry, hmethod, hkind,
    coversPath_of_writtenFor hlimit h]

/-- A module that offers nothing else shows that the written rule has to be met. -/
theorem writtenFor_of_surelyFound
    {q : Query}
    (hmethod : e.allows q.method = true)
    (hfiled : FiledFor e q.path)
    (h : SurelyFound e q) :
    WrittenFor e q.path := by
  obtain ⟨key, hkey, -⟩ := leadsTo_of_filedFor hfiled
  have hmethods : e.methods ≠ [] := by
    intro hnil
    simp [Endpoint.allows, hnil] at hmethod
  let m : Matcher := ⟨(e.pathPattern.map (work · q.path)).getD 0⟩
  have hlimit : ∀ pattern ∈ e.pathPattern, work pattern q.path ≤ m.limit := by
    intro pattern hpattern
    simp [m, Option.mem_def.1 hpattern]
  have hkind : InterfaceKind.regular ≠ .multiple := by
    decide
  obtain ⟨found, hfound⟩ :=
    h m (singleModule e) none _ (addModule_single hkey hmethods m)
      { id := "interface", endpoints := [e] } List.mem_cons_self hkind List.mem_cons_self hlimit
  obtain ⟨hmem, htakes⟩ := lookup_sound hfound
  have hentry : found = singleEntry e := by
    simpa [Table.entries] using hmem
  rw [hentry] at htakes
  simp only [Entry.takes, Bool.and_eq_true] at htakes
  exact writtenFor_of_coversPath htakes.1.2

end Matching

section Plain

theorem head?_of_accepts
    {pattern path : List Char}
    (hroot : path.head? = some '/')
    (h : Accepts (utf8Chars pattern) (utf8Chars path)) :
    pattern.head? = some '/' ∨ pattern.head? = some '*' := by
  obtain ⟨rest, rfl⟩ := List.head?_eq_some_iff.1 hroot
  have hslash : utf8Chars ('/' :: rest) = slash :: utf8Chars rest := by
    rfl
  cases pattern with
  | nil =>
      rw [utf8Chars_nil, accepts_nil_iff, hslash] at h
      cases h
  | cons c pattern =>
      by_cases hstar : c = '*'
      · exact Or.inr (by rw [hstar]; rfl)
      · by_cases hbrace : c = '{'
        · subst hbrace
          have hopen : utf8Chars ('{' :: pattern) = brace :: utf8Chars pattern := by
            rfl
          rw [hopen, hslash] at h
          by_cases hclosing : closing ∈ utf8Chars pattern
          · obtain ⟨name, more, hname, hnone⟩ := List.eq_append_cons_of_mem hclosing
            rw [hname, accepts_segment_iff hnone] at h
            exact absurd (by simp) h.1
          · rw [accepts_byte_iff (by decide) (fun _ => hclosing)] at h
            obtain ⟨p, hp, -⟩ := h
            exact absurd (List.cons.inj hp).1 (by decide)
        · have hone : '*' ∉ [c] ∧ '{' ∉ [c] :=
            ⟨by simpa using Ne.symm hstar, by simpa using Ne.symm hbrace⟩
          rw [← List.singleton_append] at h
          obtain ⟨more, hmore, -⟩ := literal_prefix_path hone.1 hone.2 h
          exact Or.inl (by rw [(List.cons.inj hmore).1]; rfl)

/-- A blank at the end of a pattern stands at the end of each of its paths. -/
theorem getLast?_of_accepts
    {pattern path : List Char} {c : Char}
    (hblank : isBlankChar c = true)
    (hlast : pattern.getLast? = some c)
    (h : Accepts (utf8Chars pattern) (utf8Chars path)) :
    path.getLast? = some c := by
  obtain ⟨front, rfl⟩ := List.getLast?_eq_some_iff.1 hlast
  have hnot : ∀ d, isBlankChar d = false → d ∉ [c] := by
    intro d hd hmem
    rw [← List.mem_singleton.1 hmem, hd] at hblank
    cases hblank
  have hsuffix : utf8Chars [c] <:+ utf8Chars path := by
    refine literal_suffix_path ?_ ?_ ?_ h (utf8Chars_append front [c] ▸ List.suffix_append _ _)
    · exact notMem_utf8Chars (by decide) (by decide) (hnot '*' (by decide))
    · exact notMem_utf8Chars (by decide) (by decide) (hnot '{' (by decide))
    · exact notMem_utf8Chars (by decide) (by decide) (hnot '\x7d' (by decide))
  obtain ⟨before, rfl⟩ := suffix_of_utf8Chars_suffix hsuffix
  exact List.getLast?_concat

theorem plain_or_blank_last
    {text : String}
    (hroot : text.toList.head? = some '/') :
    rooted? text = some text ∨
      ∃ c, text.toList.getLast? = some c ∧ isBlankChar c = true := by
  by_cases hlast : ∀ c, text.toList.getLast? = some c → isBlankChar c = false
  · exact Or.inl (rooted?_self hroot hlast)
  · simp only [not_forall, Bool.not_eq_false] at hlast
    obtain ⟨c, hc, hblank⟩ := hlast
    exact Or.inr ⟨c, hc, hblank⟩

theorem writtenFor_of_plainlyWritten
    {e : Endpoint} {path : String}
    (hfiled : FiledFor e path)
    (h : PlainlyWritten e) :
    WrittenFor e path := by
  obtain ⟨text, htext, hplain⟩ := h
  unfold FiledFor at hfiled
  unfold WrittenFor
  cases hpattern : e.pathPattern with
  | some pattern =>
      rw [hpattern, Option.some_or] at htext
      cases htext
      rw [hpattern, Option.bind_some, hplain] at hfiled
      exact hfiled
  | none =>
      rw [hpattern, Option.none_or] at htext
      rw [hpattern, Option.bind_none, htext, Option.bind_some, hplain] at hfiled
      rw [htext]
      exact Option.some.inj hfiled ▸ List.prefix_rfl

theorem plainlyWritten_of_writtenFor
    {e : Endpoint} {path : String}
    (hfiled : FiledFor e path)
    (h : WrittenFor e path) :
    PlainlyWritten e ∨
      (∃ pattern ∈ e.pathPattern, pattern.toList.head? = some '*') ∨
        ∃ c, path.toList.getLast? = some c ∧ isBlankChar c = true := by
  have hroot := head?_of_filedFor hfiled
  unfold FiledFor at hfiled
  unfold WrittenFor at h
  cases hpattern : e.pathPattern with
  | some pattern =>
      rw [hpattern] at h
      rcases head?_of_accepts hroot h with hslash | hstar
      · rcases plain_or_blank_last hslash with hplain | ⟨c, hc, hblank⟩
        · exact Or.inl ⟨pattern, by rw [hpattern, Option.some_or], hplain⟩
        · exact Or.inr (Or.inr ⟨c, getLast?_of_accepts hblank hc h, hblank⟩)
      · exact Or.inr (Or.inl ⟨pattern, rfl, hstar⟩)
  | none =>
      rw [hpattern] at h
      rw [hpattern, Option.bind_none] at hfiled
      cases hliteral : e.path with
      | some literal =>
          rw [hliteral] at h
          rw [hliteral, Option.bind_some] at hfiled
          -- The literal path is no longer than what trimming leaves of it, so nothing is taken off.
          have hrooted : rooted? literal = some path := hfiled
          obtain ⟨rfl, -⟩ := rooted?_eq_some hrooted
          have hfront : literal.toList <+: trimChars literal.toList := by
            rwa [trim, String.toList_ofList] at h
          have hself : trim literal = literal := by
            rw [trim, ← hfront.eq_of_length_le (length_trimChars_le _), String.ofList_toList]
          exact Or.inl ⟨literal, by rw [hpattern, hliteral, Option.none_or],
            hrooted.trans (congrArg some hself)⟩
      | none =>
          rw [hliteral] at h
          exact h.elim

end Plain

section Sure

/--
A request that an endpoint is filed for is sure to find an entry, exactly when
the endpoint takes it as it is written.  So it is for endpoints that are written
plainly, and else at most for patterns with a star in front and for paths with a
blank at the end.
-/
theorem surelyFound_iff_writtenFor
    {e : Endpoint} {q : Query}
    (hmethod : e.allows q.method = true)
    (hfiled : FiledFor e q.path) :
    (SurelyFound e q ↔ WrittenFor e q.path) ∧
      (PlainlyWritten e → WrittenFor e q.path) ∧
      (WrittenFor e q.path →
        PlainlyWritten e ∨
          (∃ pattern ∈ e.pathPattern, pattern.toList.head? = some '*') ∨
            ∃ c, q.path.toList.getLast? = some c ∧ isBlankChar c = true) :=
  ⟨⟨writtenFor_of_surelyFound hmethod hfiled, surelyFound_of_writtenFor hmethod hfiled⟩,
    writtenFor_of_plainlyWritten hfiled, plainlyWritten_of_writtenFor hfiled⟩

theorem surelyFound_iff_writtenFor_below :
    let e : Endpoint := { pathPattern := some "/foo/{id}", methods := ["GET"] }
    let q : Query := { method := "GET", path := "/foo/1" }
    e.allows q.method = true ∧ FiledFor e q.path ∧ SurelyFound e q := by
  intro e q
  have hmethod : e.allows q.method = true := by
    decide
  have hplain : rooted? "/foo/{id}" = some "/foo/{id}" := by
    decide
  have hfiled : FiledFor e q.path :=
    filedFor_of_pattern hplain ((covers_steps_iff _ _).1 (by decide))
  obtain ⟨hiff, hwritten, -⟩ := surelyFound_iff_writtenFor hmethod hfiled
  exact ⟨hmethod, hfiled, hiff.2 (hwritten ⟨"/foo/{id}", rfl, hplain⟩)⟩

/-- Endpoints whose pattern is blank, not rooted or padded, each with a path it is filed for. -/
def overlooked : List (Endpoint × String) :=
  [({ path := some "/a", pathPattern := some " ", methods := ["GET"] }, "/a"),
    ({ path := some "/b", pathPattern := some "b", methods := ["GET"] }, "/b"),
    ({ pathPattern := some " /c", methods := ["GET"] }, "/c")]

def overlookedModule : ModuleDescription where
  moduleId := "mod-foo-1.0.0"
  interfaces := [{ id := "foo", endpoints := overlooked.map (·.1) }]

def overlookedTable : Table where
  buckets := overlooked.map fun x =>
    (x.2, [declaredEntry overlookedModule none { id := "foo" } x.1])
  size := 3

/-- Such endpoints are accepted and counted, and no request finds them. -/
theorem lookup_misses_overlooked :
    Table.ofModule overlookedModule none = .ok overlookedTable ∧
      ∀ x ∈ overlooked, x.1.allows "GET" = true ∧ FiledFor x.1 x.2 ∧
        overlookedTable.lookup { method := "GET", path := x.2 } = none := by
  have hpadded : (some " /c").bind rooted? = some "/c" := by
    decide
  have hfiled : ∀ x ∈ overlooked, FiledFor x.1 x.2 := by
    simp only [overlooked, List.forall_mem_cons]
    refine ⟨filedFor_of_literal (by decide) (by decide),
      filedFor_of_literal (by decide) (by decide),
      filedFor_of_pattern hpadded ((covers_steps_iff _ _).1 (by decide)),
      by simp⟩
  have hmissed : ∀ x ∈ overlooked, ∀ e ∈ overlookedTable.entries,
      e.takes {} { method := "GET", path := x.2 } = false := by
    decide
  refine ⟨by decide, fun x hx => ⟨?_, hfiled x hx, ?_⟩⟩
  · have hmethod : ∀ x ∈ overlooked, x.1.allows "GET" = true := by
      decide
    exact hmethod x hx
  · rw [lookup_eq_none_iff]
    exact fun key _ e he => hmissed x hx e (Table.mem_entries_of_mem_get he)

end Sure

end Route
end SidecarProxy
