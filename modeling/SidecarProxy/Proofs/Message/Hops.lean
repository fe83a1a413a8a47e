import SidecarProxy.Message.Correlation
import SidecarProxy.Message.Headers
import SidecarProxy.Proofs.Text.Split
import SidecarProxy.Proofs.Text.Trim
import SidecarProxy.Uri.Reader

/-!
# Hops in a chain of ids

A chain is made from the first received value alone.  Main statements: a chain
that is made for a legal path can be the value of a field, it consists of the
hops of the first value and a new one, and it has all the received hops and one
more exactly when the first value can be read, no other value has hops, and no
semicolon stands in the first segment of the path.
-/

namespace SidecarProxy
namespace Message

open Text

section Digits

/-- So many digits as asked for write a number that has no more. -/
theorem length_padded
    {width n : Nat}
    (hwidth : 0 < width)
    (hn : n < Nat.pow 10 width) :
    (Span.padded width n).length = width := by
  have hdigits : (Nat.toDigits 10 n).length ≤ width :=
    (Nat.length_toDigits_le_iff (by omega) hwidth).2 hn
  rw [Span.padded, List.length_append, List.length_replicate]
  omega

theorem isDigit_of_mem_padded
    {width n : Nat} {c : Char}
    (hc : c ∈ Span.padded width n) :
    c.isDigit = true := by
  rcases List.mem_append.1 hc with hzero | hdigit
  · rw [List.eq_of_mem_replicate hzero]
    rfl
  · exact Nat.isDigit_of_mem_toDigits (by omega) (by omega) hdigit

end Digits

section Fresh

/-- Whether an id is one of a new hop: six digits, a slash and the first segment of a path. -/
def FreshHop (path hop : String) : Prop :=
  ∃ digits : List Char,
    digits.length = 6 ∧ (∀ c ∈ digits, c.isDigit = true) ∧
      hop.toList = digits ++ '/' :: firstSegment path.toList

theorem freshHop_newRequestId
    (draw : Nat) (path : String) :
    FreshHop path (newRequestId draw path) :=
  ⟨Span.padded 6 (draw % 1000000),
    length_padded (by omega) (Nat.mod_lt draw (by omega)),
    fun _ hc => isDigit_of_mem_padded hc,
    String.toList_ofList⟩

/-- Of a new hop, only the segment can hold a semicolon. -/
theorem FreshHop.semicolon_mem_iff
    {path hop : String}
    (h : FreshHop path hop) :
    ';' ∈ hop.toList ↔ ';' ∈ firstSegment path.toList := by
  obtain ⟨digits, -, hdigits, hhop⟩ := h
  have hno : ';' ∉ digits := by
    intro hmem
    exact absurd (hdigits ';' hmem) (by decide)
  simp [hhop, hno]

theorem FreshHop.split_eq
    {path hop : String}
    (h : FreshHop path hop)
    (hsegment : ';' ∉ firstSegment path.toList) :
    split ';' hop = [hop] :=
  split_eq_singleton ';' fun hsemicolon => hsegment (h.semicolon_mem_iff.1 hsemicolon)

theorem mem_of_mem_firstSegment
    {path : List Char} {c : Char}
    (hc : c ∈ firstSegment path) :
    c ∈ path :=
  (List.dropWhile_sublist _).subset ((List.takeWhile_sublist _).subset hc)

end Fresh

section Chain

/-- The hops that a received value has: none when it is blank. -/
def hopsOf (value : String) : List String :=
  if isBlank value = true then [] else split ';' (trim value)

/-- The hops of all the received values, in their order. -/
def receivedHops (hs : Headers) : List String :=
  (hs.valuesOf requestIdName).flatMap hopsOf

/-- The hops of the first received value, if it can be read. -/
def readHops (hs : Headers) : List String :=
  ((hs.text? requestIdName).map hopsOf).getD []

theorem hopsOf_eq_nil_iff
    (value : String) :
    hopsOf value = [] ↔ isBlank value = true := by
  unfold hopsOf
  split
  · next hblank => exact iff_of_true rfl hblank
  · next hblank => exact iff_of_false (split_ne_nil _ _) hblank

theorem chainRequestId_none
    (draw : Nat) (path : String) :
    chainRequestId none draw path = newRequestId draw path := by
  rfl

theorem chainRequestId_of_blank
    {value : String}
    (hblank : isBlank value = true)
    (draw : Nat) (path : String) :
    chainRequestId (some value) draw path = newRequestId draw path := by
  have htrim : trim value = "" := (trim_eq_empty_iff value).2 hblank
  rw [chainRequestId, Option.map_some, htrim]
  rfl

theorem chainRequestId_of_not_blank
    {value : String}
    (hblank : ¬isBlank value = true)
    (draw : Nat) (path : String) :
    chainRequestId (some value) draw path = trim value ++ ";" ++ newRequestId draw path := by
  have htrim : (trim value != "") = true :=
    bne_iff_ne.2 fun htrim => hblank ((trim_eq_empty_iff value).1 htrim)
  rw [chainRequestId, Option.map_some, Option.filter_some, if_pos htrim]

/-- The chain has the hops of the value that was read, and the new id behind them. -/
theorem split_chainRequestId
    (chain : Option String) (draw : Nat) (path : String) :
    split ';' (chainRequestId chain draw path) =
      (chain.map hopsOf).getD [] ++ split ';' (newRequestId draw path) := by
  cases chain with
  | none =>
      rw [chainRequestId_none, Option.map_none, Option.getD_none, List.nil_append]
  | some value =>
      rw [Option.map_some, Option.getD_some, hopsOf]
      by_cases hblank : isBlank value = true
      · rw [chainRequestId_of_blank hblank, if_pos hblank, List.nil_append]
      · rw [chainRequestId_of_not_blank hblank, if_neg hblank]
        exact split_append ';' (trim value) (newRequestId draw path)

/-- Whether all received hops are there, and one new hop behind them. -/
def KeepsHops (hs : Headers) (path chain : String) : Prop :=
  ∃ fresh, FreshHop path fresh ∧ split ';' chain = receivedHops hs ++ [fresh]

/-- Whether the first of some values can be read, if it has hops, and no other has any. -/
def OnlyFirstSpeaks : List String → Prop
  | [] => True
  | first :: later =>
    (isReadable first = true ∨ isBlank first = true) ∧ ∀ value ∈ later, isBlank value = true

theorem flatMap_hopsOf_eq_nil_iff
    (values : List String) :
    values.flatMap hopsOf = [] ↔ ∀ value ∈ values, isBlank value = true := by
  simp only [List.flatMap_eq_nil_iff, hopsOf_eq_nil_iff]

/-- What is read is what was received, when only the first value has hops. -/
theorem readHops_eq_iff
    (hs : Headers) :
    readHops hs = receivedHops hs ↔ OnlyFirstSpeaks (hs.valuesOf requestIdName) := by
  unfold readHops receivedHops Headers.text?
  cases hs.valuesOf requestIdName with
  | nil =>
      exact iff_of_true rfl trivial
  | cons first later =>
      rw [List.head?_cons, List.flatMap_cons, OnlyFirstSpeaks, ← flatMap_hopsOf_eq_nil_iff]
      by_cases hreadable : isReadable first = true
      · rw [Option.filter_some, if_pos hreadable]
        simp [hreadable]
      · rw [Option.filter_some, if_neg hreadable]
        rw [Option.map_none, Option.getD_none, eq_comm, List.append_eq_nil_iff, hopsOf_eq_nil_iff]
        simp [hreadable]

/--
A chain keeps all hops exactly when only the first received value has any, and the
new one is not cut apart by a semicolon in its segment.
-/
theorem keepsHops_iff
    (hs : Headers) (draw : Nat) (path : String) :
    KeepsHops hs path (chainRequestId (hs.text? requestIdName) draw path)
      ↔
    OnlyFirstSpeaks (hs.valuesOf requestIdName) ∧ ';' ∉ firstSegment path.toList := by
  have hnew := freshHop_newRequestId draw path
  have hsplit :
      split ';' (chainRequestId (hs.text? requestIdName) draw path) =
        readHops hs ++ split ';' (newRequestId draw path) :=
    split_chainRequestId _ _ _
  rw [KeepsHops, hsplit, ← readHops_eq_iff]
  constructor
  · rintro ⟨fresh, hfresh, heq⟩
    -- The last hop is a field of the chain, so it holds no semicolon.
    have hmem : fresh ∈ split ';' (chainRequestId (hs.text? requestIdName) draw path) := by
      rw [hsplit, heq]
      simp
    have hsegment : ';' ∉ firstSegment path.toList :=
      fun hsemicolon =>
        notMem_of_mem_split ';' hmem (hfresh.semicolon_mem_iff.2 hsemicolon)
    rw [hnew.split_eq hsegment] at heq
    exact ⟨(List.append_inj' heq rfl).1, hsegment⟩
  · rintro ⟨hread, hsegment⟩
    exact ⟨newRequestId draw path, hnew, by rw [hnew.split_eq hsegment, hread]⟩

end Chain

section Legal

theorem isFieldValue_append
    (front back : String) :
    isFieldValue (front ++ back) = (isFieldValue front && isFieldValue back) := by
  simp [isFieldValue]

theorem isFieldValue_of_isReadable
    {s : String}
    (h : isReadable s = true) :
    isFieldValue s = true := by
  simp only [isReadable, isFieldValue, List.all_eq_true] at h ⊢
  intro c hc
  have hread := h c hc
  simp only [Bool.or_eq_true, Bool.and_eq_true, decide_eq_true_eq, bne_iff_ne, beq_iff_eq]
    at hread ⊢
  exact hread.imp_left fun hrange => ⟨hrange.1, by omega⟩

/-- What is left of a value behind trimming can be a value. -/
theorem isFieldValue_trim
    {s : String}
    (h : isFieldValue s = true) :
    isFieldValue (trim s) = true := by
  rw [isFieldValue, List.all_eq_true] at h ⊢
  intro c hc
  rw [trim, String.toList_ofList] at hc
  obtain ⟨front, back, hs, -, -⟩ := exists_blanks_around s.toList
  refine h c ?_
  rw [hs]
  exact List.mem_append_right _ (List.mem_append_left _ hc)

theorem isFieldValue_newRequestId
    (draw : Nat) {path : String}
    (hpath : ∀ c ∈ path.toList, Uri.isPathChar c = true) :
    isFieldValue (newRequestId draw path) = true := by
  obtain ⟨digits, -, hdigits, hhop⟩ := freshHop_newRequestId draw path
  rw [isFieldValue, hhop, List.all_append, List.all_cons, Bool.and_eq_true, Bool.and_eq_true]
  refine ⟨List.all_eq_true.2 ?_, rfl, List.all_eq_true.2 ?_⟩
  · intro c hc
    have hrange : 48 ≤ c.toNat ∧ c.toNat ≤ 57 := Char.isDigit_iff_toNat.1 (hdigits c hc)
    simp only [Bool.or_eq_true, Bool.and_eq_true, decide_eq_true_eq, bne_iff_ne]
    omega
  · intro c hc
    have hlegal := hpath c (mem_of_mem_firstSegment hc)
    simp only [Uri.isPathChar, Bool.or_eq_true, Bool.and_eq_true, decide_eq_true_eq, bne_iff_ne,
      beq_iff_eq] at hlegal ⊢
    omega

/-- A chain that goes on from readable text for a legal path can be the value of a field. -/
theorem isFieldValue_chainRequestId
    {chain : Option String}
    (hchain : ∀ value, chain = some value → isReadable value = true)
    (draw : Nat) {path : String}
    (hpath : ∀ c ∈ path.toList, Uri.isPathChar c = true) :
    isFieldValue (chainRequestId chain draw path) = true := by
  have hnew := isFieldValue_newRequestId draw hpath
  cases chain with
  | none =>
      rw [chainRequestId_none]
      exact hnew
  | some value =>
      by_cases hblank : isBlank value = true
      · rw [chainRequestId_of_blank hblank]
        exact hnew
      · have htrim := isFieldValue_trim (isFieldValue_of_isReadable (hchain value rfl))
        rw [chainRequestId_of_not_blank hblank, isFieldValue_append, isFieldValue_append, htrim,
          hnew]
        rfl

theorem isReadable_of_text?_eq_some
    {hs : Headers} {name value : String}
    (h : hs.text? name = some value) :
    isReadable value = true :=
  (Option.filter_eq_some_iff.1 h).2

end Legal

end Message
end SidecarProxy
