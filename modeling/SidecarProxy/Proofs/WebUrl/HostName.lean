import SidecarProxy.Proofs.Text.Bytes
import SidecarProxy.WebUrl.Reader

/-!
# Characters that names of hosts do not hold

A host name is decoded, mapped and normalized before its characters are checked.
A character that may not occur in a name and that none of these steps can change
keeps every text that holds it from being a name.  Main statement: a host that is
read and does not begin with a bracket has no brackets at all.
-/

namespace SidecarProxy
namespace WebUrl

open Text Unicode

section NormalForm

theorem mem_placeMark
    {c d : Char} {cs : List Char} :
    d ∈ placeMark c cs ↔ d = c ∨ d ∈ cs := by
  induction cs with
  | nil =>
      simp [placeMark]
  | cons e cs ih =>
      unfold placeMark
      split
      · rw [List.mem_cons, ih, List.mem_cons, or_left_comm]
      · rw [List.mem_cons]

theorem mem_sortMarks
    {d : Char} {cs : List Char} :
    d ∈ sortMarks cs ↔ d ∈ cs := by
  induction cs with
  | nil =>
      simp [sortMarks]
  | cons c cs ih =>
      have hcons : sortMarks (c :: cs) = placeMark c (sortMarks cs) := rfl
      rw [hcons, mem_placeMark, ih, List.mem_cons]

/-- A character that joins nothing and that nothing joins is still there after composition. -/
theorem mem_composeAfter
    {d : Char}
    (hfirst : ∀ b, compose? d b = none)
    (hsecond : ∀ a, compose? a d = none)
    {front : Char} {marks cs : List Char}
    (h : d = front ∨ d ∈ marks ∨ d ∈ cs) :
    d ∈ composeAfter front marks cs := by
  induction cs generalizing front marks with
  | nil =>
      simpa [composeAfter] using h
  | cons c cs ih =>
      unfold composeAfter
      split
      · next whole hwhole =>
          have hcompose : compose? front c = some whole := by
            split at hwhole
            · exact hwhole
            · cases hwhole
          refine ih ?_
          rcases h with rfl | h | h
          · rw [hfirst] at hcompose
            cases hcompose
          · exact Or.inr (Or.inl h)
          · rcases List.mem_cons.1 h with rfl | h
            · rw [hsecond] at hcompose
              cases hcompose
            · exact Or.inr (Or.inr h)
      · split
        · rcases h with h | h | h
          · simp [h]
          · simp [h]
          · refine List.mem_append_right _ (ih ?_)
            rcases List.mem_cons.1 h with h | h
            · exact Or.inl h
            · exact Or.inr (Or.inr h)
        · refine ih ?_
          rcases h with h | h | h
          · exact Or.inl h
          · exact Or.inr (Or.inl (List.mem_append_left _ h))
          · rcases List.mem_cons.1 h with h | h
            · exact Or.inr (Or.inl (by simp [h]))
            · exact Or.inr (Or.inr h)

/-- The normal form keeps every character of ASCII to which no mark can be joined. -/
theorem mem_normalize
    {d : Char}
    (hbase : isBase d = false)
    {cs : List Char}
    (h : d ∈ cs) :
    d ∈ normalize cs := by
  have hascii : d.toNat < 0x80 := by
    simp only [isBase, Bool.or_eq_false_iff, decide_eq_false_iff_not] at hbase
    omega
  have hdecompose : decompose d = [d] :=
    decompose_of_lt (Nat.lt_trans hascii (by decide))
  have hmem : d ∈ sortMarks (cs.flatMap decompose) := by
    rw [mem_sortMarks, List.mem_flatMap]
    exact ⟨d, h, by simp [hdecompose]⟩
  unfold Unicode.normalize
  cases hsorted : sortMarks (cs.flatMap decompose) with
  | nil =>
      rw [hsorted] at hmem
      cases hmem
  | cons c rest =>
      rw [hsorted] at hmem
      refine mem_composeAfter (compose?_of_not_isBase hbase)
        (fun a => compose?_of_lt (Nat.lt_trans hascii (by decide))) ?_
      rcases List.mem_cons.1 hmem with hmem | hmem
      · exact Or.inl hmem
      · exact Or.inr (Or.inr hmem)

end NormalForm

section Names

theorem mem_replaceChars
    {d : Char}
    (hkept : nameChar d = .kept)
    {cs replaced : List Char}
    (h : replaceChars cs = some replaced)
    (hmem : d ∈ cs) :
    d ∈ replaced := by
  induction cs generalizing replaced with
  | nil =>
      cases hmem
  | cons c cs ih =>
      have hhead : d = c ∨ d ∈ cs := List.mem_cons.1 hmem
      unfold replaceChars at h
      split at h
      · obtain ⟨rest, hrest, rfl⟩ := Option.map_eq_some_iff.1 h
        rcases hhead with rfl | hcs
        · simp
        · exact List.mem_cons_of_mem c (ih hrest hcs)
      · next hdropped =>
          rcases hhead with rfl | hcs
          · rw [hkept] at hdropped
            cases hdropped
          · exact ih h hcs
      · next others hreplaced =>
          obtain ⟨rest, hrest, rfl⟩ := Option.map_eq_some_iff.1 h
          rcases hhead with rfl | hcs
          · rw [hkept] at hreplaced
            cases hreplaced
          · exact List.mem_append_right others (ih hrest hcs)
      · cases h

/-- A character that may not occur in a name, and that no step before the check changes. -/
structure Barred (d : Char) : Prop where
  not_percent : d ≠ '%'
  not_digit : hexValue? d = none
  kept : nameChar d = .kept
  not_base : isBase d = false
  forbidden : isForbidden d = true

theorem Barred.asciiName?_eq_none
    {d : Char} (hd : Barred d)
    {cs : List Char}
    (hmem : d ∈ cs) :
    asciiName? cs = none := by
  have hlabels : labels? cs = none := by
    unfold labels?
    cases hreplaced : replaceChars cs with
    | none =>
        rfl
    | some replaced =>
        have hany : (normalize replaced).any isForbidden = true :=
          List.any_eq_true.2
            ⟨d, mem_normalize hd.not_base (mem_replaceChars hd.kept hreplaced hmem),
              hd.forbidden⟩
        simp only [Option.bind_eq_bind, Option.bind_some, hany, if_true, Option.bind_none]
  simp [asciiName?, hlabels]

end Names

section Decoding

/-- The bytes of a character that is neither a percent sign nor a digit stand in the decoded text. -/
theorem mem_percentDecode
    {c : Char} {b : UInt8}
    (hpercent : c ≠ '%')
    (hdigit : hexValue? c = none)
    (hb : b ∈ utf8Chars [c])
    {cs : List Char}
    (hmem : c ∈ cs) :
    b ∈ percentDecode cs := by
  induction cs using percentDecode.induct with
  | case1 =>
      cases hmem
  | case2 x y rest byte hbyte ih =>
      have hxy : c ≠ x ∧ c ≠ y := by
        constructor
        · rintro rfl
          simp [byteOf?, hdigit] at hbyte
        · rintro rfl
          cases hx : hexValue? x <;> simp [byteOf?, hdigit, hx] at hbyte
      have hrest : c ∈ rest := by
        simpa [hpercent, hxy.1, hxy.2] using hmem
      rw [percentDecode, hbyte]
      exact List.mem_cons_of_mem byte (ih hrest)
  | case3 x y rest hbyte ih =>
      have hrest : c ∈ x :: y :: rest := by
        simpa [hpercent] using hmem
      rw [percentDecode, hbyte]
      exact List.mem_append_right _ (ih hrest)
  | case4 d rest hshape ih =>
      rw [percentDecode]
      · rcases List.mem_cons.1 hmem with rfl | hrest
        · exact List.mem_append_left _ hb
        · exact List.mem_append_right _ (ih hrest)
      · exact hshape

theorem utf8Chars_of_textOfBytes?
    {bytes : List UInt8} {cs : List Char}
    (h : textOfBytes? bytes = some cs) :
    utf8Chars cs = bytes := by
  obtain ⟨text, htext, rfl⟩ := Option.map_eq_some_iff.1 h
  have hbytes : text.toByteArray = ⟨bytes.toArray⟩ := by
    unfold String.fromUTF8? at htext
    split at htext
    · cases htext
      rfl
    · cases htext
  rw [← String.utf8Encode_toList] at hbytes
  have hdata := congrArg (fun b : ByteArray => b.data.toList) hbytes
  simpa [List.utf8Encode, utf8Chars] using hdata

end Decoding

section Hosts

/-- No host that is read as a name holds a character that is barred from names. -/
theorem Barred.notMem_of_readWebHost
    {d : Char} (hd : Barred d)
    {b : UInt8}
    (hb : b ∈ utf8Chars [d])
    (hascii : b.toNat < 0x80)
    {cs : List Char} {host : WebHost}
    (hhead : cs.head? ≠ some '[')
    (h : readWebHost cs = .ok host) :
    d ∉ cs := by
  intro hmem
  unfold readWebHost at h
  split at h
  · exact hhead rfl
  · split at h
    · next name hname =>
        obtain ⟨decoded, hdecoded, hread⟩ := Option.bind_eq_some_iff.1 hname
        have hbyte : b ∈ utf8Chars decoded := by
          rw [utf8Chars_of_textOfBytes? hdecoded]
          exact mem_percentDecode hd.not_percent hd.not_digit hb hmem
        have hcode : d.toNat = b.toNat :=
          toNat_of_mem_utf8EncodeChar hascii (by simpa using hb)
        have hin : d ∈ decoded :=
          Decidable.not_not.1 fun hnot => notMem_utf8Chars hascii hcode hnot hbyte
        rw [hd.asciiName?_eq_none hin] at hread
        cases hread
    · cases h

/-- A host has no brackets but those around it. -/
theorem no_brackets_of_readWebHost
    {cs : List Char} {host : WebHost}
    (hhead : cs.head? ≠ some '[')
    (h : readWebHost cs = .ok host) :
    '[' ∉ cs ∧ ']' ∉ cs := by
  have hopening : Barred '[' := by
    constructor <;> decide
  have hclosing : Barred ']' := by
    constructor <;> decide
  exact ⟨hopening.notMem_of_readWebHost (b := 0x5b) (by decide) (by decide) hhead h,
    hclosing.notMem_of_readWebHost (b := 0x5d) (by decide) (by decide) hhead h⟩

end Hosts

end WebUrl
end SidecarProxy
