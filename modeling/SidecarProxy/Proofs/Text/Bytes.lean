import Mathlib.Data.List.Induction
import SidecarProxy.Text.Utf8

/-!
# Characters from their bytes

No code of a character begins another one, so a prefix of bytes that is text is
a prefix of characters.  The bytes below 128 stand for themselves alone.
-/

namespace SidecarProxy
namespace Text

section Bytes

@[simp] theorem utf8Chars_cons
    (c : Char) (cs : List Char) :
    utf8Chars (c :: cs) = String.utf8EncodeChar c ++ utf8Chars cs := by
  rfl

/-- The code of the first character can be read off the bytes. -/
theorem utf8EncodeChar_append_inj
    {c d : Char} {x y : List UInt8}
    (h : String.utf8EncodeChar c ++ x = String.utf8EncodeChar d ++ y) :
    c = d ∧ x = y := by
  have hc := ByteArray.utf8DecodeChar?_utf8EncodeChar_append (c := c) (b := x.toByteArray)
  have hd := ByteArray.utf8DecodeChar?_utf8EncodeChar_append (c := d) (b := y.toByteArray)
  rw [← List.toByteArray_append] at hc hd
  rw [h, hd] at hc
  obtain rfl : d = c := Option.some.inj hc
  exact ⟨rfl, List.append_cancel_left h⟩

/-- Text in front of the bytes of other text is text in front of its characters. -/
theorem eq_append_of_utf8Chars
    {front cs : List Char} {bytes : List UInt8}
    (h : utf8Chars front ++ bytes = utf8Chars cs) :
    ∃ back, cs = front ++ back ∧ bytes = utf8Chars back := by
  induction front generalizing cs with
  | nil =>
      exact ⟨cs, rfl, h⟩
  | cons c front ih =>
      cases cs with
      | nil =>
          simp [String.utf8EncodeChar_ne_nil] at h
      | cons d cs =>
          rw [utf8Chars_cons, utf8Chars_cons, List.append_assoc] at h
          obtain ⟨rfl, hrest⟩ := utf8EncodeChar_append_inj h
          obtain ⟨back, rfl, hback⟩ := ih hrest
          exact ⟨back, rfl, hback⟩

theorem utf8Chars_inj
    {a b : List Char}
    (h : utf8Chars a = utf8Chars b) :
    a = b := by
  have hwhole : utf8Chars a ++ [] = utf8Chars b := by
    rw [List.append_nil, h]
  obtain ⟨back, rfl, hback⟩ := eq_append_of_utf8Chars hwhole
  cases back with
  | nil =>
      simp
  | cons c back =>
      simp [String.utf8EncodeChar_ne_nil] at hback

/-- Only at its beginning the code of a character looks like the beginning of one. -/
theorem eq_of_utf8EncodeChar_suffix
    {c d : Char}
    (h : String.utf8EncodeChar c <:+ String.utf8EncodeChar d) :
    c = d := by
  obtain ⟨front, hfront⟩ := h
  have hlength : front.length < (String.utf8EncodeChar d).length := by
    have hpos := List.length_pos_iff.2 (String.utf8EncodeChar_ne_nil (c := c))
    rw [← hfront, List.length_append]
    omega
  have hfirst : (String.utf8EncodeChar d)[front.length].IsUTF8FirstByte := by
    simp only [← hfront, List.getElem_append_right (Nat.le_refl _), Nat.sub_self]
    exact UInt8.isUTF8FirstByte_getElem_utf8EncodeChar.2 rfl
  have hnil : front = [] :=
    List.length_eq_zero_iff.1 (UInt8.isUTF8FirstByte_getElem_utf8EncodeChar.1 hfirst)
  rw [hnil, List.nil_append] at hfront
  exact (utf8EncodeChar_append_inj (congrArg (· ++ []) hfront)).1

/-- Text at the end of the bytes of other text is text at the end of its characters. -/
theorem suffix_of_utf8Chars_suffix
    {back cs : List Char}
    (h : utf8Chars back <:+ utf8Chars cs) :
    back <:+ cs := by
  induction back using List.reverseRecOn generalizing cs with
  | nil =>
      exact List.nil_suffix
  | append_singleton back c ih =>
      have hcode : ∀ cs c, utf8Chars (cs ++ [c]) = utf8Chars cs ++ String.utf8EncodeChar c :=
        fun cs c => by simp
      rw [hcode] at h
      cases cs using List.reverseRecOn with
      | nil =>
          simp [String.utf8EncodeChar_ne_nil] at h
      | append_singleton front d =>
          rw [hcode] at h
          obtain rfl : c = d := by
            have hc := (List.suffix_append (utf8Chars back) _).trans h
            have hd := List.suffix_append (utf8Chars front) (String.utf8EncodeChar d)
            rcases List.suffix_or_suffix_of_suffix hc hd with hcd | hdc
            · exact eq_of_utf8EncodeChar_suffix hcd
            · exact (eq_of_utf8EncodeChar_suffix hdc).symm
          obtain ⟨bytes, hbytes⟩ := h
          rw [← List.append_assoc] at hbytes
          obtain ⟨more, rfl⟩ := ih ⟨bytes, List.append_cancel_right hbytes⟩
          exact ⟨more, by simp⟩

theorem le_toNat_of_base
    {n k base : Nat}
    (hk : 0 < k)
    (hbase : 0x80 ≤ base)
    (hsum : base + k ≤ 0x100) :
    0x80 ≤ (UInt8.ofNat (n % k + base)).toNat := by
  have hn : n % k < k := Nat.mod_lt n hk
  rw [UInt8.toNat_ofNat', Nat.mod_eq_of_lt (by omega)]
  omega

/-- A byte below 128 in the code of a character is the whole character. -/
theorem toNat_of_mem_utf8EncodeChar
    {b : UInt8} {c : Char}
    (hb : b.toNat < 0x80)
    (h : b ∈ String.utf8EncodeChar c) :
    c.toNat = b.toNat := by
  -- Every byte of a longer code is a remainder on top of a base from 128 on.
  have hhigh : ∀ n k base, 0 < k ∧ 0x80 ≤ base ∧ base + k ≤ 0x100 →
      b ≠ UInt8.ofNat (n % k + base) := by
    rintro n k base ⟨hk, hbase, hsum⟩ rfl
    exact absurd (le_toNat_of_base hk hbase hsum) (Nat.not_le.2 hb)
  have hval : c.val.toNat = c.toNat := rfl
  simp only [String.utf8EncodeChar, hval] at h
  split at h
  · simp only [List.mem_singleton] at h
    rw [h, UInt8.toNat_ofNat']
    omega
  · exfalso
    split at h
    · simp only [List.mem_cons, List.not_mem_nil, or_false] at h
      rcases h with h | h
      all_goals exact hhigh _ _ _ (by decide) h
    · split at h
      · simp only [List.mem_cons, List.not_mem_nil, or_false] at h
        rcases h with h | h | h
        all_goals exact hhigh _ _ _ (by decide) h
      · simp only [List.mem_cons, List.not_mem_nil, or_false] at h
        rcases h with h | h | h | h
        all_goals exact hhigh _ _ _ (by decide) h

theorem notMem_utf8Chars
    {b : UInt8} {c : Char}
    (hb : b.toNat < 0x80)
    (hc : c.toNat = b.toNat)
    {cs : List Char}
    (h : c ∉ cs) :
    b ∉ utf8Chars cs := by
  intro hmem
  obtain ⟨d, hd, hcode⟩ := List.mem_flatMap.1 hmem
  have hdc : d = c :=
    Char.toNat_inj.1 ((toNat_of_mem_utf8EncodeChar hb hcode).trans hc.symm)
  exact h (hdc ▸ hd)

end Bytes

end Text
end SidecarProxy
