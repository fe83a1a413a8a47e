import Mathlib.Data.List.DropRight
import SidecarProxy.Proofs.Text.Cut
import SidecarProxy.Text.Blank

/-!
# Trimmed text

What trimming takes off, and what is left.  Main statements: characters are their
trimmed part between two runs of blanks, the trimmed part neither begins nor ends
with a blank, and so trimming it again changes nothing.
-/

namespace SidecarProxy
namespace Text

section Both

variable {α : Type}
variable (p : α → Bool)

/-- Only what a condition holds of is taken off, at both ends. -/
theorem exists_around
    (cs : List α) :
    ∃ front back,
      cs = front ++ ((cs.dropWhile p).rdropWhile p ++ back) ∧
        (∀ c ∈ front, p c = true) ∧
        ∀ c ∈ back, p c = true := by
  refine ⟨cs.takeWhile p, (cs.dropWhile p).rtakeWhile p, ?_, ?_, ?_⟩
  · rw [List.rdropWhile_append_rtakeWhile, List.takeWhile_append_dropWhile]
  · exact fun c hc => List.mem_takeWhile_imp hc
  · exact fun c hc => List.mem_rtakeWhile_imp hc

theorem of_head?_rdropWhile
    {cs : List α} {c : α}
    (h : ((cs.dropWhile p).rdropWhile p).head? = some c) :
    p c = false := by
  obtain ⟨back, hback⟩ := List.rdropWhile_prefix p (cs.dropWhile p)
  have hhead : (cs.dropWhile p).head? = some c := by
    rw [← hback, List.head?_append, h, Option.some_or]
  exact of_head?_dropWhile hhead

theorem of_getLast?_rdropWhile
    {cs : List α} {c : α}
    (h : (cs.rdropWhile p).getLast? = some c) :
    p c = false := by
  have hne : cs.rdropWhile p ≠ [] := by
    rintro hnil
    simp [hnil] at h
  have hlast := List.rdropWhile_last_not p cs hne
  rw [List.getLast?_eq_some_getLast hne] at h
  cases h
  exact Bool.eq_false_iff.2 hlast

end Both

section Trim

theorem trimChars_eq_rdropWhile
    (cs : List Char) :
    trimChars cs = (cs.dropWhile isBlankChar).rdropWhile isBlankChar := by
  rfl

/-- Only blanks are taken off, at both ends. -/
theorem exists_blanks_around
    (cs : List Char) :
    ∃ front back,
      cs = front ++ (trimChars cs ++ back) ∧
        (∀ c ∈ front, isBlankChar c = true) ∧
        ∀ c ∈ back, isBlankChar c = true :=
  exists_around isBlankChar cs

theorem length_trimChars_le
    (cs : List Char) :
    (trimChars cs).length ≤ cs.length := by
  obtain ⟨front, back, hcs, -, -⟩ := exists_blanks_around cs
  have hlength := congrArg List.length hcs
  simp only [List.length_append] at hlength
  omega

theorem not_blank_of_head?_trimChars
    {cs : List Char} {c : Char}
    (h : (trimChars cs).head? = some c) :
    isBlankChar c = false :=
  of_head?_rdropWhile isBlankChar h

theorem not_blank_of_getLast?_trimChars
    {cs : List Char} {c : Char}
    (h : (trimChars cs).getLast? = some c) :
    isBlankChar c = false :=
  of_getLast?_rdropWhile isBlankChar h

/-- Characters that neither begin nor end with a blank are trimmed. -/
theorem trimChars_eq_self
    {cs : List Char}
    (hhead : ∀ c, cs.head? = some c → isBlankChar c = false)
    (hlast : ∀ c, cs.getLast? = some c → isBlankChar c = false) :
    trimChars cs = cs := by
  have hfront : cs.dropWhile isBlankChar = cs := by
    cases cs with
    | nil =>
        rfl
    | cons c cs =>
        simp [hhead c rfl]
  rw [trimChars_eq_rdropWhile, hfront, List.rdropWhile_eq_self_iff]
  intro hne
  simp [hlast _ (List.getLast?_eq_some_getLast hne)]

theorem trimChars_trimChars
    (cs : List Char) :
    trimChars (trimChars cs) = trimChars cs :=
  trimChars_eq_self (fun _ => not_blank_of_head?_trimChars)
    (fun _ => not_blank_of_getLast?_trimChars)

theorem trim_trim
    (s : String) :
    trim (trim s) = trim s := by
  simp only [trim, String.toList_ofList, trimChars_trimChars]

theorem trimChars_eq_nil_iff
    (cs : List Char) :
    trimChars cs = [] ↔ ∀ c ∈ cs, isBlankChar c = true := by
  constructor
  · intro hnil c hc
    obtain ⟨front, back, hcs, hfront, hback⟩ := exists_blanks_around cs
    rw [hcs, hnil, List.nil_append] at hc
    exact (List.mem_append.1 hc).elim (hfront c) (hback c)
  · intro hall
    rw [trimChars_eq_rdropWhile, List.dropWhile_eq_nil_iff.2 hall, List.rdropWhile_nil]

/-- Text is blank when nothing of it is left. -/
theorem trim_eq_empty_iff
    (s : String) :
    trim s = "" ↔ isBlank s = true := by
  rw [trim, String.ofList_eq_empty_iff, trimChars_eq_nil_iff, isBlank, List.all_eq_true]

theorem isBlank_trim
    (s : String) :
    isBlank (trim s) = isBlank s := by
  rw [Bool.eq_iff_iff, ← trim_eq_empty_iff, trim_trim, trim_eq_empty_iff]

end Trim

end Text
end SidecarProxy
