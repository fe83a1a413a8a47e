import Mathlib.Data.List.TakeWhile
import SidecarProxy.Json.Reader
import SidecarProxy.Json.Writer

/-!
# What is written can be read

A text that a value was written as is cut into the tokens of the value, and these
are put together to the value again.
-/

namespace SidecarProxy
namespace Json

open Text

namespace Token

section Strings

attribute [local simp] scan

theorem hexValue?_digitChar
    {d : Nat}
    (hd : d < 16) :
    hexValue? (Nat.digitChar d) = some d := by
  have hall : ∀ d < 16, hexValue? (Nat.digitChar d) = some d := by decide
  exact hall d hd

theorem escaped?_of_shortEscape?
    {c letter : Char}
    (h : shortEscape? c = some letter) :
    letter ≠ 'u' ∧ escaped? letter = some c.toNat := by
  unfold shortEscape? at h
  split at h <;> cases h <;> exact ⟨by decide, rfl⟩

theorem ne_of_shortEscape?_eq_none
    {c : Char}
    (h : shortEscape? c = none) :
    c ≠ '"' ∧ c ≠ '\\' := by
  constructor <;> rintro rfl <;> cases h

/-- A written character is read as its code point. -/
theorem scan_escape
    (c : Char) (points : List Nat) (cs : List Char) :
    scan (.inString points) (escape c ++ cs) = scan (.inString (c.toNat :: points)) cs := by
  unfold escape
  cases hshort : shortEscape? c with
  | some letter =>
      obtain ⟨hne, hpoint⟩ := escaped?_of_shortEscape? hshort
      simp [hne, hpoint]
  | none =>
      obtain ⟨hquote, hslash⟩ := ne_of_shortEscape?_eq_none hshort
      dsimp only
      split
      · next hcontrol =>
          have hhigh := hexValue?_digitChar (d := c.toNat / 16) (by omega)
          have hlow := hexValue?_digitChar (d := c.toNat % 16) (by omega)
          have hzero : hexValue? '0' = some 0 := rfl
          simp [hzero, hhigh, hlow, Nat.div_add_mod]
      · next hcontrol =>
          simp [hquote, hslash, hcontrol]

theorem scan_escapes
    (l : List Char) (points : List Nat) (cs : List Char) :
    scan (.inString points) (l.flatMap escape ++ cs) =
      scan (.inString ((l.map Char.toNat).reverse ++ points)) cs := by
  induction l generalizing points with
  | nil =>
      rfl
  | cons c l ih =>
      rw [List.flatMap_cons, List.append_assoc, scan_escape, ih]
      simp

theorem isHalf_toNat
    (c : Char) :
    isHighHalf c.toNat = false ∧ isLowHalf c.toNat = false := by
  have hvalid := c.valid
  have hnat : c.toNat = c.val.toNat := rfl
  simp only [UInt32.isValidChar, Nat.isValidChar] at hvalid
  constructor
  · simp only [isHighHalf, Bool.and_eq_false_iff, decide_eq_false_iff_not]
    omega
  · simp only [isLowHalf, Bool.and_eq_false_iff, decide_eq_false_iff_not]
    omega

/-- The code points of characters are those of whole characters. -/
theorem charsOfPoints_map_toNat
    (l : List Char) :
    charsOfPoints (l.map Char.toNat) = some l := by
  induction l with
  | nil =>
      rfl
  | cons c l ih =>
      obtain ⟨hhigh, hlow⟩ := isHalf_toNat c
      cases l with
      | nil =>
          simp [charsOfPoints, hhigh, hlow]
      | cons d l =>
          rw [List.map_cons, List.map_cons, charsOfPoints]
          rw [List.map_cons] at ih
          simp [hhigh, hlow, ih]

theorem scan_write_string
    (s : Option String) (cs : List Char) :
    scan .between ((Token.string s).write ++ cs) =
      (scan .between cs).map (Token.string s :: ·) := by
  cases s with
  | none =>
      have htoken : ofPoints [0xd800] = .string none := rfl
      rw [← htoken]
      rfl
  | some s =>
      have htoken : ofPoints (s.toList.map Char.toNat).reverse = .string (some s) := by
        rw [ofPoints, List.reverse_reverse, charsOfPoints_map_toNat, Option.map_some,
          String.ofList_toList]
      have hquote : scan .between ((Token.string (some s)).write ++ cs) =
          scan (.inString []) (s.toList.flatMap escape ++ ('"' :: cs)) := by
        simp [write, isSpace]
      rw [hquote, scan_escapes, List.append_nil, ← htoken]
      rfl

end Strings

section Words

/-- A character that goes on with a word. -/
def isWordChar (c : Char) : Bool :=
  !isSpace c && c != '"' && (punctuation? c).isNone

/-- Whether a word has its end in front of characters. -/
def Ends (cs : List Char) : Prop :=
  ∀ c ∈ cs.head?, isWordChar c = false

variable {chars cs : List Char}

theorem scan_inWord_of_ends
    (h : Ends cs)
    (chars : List Char) :
    scan (.inWord chars) cs = (scan .between cs).map (.word chars.reverse :: ·) := by
  cases cs with
  | nil =>
      rfl
  | cons c cs =>
      have hc : isWordChar c = false := h c rfl
      unfold scan
      by_cases hspace : isSpace c = true
      · simp [hspace]
      · by_cases hquote : (c == '"') = true
        · simp [hspace, hquote]
        · cases hpunctuation : punctuation? c with
          | some t =>
              simp [hspace, hquote, Function.comp_def]
          | none =>
              simp_all [isWordChar]

theorem scan_inWord
    (hchars : ∀ c ∈ chars, isWordChar c = true)
    (front : List Char) :
    scan (.inWord front) (chars ++ cs) = scan (.inWord (chars.reverse ++ front)) cs := by
  induction chars generalizing front with
  | nil =>
      rfl
  | cons c chars ih =>
      have hc := hchars c List.mem_cons_self
      simp only [isWordChar, Bool.and_eq_true, Bool.not_eq_true', bne_iff_ne,
        Option.isNone_iff_eq_none] at hc
      obtain ⟨⟨hspace, hquote⟩, hpunctuation⟩ := hc
      rw [List.cons_append, scan]
      simp only [hspace, hpunctuation, beq_eq_false_iff_ne.2 hquote, Bool.false_eq_true, if_false]
      rw [ih (fun d hd => hchars d (List.mem_cons_of_mem c hd))]
      simp

theorem scan_write_word
    (hne : chars ≠ [])
    (hchars : ∀ c ∈ chars, isWordChar c = true)
    (hends : Ends cs) :
    scan .between ((Token.word chars).write ++ cs) =
      (scan .between cs).map (Token.word chars :: ·) := by
  cases chars with
  | nil =>
      exact absurd rfl hne
  | cons c chars =>
      have hc := hchars c List.mem_cons_self
      simp only [isWordChar, Bool.and_eq_true, Bool.not_eq_true', bne_iff_ne,
        Option.isNone_iff_eq_none] at hc
      obtain ⟨⟨hspace, hquote⟩, hpunctuation⟩ := hc
      rw [write, List.cons_append, scan]
      simp only [hspace, hpunctuation, beq_eq_false_iff_ne.2 hquote, Bool.false_eq_true, if_false]
      rw [scan_inWord (fun d hd => hchars d (List.mem_cons_of_mem c hd)),
        scan_inWord_of_ends hends]
      simp

/-- The characters that end a word. -/
def wordStops : List Char :=
  [' ', '\n', '\t', '\r', '"', '\x7b', '\x7d', '[', ']', ':', ',']

theorem isWordChar_of_notMem
    {c : Char}
    (h : c ∉ wordStops) :
    isWordChar c = true := by
  simp only [wordStops, List.mem_cons, List.not_mem_nil, or_false, not_or] at h
  simp [isWordChar, isSpace, punctuation?, h]

theorem isWordChar_of_isDigit
    {c : Char}
    (h : c.isDigit = true) :
    isWordChar c = true := by
  refine isWordChar_of_notMem fun hstop => ?_
  have hall : ∀ c ∈ wordStops, c.isDigit = false := by simp [wordStops]
  rw [hall c hstop] at h
  cases h

end Words

section Punctuation

/-- Whether a token is a word. -/
def isWord : Token → Bool
  | .word _ => true
  | _ => false

/-- A token that is no word may stand in front of anything. -/
theorem scan_write_of_not_word
    {t : Token}
    (h : t.isWord = false)
    (cs : List Char) :
    scan .between (t.write ++ cs) = (scan .between cs).map (t :: ·) := by
  cases t with
  | string s => exact scan_write_string s cs
  | word chars => cases h
  | _ => rfl

theorem ends_write_of_not_word
    {t : Token}
    (h : t.isWord = false)
    (cs : List Char) :
    Ends (t.write ++ cs) := by
  intro c hc
  cases t with
  | string s =>
      cases s <;> cases hc <;> rfl
  | word chars => cases h
  | _ => cases hc; rfl

end Punctuation

section Cuts

variable {t : Token} {ts us : List Token} {cs : List Char}

/-- Written tokens in front of characters are cut as they were written. -/
def Cuts (ts : List Token) (cs : List Char) : Prop :=
  scan .between (ts.flatMap write ++ cs) = (scan .between cs).map (ts ++ ·)

theorem cuts_nil
    (cs : List Char) :
    Cuts [] cs := by
  simp [Cuts]

theorem cuts_word
    {chars : List Char}
    (hne : chars ≠ [])
    (hchars : ∀ c ∈ chars, isWordChar c = true)
    (hends : Ends cs) :
    Cuts [.word chars] cs := by
  simpa [Cuts] using scan_write_word hne hchars hends

theorem Cuts.cons
    (ht : t.isWord = false)
    (h : Cuts ts cs) :
    Cuts (t :: ts) cs := by
  rw [Cuts, List.flatMap_cons, List.append_assoc, scan_write_of_not_word ht, h]
  simp [Function.comp_def]

theorem Cuts.append
    (hts : Cuts ts (us.flatMap write ++ cs))
    (hus : Cuts us cs) :
    Cuts (ts ++ us) cs := by
  rw [Cuts, List.flatMap_append, List.append_assoc, hts, hus]
  simp [Function.comp_def]

theorem ends_flatMap_write
    (ht : t.isWord = false)
    (ts : List Token) (cs : List Char) :
    Ends ((t :: ts).flatMap write ++ cs) := by
  rw [List.flatMap_cons, List.append_assoc]
  exact ends_write_of_not_word ht _

end Cuts

end Token

section Numbers

theorem head?_toDigits_ne_zero
    {n : Nat}
    (hn : n ≠ 0) :
    (Nat.toDigits 10 n).head? ≠ some '0' := by
  induction n using Nat.strongRecOn with
  | _ n ih =>
      rcases Nat.lt_or_ge n 10 with hlt | hge
      · rw [Nat.toDigits_of_lt_base hlt]
        have hall : ∀ d < 10, d ≠ 0 → [Nat.digitChar d].head? ≠ some '0' := by decide
        exact hall n hlt hn
      · have hfront := ih (n / 10) (by omega) (by omega)
        rw [Nat.toDigits_of_base_le (by omega) hge]
        cases hdigits : Nat.toDigits 10 (n / 10) with
        | nil =>
            exact absurd hdigits Nat.toDigits_ne_nil
        | cons c rest =>
            simpa [hdigits] using hfront

theorem isDigit_of_mem
    {n : Nat} {c : Char}
    (hc : c ∈ Nat.toDigits 10 n) :
    c.isDigit = true :=
  Nat.isDigit_of_mem_toDigits (by omega) (by omega) hc

theorem isWhole_toDigits
    (n : Nat) :
    isWhole (Nat.toDigits 10 n) = true := by
  by_cases hn : n = 0
  · subst hn
    rfl
  · have hhead := head?_toDigits_ne_zero hn
    have hdigits : ∀ c ∈ Nat.toDigits 10 n, c.isDigit = true := fun _ => isDigit_of_mem
    cases hcs : Nat.toDigits 10 n with
    | nil =>
        exact absurd hcs Nat.toDigits_ne_nil
    | cons c rest =>
        rw [hcs] at hhead hdigits
        have hne : c ≠ '0' := by simpa using hhead
        unfold isWhole
        split
        · rfl
        · next heq =>
            cases heq
            simpa [hne] using hdigits
        · next heq => cases heq

theorem decimal?_toDigits
    (n : Nat) :
    decimal? (Nat.toDigits 10 n) = some n := by
  have hdigits : (Nat.toDigits 10 n).all Char.isDigit = true :=
    List.all_eq_true.2 fun _ => isDigit_of_mem
  have hne : (Nat.toDigits 10 n).isEmpty = false := by
    simp
  unfold decimal?
  rw [hdigits, hne]
  exact congrArg some (Nat.ofDigitChars_toDigits (by omega) (by omega))

theorem takeWhile_toDigits
    (n : Nat) :
    (Nat.toDigits 10 n).takeWhile Char.isDigit = Nat.toDigits 10 n ∧
      (Nat.toDigits 10 n).dropWhile Char.isDigit = [] :=
  ⟨List.takeWhile_eq_self_iff.2 fun _ => isDigit_of_mem,
    List.dropWhile_eq_nil_iff.2 fun _ => isDigit_of_mem⟩

theorem number?_toDigits
    (n : Nat) :
    number? (Nat.toDigits 10 n) = some (.integer n) := by
  obtain ⟨htake, hdrop⟩ := takeWhile_toDigits n
  have htail : isTail [] = true := rfl
  unfold number?
  split
  next negative unsigned hsign =>
    split at hsign
    · next rest heq =>
        have hminus : '-'.isDigit = true := isDigit_of_mem (n := n) (heq ▸ List.mem_cons_self)
        cases hminus
    · cases hsign
      simp only [htake, hdrop, isWhole_toDigits, htail, decimal?_toDigits]
      cases n <;> rfl

theorem number?_neg
    {n : Nat}
    (hn : n ≠ 0) :
    number? ('-' :: Nat.toDigits 10 n) = some (.integer (-n)) := by
  obtain ⟨htake, hdrop⟩ := takeWhile_toDigits n
  have htail : isTail [] = true := rfl
  simp only [number?, htake, hdrop, isWhole_toDigits, htail, decimal?_toDigits]
  cases n with
  | zero => exact absurd rfl hn
  | succ n => rfl

theorem wordValue?_of_head
    {c : Char} {rest : List Char}
    (hc : c ∉ ['n', 't', 'f']) :
    wordValue? (c :: rest) = number? (c :: rest) := by
  have hne (text : String) (htext : ∀ d ∈ text.toList.head?, d ∈ ['n', 't', 'f']) (hs : text ≠ "") :
      String.ofList (c :: rest) ≠ text := by
    rintro rfl
    exact hc (htext c (by simp))
  unfold wordValue?
  split
  · next h => exact absurd h (hne _ (by simp) (by simp))
  · next h => exact absurd h (hne _ (by simp) (by simp))
  · next h => exact absurd h (hne _ (by simp) (by simp))
  · rfl

/-- The word of an integer is read as the integer. -/
theorem wordValue?_ofInt
    (n : Int) :
    ∃ chars, Token.ofInt n = .word chars ∧ (∀ c ∈ chars, Token.isWordChar c = true) ∧
      wordValue? chars = some (.integer n) := by
  have hdigits : ∀ c ∈ Nat.toDigits 10 n.natAbs, Token.isWordChar c = true :=
    fun c hc => Token.isWordChar_of_isDigit (isDigit_of_mem hc)
  by_cases hn : n < 0
  · refine ⟨'-' :: Nat.toDigits 10 n.natAbs, by rw [Token.ofInt, if_pos hn], ?_, ?_⟩
    · intro c hc
      rcases List.mem_cons.1 hc with rfl | hc
      · rfl
      · exact hdigits c hc
    · rw [wordValue?_of_head (by decide), number?_neg (by omega)]
      congr
      omega
  · refine ⟨Nat.toDigits 10 n.natAbs, by rw [Token.ofInt, if_neg hn], hdigits, ?_⟩
    have hvalue := number?_toDigits n.natAbs
    have hnat : (n.natAbs : Int) = n := by omega
    rw [hnat] at hvalue
    rw [← hvalue]
    cases hcs : Nat.toDigits 10 n.natAbs with
    | nil =>
        exact absurd hcs Nat.toDigits_ne_nil
    | cons c rest =>
        refine wordValue?_of_head fun hletter => ?_
        have hc : c.isDigit = true := isDigit_of_mem (n := n.natAbs) (hcs ▸ List.mem_cons_self)
        have hall : ∀ c ∈ ['n', 't', 'f'], c.isDigit = false := by simp
        rw [hall c hletter] at hc
        cases hc

end Numbers

section Values

attribute [local simp] assemble

/-- A value with fractions that are written as they are read. -/
inductive Value.Writable : Value → Prop
  | null :
      Writable .null
  | bool
      (b : Bool) :
      Writable (.bool b)
  | integer
      (n : Int) :
      Writable (.integer n)
  | fraction
      {written : String}
      (hread : wordValue? written.toList = some (.fraction written))
      (hchars : ∀ c ∈ written.toList, Token.isWordChar c = true) :
      Writable (.fraction written)
  | string
      (s : Option String) :
      Writable (.string s)
  | array
      {items : List Value}
      (h : ∀ v ∈ items, Writable v) :
      Writable (.array items)
  | object
      {ms : List (Option String × Value)}
      (h : ∀ m ∈ ms, Writable m.2) :
      Writable (.object ms)

/-- The tokens of a value can be cut out of a text, and they are put together to the value. -/
structure Value.ReadBack (v : Value) : Prop where
  cuts : ∀ cs, Token.Ends cs → Token.Cuts v.tokens cs
  assemble :
    ∀ stack expect ts, expect = .firstItem ∨ expect = .value →
      assemble stack expect (v.tokens ++ ts) = assemble stack (.after v) ts

theorem readBack_word
    {v : Value} {chars : List Char}
    (htokens : v.tokens = [.word chars])
    (hchars : ∀ c ∈ chars, Token.isWordChar c = true)
    (hread : wordValue? chars = some v) :
    v.ReadBack where
  cuts cs hends := by
    have hne : chars ≠ [] := by
      rintro rfl
      cases hread
    rw [htokens]
    exact Token.cuts_word hne hchars hends
  assemble stack expect ts hexpect := by
    rw [htokens]
    rcases hexpect with rfl | rfl <;> simp [hread]

theorem readBack_string
    (s : Option String) :
    (Value.string s).ReadBack where
  cuts cs _ := (Token.cuts_nil cs).cons (t := .string s) rfl
  assemble stack expect ts hexpect := by
    rcases hexpect with rfl | rfl <;> simp [Value.tokens]

section Items

variable {items : List Value}

theorem ends_moreItems
    (items : List Value) (cs : List Char) :
    Token.Ends ((Value.moreItems items).flatMap Token.write ++ cs) := by
  cases items with
  | nil => exact Token.ends_flatMap_write (t := .closeBracket) rfl _ _
  | cons v items => exact Token.ends_flatMap_write (t := .comma) rfl _ _

theorem cuts_moreItems
    (h : ∀ v ∈ items, v.ReadBack)
    (cs : List Char) :
    Token.Cuts (Value.moreItems items) cs := by
  induction items with
  | nil =>
      exact (Token.cuts_nil cs).cons (t := .closeBracket) rfl
  | cons v items ih =>
      have hrest := ih fun w hw => h w (List.mem_cons_of_mem v hw)
      have hv := (h v List.mem_cons_self).cuts _ (ends_moreItems items cs)
      exact (hv.append hrest).cons (t := .comma) rfl

theorem assemble_moreItems
    (h : ∀ v ∈ items, v.ReadBack)
    (done : List Value) (outer : List Frame) (v : Value) (ts : List Token) :
    assemble (.array done :: outer) (.after v) (Value.moreItems items ++ ts) =
      assemble outer (.after (.array (done.reverse ++ v :: items))) ts := by
  induction items generalizing done v with
  | nil =>
      simp [Value.moreItems]
  | cons w items ih =>
      have hrest := ih (fun x hx => h x (List.mem_cons_of_mem w hx)) (v :: done) w
      have hw := (h w List.mem_cons_self).assemble (.array (v :: done) :: outer) .value
        (Value.moreItems items ++ ts) (.inr rfl)
      rw [Value.moreItems, List.cons_append, List.append_assoc, assemble, hw, hrest]
      simp

theorem readBack_array
    (h : ∀ v ∈ items, v.ReadBack) :
    (Value.array items).ReadBack where
  cuts cs _ := by
    cases items with
    | nil =>
        exact ((Token.cuts_nil cs).cons (t := .closeBracket) rfl).cons (t := .openBracket) rfl
    | cons v items =>
        have hrest := cuts_moreItems (fun w hw => h w (List.mem_cons_of_mem v hw)) cs
        have hv := (h v List.mem_cons_self).cuts _ (ends_moreItems items cs)
        exact (hv.append hrest).cons (t := .openBracket) rfl
  assemble stack expect ts hexpect := by
    have hopen (ts : List Token) : assemble stack expect (.openBracket :: ts) =
        assemble (.array [] :: stack) .firstItem ts := by
      rcases hexpect with rfl | rfl <;> simp
    cases items with
    | nil =>
        rw [Value.tokens, List.cons_append, hopen]
        simp
    | cons v items =>
        have hv := (h v List.mem_cons_self).assemble (.array [] :: stack) .firstItem
          (Value.moreItems items ++ ts) (.inl rfl)
        have hrest := assemble_moreItems (fun w hw => h w (List.mem_cons_of_mem v hw)) [] stack v ts
        rw [Value.tokens, List.cons_append, List.append_assoc, hopen, hv, hrest]
        rfl

end Items

section Members

variable {ms : List (Option String × Value)}

theorem ends_moreMembers
    (ms : List (Option String × Value)) (cs : List Char) :
    Token.Ends ((Value.moreMembers ms).flatMap Token.write ++ cs) := by
  cases ms with
  | nil => exact Token.ends_flatMap_write (t := .closeBrace) rfl _ _
  | cons m ms => exact Token.ends_flatMap_write (t := .comma) rfl _ _

theorem cuts_member
    {m : Option String × Value}
    (h : m.2.ReadBack)
    {ts : List Token} {cs : List Char}
    (hends : Token.Ends (ts.flatMap Token.write ++ cs))
    (hts : Token.Cuts ts cs) :
    Token.Cuts (.string m.1 :: .colon :: (m.2.tokens ++ ts)) cs :=
  (((h.cuts _ hends).append hts).cons (t := .colon) rfl).cons (t := .string m.1) rfl

theorem cuts_moreMembers
    (h : ∀ m ∈ ms, m.2.ReadBack)
    (cs : List Char) :
    Token.Cuts (Value.moreMembers ms) cs := by
  induction ms with
  | nil =>
      exact (Token.cuts_nil cs).cons (t := .closeBrace) rfl
  | cons m ms ih =>
      have hrest := ih fun x hx => h x (List.mem_cons_of_mem m hx)
      have hm := cuts_member (h m List.mem_cons_self) (ends_moreMembers ms cs) hrest
      exact hm.cons (t := .comma) rfl

/-- A key and a value become the next member of the object that waits for them. -/
theorem assemble_member
    {m : Option String × Value}
    (h : m.2.ReadBack)
    (done : List (Option String × Value))
    {expect : Expect}
    (hexpect : expect = .firstKey done ∨ expect = .key done)
    (stack : List Frame) (ts : List Token) :
    assemble stack expect (.string m.1 :: .colon :: (m.2.tokens ++ ts)) =
      assemble (.object done m.1 :: stack) (.after m.2) ts := by
  rw [← h.assemble (.object done m.1 :: stack) .value ts (.inr rfl)]
  rcases hexpect with rfl | rfl <;> simp

theorem assemble_moreMembers
    (h : ∀ m ∈ ms, m.2.ReadBack)
    (done : List (Option String × Value)) (outer : List Frame) (m : Option String × Value)
    (ts : List Token) :
    assemble (.object done m.1 :: outer) (.after m.2) (Value.moreMembers ms ++ ts) =
      assemble outer (.after (.object (done.reverse ++ m :: ms))) ts := by
  induction ms generalizing done m with
  | nil =>
      simp [Value.moreMembers]
  | cons x ms ih =>
      have hrest := ih (fun y hy => h y (List.mem_cons_of_mem x hy)) (m :: done) x
      have hx := assemble_member (h x List.mem_cons_self) (m :: done) (.inr rfl) outer
        (Value.moreMembers ms ++ ts)
      rw [hrest] at hx
      rw [Value.moreMembers, List.cons_append, assemble]
      simpa using hx

theorem readBack_object
    (h : ∀ m ∈ ms, m.2.ReadBack) :
    (Value.object ms).ReadBack where
  cuts cs _ := by
    cases ms with
    | nil =>
        exact ((Token.cuts_nil cs).cons (t := .closeBrace) rfl).cons (t := .openBrace) rfl
    | cons m ms =>
        have hrest := cuts_moreMembers (fun x hx => h x (List.mem_cons_of_mem m hx)) cs
        have hm := cuts_member (h m List.mem_cons_self) (ends_moreMembers ms cs) hrest
        exact hm.cons (t := .openBrace) rfl
  assemble stack expect ts hexpect := by
    have hopen (ts : List Token) : assemble stack expect (.openBrace :: ts) =
        assemble stack (.firstKey []) ts := by
      rcases hexpect with rfl | rfl <;> simp
    cases ms with
    | nil =>
        rw [Value.tokens, List.cons_append, hopen]
        simp
    | cons m ms =>
        have hm := assemble_member (h m List.mem_cons_self) [] (.inl rfl) stack
          (Value.moreMembers ms ++ ts)
        have hrest :=
          assemble_moreMembers (fun x hx => h x (List.mem_cons_of_mem m hx)) [] stack m ts
        rw [hrest] at hm
        rw [Value.tokens, List.cons_append, hopen]
        simpa using hm

end Members

/-- Every value that can be written is read back, alone and within others. -/
theorem readBack_of_writable
    {v : Value}
    (h : v.Writable) :
    v.ReadBack := by
  induction h with
  | null => exact readBack_word rfl (List.all_eq_true.1 rfl) rfl
  | bool b => cases b <;> exact readBack_word rfl (List.all_eq_true.1 rfl) rfl
  | integer n =>
      obtain ⟨chars, htoken, hchars, hread⟩ := wordValue?_ofInt n
      exact readBack_word (by rw [Value.tokens, htoken]) hchars hread
  | fraction hread hchars => exact readBack_word rfl hchars hread
  | string s => exact readBack_string s
  | array _ ih => exact readBack_array ih
  | object _ ih => exact readBack_object ih

/-- What a value was written as is read as the value. -/
theorem parse_write
    {v : Value}
    (h : v.Writable) :
    parse (write v) = some v := by
  obtain ⟨hcuts, hassemble⟩ := readBack_of_writable h
  have htokens := hcuts [] (fun c hc => nomatch hc)
  have hvalue := hassemble [] .value [] (.inr rfl)
  rw [Token.Cuts, List.append_nil] at htokens
  rw [List.append_nil] at hvalue
  rw [parse, write, Token.ofChars, String.toList_ofList, htokens]
  simp [Token.scan, hvalue]

end Values

end Json
end SidecarProxy
