import SidecarProxy.Proofs.Except
import SidecarProxy.Proofs.WebUrl.HostAndPort
import SidecarProxy.Uri.Reader

/-!
# Authorities that both readers accept

A URI and a URL of the web read the same authority in different ways.  Main
statement: where the URL has a host and a port, the URI accepts the authority
exactly when its scan gets through the user information and every character
behind that is one that a URI may hold.
-/

namespace SidecarProxy
namespace Uri

open Text WebUrl

section Steps

/-- A character of an authority that means nothing but itself. -/
def isQuiet (c : Char) : Bool :=
  isAuthorityChar c && c != ':' && c != '[' && c != ']' && c != '@'

theorem step_quiet
    {c : Char}
    (hc : isQuiet c = true)
    (s : AuthorityScan) :
    s.step c = .ok s := by
  simp only [isQuiet, Bool.and_eq_true, bne_iff_ne] at hc
  obtain ⟨⟨⟨⟨hchar, hcolon⟩, hopening⟩, hclosing⟩, hat⟩ := hc
  have hpercent : c ≠ '%' := by
    rintro rfl
    revert hchar
    decide
  simp [AuthorityScan.step, hchar, hcolon, hopening, hclosing, hat, hpercent]

theorem scan_cons
    {s s' : AuthorityScan} {c : Char}
    (h : s.step c = .ok s')
    (cs : List Char) :
    (c :: cs).foldlM AuthorityScan.step s = cs.foldlM AuthorityScan.step s' := by
  rw [List.foldlM_cons, h]
  rfl

theorem scan_quiet
    {cs : List Char}
    (h : ∀ c ∈ cs, isQuiet c = true)
    (s : AuthorityScan) :
    cs.foldlM AuthorityScan.step s = .ok s := by
  induction cs with
  | nil =>
      rfl
  | cons c cs ih =>
      rw [scan_cons (step_quiet (h c (by simp)) s)]
      exact ih fun d hd => h d (List.mem_cons_of_mem c hd)

/-- A scan passes only characters that an authority may hold, and percent signs. -/
theorem isAuthorityChar_of_step
    {s s' : AuthorityScan} {c : Char}
    (h : s.step c = .ok s') :
    isAuthorityChar c = true ∨ c = '%' := by
  by_cases hspecial : c ∈ [':', '[', ']', '@']
  · left
    simp only [List.mem_cons, List.not_mem_nil, or_false] at hspecial
    rcases hspecial with rfl | rfl | rfl | rfl <;> decide
  · simp only [List.mem_cons, List.not_mem_nil, or_false, not_or] at hspecial
    obtain ⟨hcolon, hopening, hclosing, hat⟩ := hspecial
    by_cases hpercent : c = '%'
    · exact Or.inr hpercent
    · left
      by_cases hchar : isAuthorityChar c = true
      · exact hchar
      · simp [AuthorityScan.step, hcolon, hopening, hclosing, hat, hpercent, hchar] at h

theorem isAuthorityChar_of_scan
    {s s' : AuthorityScan} {cs : List Char}
    (h : cs.foldlM AuthorityScan.step s = .ok s') :
    ∀ c ∈ cs, isAuthorityChar c = true ∨ c = '%' := by
  induction cs generalizing s with
  | nil =>
      simp
  | cons c cs ih =>
      rw [List.foldlM_cons] at h
      obtain ⟨next, hstep, h⟩ := bind_eq_ok h
      intro d hd
      rcases List.mem_cons.1 hd with rfl | hd
      · exact isAuthorityChar_of_step hstep
      · exact ih h d hd

/-- The scan of a name: percent signs are remembered. -/
theorem scan_name
    {cs : List Char}
    (hlegal : ∀ c ∈ cs, isAuthorityChar c = true ∨ c = '%')
    (hopening : '[' ∉ cs)
    (hclosing : ']' ∉ cs)
    (hcolon : ':' ∉ cs)
    (hat : '@' ∉ cs)
    (s : AuthorityScan) :
    cs.foldlM AuthorityScan.step s =
      .ok { s with percent := s.percent || cs.contains '%' } := by
  induction cs generalizing s with
  | nil =>
      simp [pure, Except.pure]
  | cons c cs ih =>
      rw [List.mem_cons, not_or] at hopening hclosing hcolon hat
      have hrest := ih (fun d hd => hlegal d (List.mem_cons_of_mem c hd))
        hopening.2 hclosing.2 hcolon.2 hat.2
      rcases hlegal c (by simp) with hc | rfl
      · have hquiet : isQuiet c = true := by
          simp [isQuiet, hc, Ne.symm hopening.1, Ne.symm hclosing.1, Ne.symm hcolon.1,
            Ne.symm hat.1]
        have hpercent : '%' ≠ c := by
          rintro rfl
          revert hc
          decide
        rw [scan_cons (step_quiet hquiet s), hrest]
        simp [hpercent]
      · have hstep : s.step '%' = .ok { s with percent := true } := rfl
        rw [scan_cons hstep, hrest]
        simp

end Steps

section Parts

theorem isQuiet_of_isAlphanum
    {c : Char}
    (h : c.isAlphanum = true) :
    isQuiet c = true := by
  have hne : ∀ d : Char, d.isAlphanum = false → c ≠ d := by
    rintro d hd rfl
    rw [h] at hd
    cases hd
  simp [isQuiet, isAuthorityChar, h, hne ':' (by decide), hne '[' (by decide),
    hne ']' (by decide), hne '@' (by decide)]

theorem isAlphanum_of_isHexDigit
    {c : Char}
    (h : isHexDigit c = true) :
    c.isAlphanum = true := by
  have hsorts : ((c.isUpper || c.isLower) || c.isDigit) = true → c.isAlphanum = true := id
  refine hsorts ?_
  rw [Bool.or_eq_true, Bool.or_eq_true]
  unfold isHexDigit hexValue? at h
  split at h
  · next hdigit =>
      exact Or.inr hdigit
  · split at h
    · next hlower =>
        rw [Bool.and_eq_true, decide_eq_true_eq, decide_eq_true_eq] at hlower
        have hle : c ≤ 'z' := Char.le_trans hlower.2 (by decide)
        have hc : c.isLower = true :=
          Bool.and_eq_true_iff.2 ⟨decide_eq_true hlower.1, decide_eq_true hle⟩
        exact Or.inl (Or.inr hc)
    · split at h
      · next hupper =>
          rw [Bool.and_eq_true, decide_eq_true_eq, decide_eq_true_eq] at hupper
          have hle : c ≤ 'Z' := Char.le_trans hupper.2 (by decide)
          have hc : c.isUpper = true :=
            decide_eq_true ⟨hupper.1, hle⟩
          exact Or.inl (Or.inl hc)
      · cases h

theorem isQuiet_of_isGroupChar
    {c : Char}
    (hc : isGroupChar c = true)
    (hcolon : c ≠ ':') :
    isQuiet c = true := by
  simp only [isGroupChar, Bool.or_eq_true, beq_iff_eq] at hc
  rcases hc with (hc | hc) | rfl
  · exact isQuiet_of_isAlphanum (isAlphanum_of_isHexDigit hc)
  · exact absurd hc hcolon
  · decide

theorem step_colon
    {s : AuthorityScan}
    (h : s.colons < 8) :
    s.step ':' = .ok { s with colons := s.colons + 1 } := by
  simp [AuthorityScan.step, Nat.not_le.2 h]

/-- The scan of an address counts its colons. -/
theorem scan_groups
    {cs : List Char}
    (hchars : ∀ c ∈ cs, isGroupChar c = true)
    {s : AuthorityScan}
    (hcolons : s.colons + cs.count ':' ≤ 8) :
    cs.foldlM AuthorityScan.step s =
      .ok { s with colons := s.colons + cs.count ':' } := by
  induction cs generalizing s with
  | nil =>
      rfl
  | cons c cs ih =>
      have hrest := fun d hd => hchars d (List.mem_cons_of_mem c hd)
      by_cases hc : c = ':'
      · subst hc
        rw [List.count_cons_self] at hcolons ⊢
        rw [scan_cons (step_colon (by omega)), ih hrest (by simp only; omega)]
        simp only [Except.ok.injEq, AuthorityScan.mk.injEq, and_true]
        omega
      · rw [List.count_cons_of_ne hc] at hcolons ⊢
        rw [scan_cons (step_quiet (isQuiet_of_isGroupChar (hchars c (by simp)) hc) s)]
        exact ih hrest hcolons

/-- The scan of a port sees one colon at most. -/
theorem scan_port
    {cs : List Char}
    (h : IsPort cs)
    {s : AuthorityScan}
    (hcolons : s.colons = 0) :
    ∃ colons ≤ 1, cs.foldlM AuthorityScan.step s = .ok { s with colons := colons } := by
  rcases h with rfl | ⟨ds, rfl, hds⟩
  · exact ⟨0, by decide, by rw [← hcolons]; rfl⟩
  · have hquiet : ∀ c ∈ ds, isQuiet c = true := by
      intro c hc
      exact isQuiet_of_isAlphanum (by simp [Char.isAlphanum, hds c hc])
    refine ⟨1, by decide, ?_⟩
    rw [scan_cons (step_colon (by omega)), scan_quiet hquiet, hcolons]

theorem isAuthorityChar_of_isPort
    {cs : List Char}
    (h : IsPort cs) :
    ∀ c ∈ cs, isAuthorityChar c = true := by
  rcases h with rfl | ⟨ds, rfl, hds⟩
  · simp
  · intro c hc
    rcases List.mem_cons.1 hc with rfl | hc
    · decide
    · simp [isAuthorityChar, Char.isAlphanum, hds c hc]

end Parts

section HostAndPort

/-- The end of a scan behind which an authority is accepted. -/
structure AuthorityScan.Done (s : AuthorityScan) : Prop where
  matched : s.opened = s.closed
  colons_le : s.colons ≤ 1
  no_percent : s.percent = false

theorem scan_append
    (s : AuthorityScan) (front back : List Char) :
    (front ++ back).foldlM AuthorityScan.step s =
      front.foldlM AuthorityScan.step s >>= back.foldlM AuthorityScan.step :=
  List.foldlM_append

theorem step_opening
    {s s' : AuthorityScan}
    (hpercent : s.percent = false) :
    s.step '[' = .ok s' ↔ s.opened = false ∧ s' = { s with opened := true } := by
  cases hopened : s.opened <;> simp [AuthorityScan.step, hpercent, hopened, eq_comm]

theorem step_closing
    {s s' : AuthorityScan}
    (hopened : s.opened = true) :
    s.step ']' = .ok s' ↔
      s.closed = false ∧ s' = { s with closed := true, colons := 0, percent := false } := by
  cases hclosed : s.closed <;> simp [AuthorityScan.step, hopened, hclosed, eq_comm]

/-- The scan of an address and a port gets through where no brackets were seen before. -/
theorem scan_address_iff
    {groups port : List Char}
    (hgroups : ∀ c ∈ groups, isGroupChar c = true)
    (hcount : groups.count ':' ≤ 8)
    (hport : IsPort port)
    {s : AuthorityScan}
    (hcolons : s.colons = 0)
    (hpercent : s.percent = false) :
    (∃ s', ('[' :: (groups ++ ']' :: port)).foldlM AuthorityScan.step s = .ok s' ∧ s'.Done)
      ↔
    s.opened = false ∧ s.closed = false := by
  have hinside :
      (groups ++ ']' :: port).foldlM AuthorityScan.step { s with opened := true } =
        (']' :: port).foldlM AuthorityScan.step
          { s with opened := true, colons := groups.count ':' } := by
    rw [scan_append, scan_groups hgroups (by simp only [hcolons]; omega)]
    simp only [hcolons, Nat.zero_add]
    rfl
  constructor
  · rintro ⟨s', hscan, -⟩
    rw [List.foldlM_cons] at hscan
    obtain ⟨_, hopening, hscan⟩ := bind_eq_ok hscan
    obtain ⟨hopened, rfl⟩ := (step_opening hpercent).1 hopening
    rw [hinside, List.foldlM_cons] at hscan
    obtain ⟨_, hclosing, -⟩ := bind_eq_ok hscan
    exact ⟨hopened, ((step_closing rfl).1 hclosing).1⟩
  · rintro ⟨hopened, hclosed⟩
    have hclosing :
        AuthorityScan.step { s with opened := true, colons := groups.count ':' } ']' =
          .ok { colons := 0, opened := true, closed := true, percent := false } :=
      (step_closing rfl).2 ⟨hclosed, rfl⟩
    obtain ⟨colons, hle, hscan⟩ :=
      scan_port hport
        (s := { colons := 0, opened := true, closed := true, percent := false }) rfl
    rw [scan_cons ((step_opening hpercent).2 ⟨hopened, rfl⟩), hinside, scan_cons hclosing]
    exact ⟨_, hscan, rfl, hle, rfl⟩

/-- The scan of a name and a port gets through where the name has no percent signs. -/
theorem scan_name_iff
    {name port : List Char}
    (hopening : '[' ∉ name)
    (hclosing : ']' ∉ name)
    (hcolon : ':' ∉ name)
    (hat : '@' ∉ name)
    (hport : IsPort port)
    {s : AuthorityScan}
    (hcolons : s.colons = 0)
    (hpercent : s.percent = false) :
    (∃ s', (name ++ port).foldlM AuthorityScan.step s = .ok s' ∧ s'.Done)
      ↔
    s.opened = s.closed ∧ ∀ c ∈ name, isAuthorityChar c = true := by
  rw [scan_append]
  constructor
  · rintro ⟨s', hscan, hdone⟩
    obtain ⟨between, hname, hscan⟩ := bind_eq_ok hscan
    have hlegal := isAuthorityChar_of_scan hname
    rw [scan_name hlegal hopening hclosing hcolon hat] at hname
    cases hname
    obtain ⟨colons, -, hend⟩ := scan_port hport (s := { s with
      percent := s.percent || name.contains '%' }) hcolons
    rw [hend] at hscan
    cases hscan
    refine ⟨hdone.matched, ?_⟩
    intro c hc
    rcases hlegal c hc with hchar | rfl
    · exact hchar
    · have hno := hdone.no_percent
      simp [hc] at hno
  · rintro ⟨hmatched, hchars⟩
    have hno : name.contains '%' = false := by
      rw [List.contains_eq_mem, decide_eq_false_iff_not]
      intro hmem
      exact absurd (hchars '%' hmem) (by decide)
    rw [scan_name (fun c hc => Or.inl (hchars c hc)) hopening hclosing hcolon hat, hno,
      Bool.or_false]
    obtain ⟨colons, hle, hend⟩ := scan_port hport hcolons
    exact ⟨_, hend, hmatched, hle, hpercent⟩

theorem isAuthorityChar_of_isGroupChar
    {c : Char}
    (h : isGroupChar c = true) :
    isAuthorityChar c = true := by
  by_cases hcolon : c = ':'
  · subst hcolon
    decide
  · have hquiet := isQuiet_of_isGroupChar h hcolon
    simp only [isQuiet, Bool.and_eq_true] at hquiet
    exact hquiet.1.1.1.1

theorem isAuthorityChar_of_address
    {groups port : List Char}
    (hgroups : ∀ c ∈ groups, isGroupChar c = true)
    (hport : IsPort port) :
    ∀ c ∈ '[' :: (groups ++ ']' :: port), isAuthorityChar c = true := by
  intro c hc
  simp only [List.mem_cons, List.mem_append] at hc
  rcases hc with rfl | hc | rfl | hc
  · decide
  · exact isAuthorityChar_of_isGroupChar (hgroups c hc)
  · decide
  · exact isAuthorityChar_of_isPort hport c hc

/-- The scan of a host and a port gets through where all of their characters may stand. -/
theorem scan_hostAndPort_iff
    {host : List Char}
    (h : HostAndPort host)
    (hat : '@' ∉ host)
    {s : AuthorityScan}
    (hcolons : s.colons = 0)
    (hpercent : s.percent = false) :
    (∃ s', host.foldlM AuthorityScan.step s = .ok s' ∧ s'.Done)
      ↔
    s.opened = s.closed ∧ (s.opened = true → host.head? ≠ some '[') ∧
      ∀ c ∈ host, isAuthorityChar c = true := by
  cases h with
  | @address groups port hgroups hcount hport =>
      rw [scan_address_iff hgroups hcount hport hcolons hpercent]
      constructor
      · rintro ⟨hopened, hclosed⟩
        exact ⟨hopened.trans hclosed.symm, by simp [hopened],
          isAuthorityChar_of_address hgroups hport⟩
      · rintro ⟨hmatched, hfree, -⟩
        have hopened : s.opened = false := by
          simpa using hfree
        exact ⟨hopened, hmatched.symm.trans hopened⟩
  | @name name port hne hopening hclosing hcolon hport =>
      rw [scan_name_iff hopening hclosing hcolon
        (fun hmem => hat (List.mem_append_left _ hmem)) hport hcolons hpercent]
      have hhead : (name ++ port).head? ≠ some '[' := by
        cases name with
        | nil =>
            exact absurd rfl hne
        | cons c name =>
            intro hc
            rw [Option.some.inj hc] at hopening
            exact hopening (by simp)
      constructor
      · rintro ⟨hmatched, hchars⟩
        refine ⟨hmatched, fun _ => hhead, ?_⟩
        intro c hc
        rcases List.mem_append.1 hc with hc | hc
        · exact hchars c hc
        · exact isAuthorityChar_of_isPort hport c hc
      · rintro ⟨hmatched, -, hchars⟩
        exact ⟨hmatched, fun c hc => hchars c (List.mem_append_left _ hc)⟩

end HostAndPort

section Authority

/-- Whether a scan gets through user information, and a host can follow. -/
def userPasses
    (user host : List Char) :
    Bool :=
  match user.foldlM AuthorityScan.step {} with
  | .ok s => s.opened == s.closed && (!s.opened || host.head? != some '[')
  | .error _ => false

theorem userPasses_iff
    (user host : List Char) :
    userPasses user host = true
      ↔
    ∃ s, user.foldlM AuthorityScan.step {} = .ok s ∧
      s.opened = s.closed ∧ (s.opened = true → host.head? ≠ some '[') := by
  unfold userPasses
  cases user.foldlM AuthorityScan.step {} with
  | error why =>
      simp
  | ok s =>
      cases hopened : s.opened <;> simp [hopened]

theorem checkAuthority_eq_ok_iff
    (cs : List Char) :
    checkAuthority cs = .ok ()
      ↔
    ∃ s, cs.foldlM AuthorityScan.step {} = .ok s ∧ s.Done ∧ cs.getLast? ≠ some '@' := by
  unfold checkAuthority
  constructor
  · intro h
    obtain ⟨s, hscan, h⟩ := bind_eq_ok h
    split at h
    · cases h
    · next hdone =>
        simp only [Bool.or_eq_true, bne_iff_ne, decide_eq_true_eq, beq_iff_eq, not_or,
          Bool.not_eq_true, Decidable.not_not, Nat.not_lt] at hdone
        obtain ⟨⟨⟨hmatched, hcolons⟩, hlast⟩, hpercent⟩ := hdone
        exact ⟨s, hscan, ⟨hmatched, hcolons, hpercent⟩, hlast⟩
  · rintro ⟨s, hscan, hdone, hlast⟩
    rw [hscan]
    have hpercent := hdone.no_percent
    have hcolons := hdone.colons_le
    show (if _ then _ else _) = _
    rw [if_neg]
    simp [hdone.matched, hlast, hpercent, hcolons]

/-- The scan of an authority goes on behind its last at sign as if it began there, but for brackets. -/
theorem scan_cutUser
    (cs : List Char) :
    cs.foldlM AuthorityScan.step {} =
      ((cutUser cs).1.getD []).foldlM AuthorityScan.step {} >>= fun s =>
        (cutUser cs).2.foldlM AuthorityScan.step { s with colons := 0, percent := false } := by
  by_cases hat : '@' ∈ cs
  · obtain ⟨user, host, rfl, hhost⟩ := eq_append_cons_of_last hat
    rw [cutUser_append hhost, scan_append]
    exact congrArg _ (funext fun s => scan_cons rfl host)
  · rw [cutUser_of_notMem hat]
    rfl

theorem at_notMem_cutUser
    (cs : List Char) :
    '@' ∉ (cutUser cs).2 := by
  by_cases hat : '@' ∈ cs
  · obtain ⟨user, host, rfl, hhost⟩ := eq_append_cons_of_last hat
    rwa [cutUser_append hhost]
  · rwa [cutUser_of_notMem hat]

/-- Where a host follows the last at sign, no at sign stands at the end. -/
theorem getLast?_ne_at
    {cs : List Char}
    (h : HostAndPort (cutUser cs).2) :
    cs.getLast? ≠ some '@' := by
  intro hlast
  by_cases hat : '@' ∈ cs
  · obtain ⟨user, host, rfl, hhost⟩ := eq_append_cons_of_last hat
    rw [cutUser_append hhost] at h
    have hback := List.getLast?_eq_some_getLast h.ne_nil
    rw [List.append_cons, List.getLast?_append, hback] at hlast
    exact hhost (List.mem_of_getLast? (hback.trans hlast))
  · exact hat (List.mem_of_getLast? hlast)

/--
An authority with a host and a port is accepted when the scan gets through its
user information and every character behind that may stand in an authority.
-/
theorem checkAuthority_iff_of_hostAndPort
    {cs : List Char}
    (h : HostAndPort (cutUser cs).2) :
    checkAuthority cs = .ok ()
      ↔
    userPasses ((cutUser cs).1.getD []) (cutUser cs).2 = true ∧
      ∀ c ∈ (cutUser cs).2, isAuthorityChar c = true := by
  have hat := at_notMem_cutUser cs
  have hlast := getLast?_ne_at h
  rw [checkAuthority_eq_ok_iff, userPasses_iff, scan_cutUser]
  constructor
  · rintro ⟨s', hscan, hdone, -⟩
    obtain ⟨s, huser, hscan⟩ := bind_eq_ok hscan
    obtain ⟨hmatched, hfree, hchars⟩ :=
      (scan_hostAndPort_iff h hat rfl rfl).1 ⟨s', hscan, hdone⟩
    exact ⟨⟨s, huser, hmatched, hfree⟩, hchars⟩
  · rintro ⟨⟨s, huser, hmatched, hfree⟩, hchars⟩
    obtain ⟨s', hscan, hdone⟩ :=
      (scan_hostAndPort_iff (s := { s with colons := 0, percent := false }) h hat rfl rfl).2
        ⟨hmatched, hfree, hchars⟩
    refine ⟨s', ?_, hdone, hlast⟩
    rw [huser]
    exact hscan

end Authority

end Uri
end SidecarProxy
