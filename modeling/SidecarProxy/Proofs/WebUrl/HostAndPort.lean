import SidecarProxy.Proofs.Except
import SidecarProxy.Proofs.WebUrl.Groups
import SidecarProxy.Proofs.WebUrl.HostName

/-!
# Hosts and ports of accepted URLs

What can stand behind the user information in the authority of a URL of the web:
an address in brackets or a name without brackets, and then perhaps a colon with
digits.  Main statement: an authority that is read has this form.
-/

namespace SidecarProxy
namespace WebUrl

open Text

section Forms

/-- Nothing, or a colon and digits. -/
def IsPort
    (cs : List Char) :
    Prop :=
  cs = [] ∨ ∃ ds, cs = ':' :: ds ∧ ∀ c ∈ ds, c.isDigit = true

/-- The forms of host and port. -/
inductive HostAndPort : List Char → Prop
  | address
      {groups port : List Char}
      (hgroups : ∀ c ∈ groups, isGroupChar c = true)
      (hcolons : groups.count ':' ≤ 8)
      (hport : IsPort port) :
      HostAndPort ('[' :: (groups ++ ']' :: port))
  | name
      {name port : List Char}
      (hname : name ≠ [])
      (hopening : '[' ∉ name)
      (hclosing : ']' ∉ name)
      (hcolon : ':' ∉ name)
      (hport : IsPort port) :
      HostAndPort (name ++ port)

theorem HostAndPort.ne_nil
    {host : List Char}
    (h : HostAndPort host) :
    host ≠ [] := by
  cases h with
  | address => simp
  | name hname => simp [hname]

end Forms

section Cuts

/-- What stands behind the last of some characters. -/
theorem reverse_takeWhile_append
    {d : Char} {front back : List Char}
    (hback : d ∉ back) :
    ((front ++ d :: back).reverse.takeWhile (· != d)).reverse = back := by
  have hall : ∀ c ∈ back.reverse, (c != d) = true := by
    intro c hc
    rw [bne_iff_ne]
    rintro rfl
    exact hback (List.mem_reverse.1 hc)
  have hsplit : (front ++ d :: back).reverse = back.reverse ++ d :: front.reverse := by
    simp
  rw [hsplit, takeWhile_append_eq hall (by simp), List.reverse_reverse]

theorem takeWhile_reverse_of_notMem
    {d : Char} {cs : List Char}
    (h : d ∉ cs) :
    cs.reverse.takeWhile (· != d) = cs.reverse := by
  rw [List.takeWhile_eq_self_iff]
  intro c hc
  rw [bne_iff_ne]
  rintro rfl
  exact h (List.mem_reverse.1 hc)

/-- The last of some characters, if there is one. -/
theorem eq_append_cons_of_last
    {d : Char} {cs : List Char}
    (h : d ∈ cs) :
    ∃ front back, cs = front ++ d :: back ∧ d ∉ back := by
  obtain ⟨before, after, hcs, hbefore⟩ :=
    List.eq_append_cons_of_mem (List.mem_reverse.2 h)
  refine ⟨after.reverse, before.reverse, ?_, by simpa using hbefore⟩
  have hreverse := congrArg List.reverse hcs
  simpa using hreverse

theorem cutUser_of_notMem
    {cs : List Char}
    (h : '@' ∉ cs) :
    cutUser cs = (none, cs) := by
  simp [cutUser, takeWhile_reverse_of_notMem h]

theorem cutUser_append
    {user host : List Char}
    (h : '@' ∉ host) :
    cutUser (user ++ '@' :: host) = (some user, host) := by
  have hback : ((user ++ '@' :: host).reverse.takeWhile (· != '@')).reverse = host :=
    reverse_takeWhile_append h
  have hlength := congrArg List.length hback
  simp only [List.length_reverse] at hlength
  have htotal : (user ++ '@' :: host).length = user.length + 1 + host.length := by
    simp
    omega
  have hfront : user.length + 1 + host.length - host.length - 1 = user.length := by
    omega
  have hne : host.length ≠ user.length + 1 + host.length := by
    omega
  unfold cutUser
  simp only [hlength, htotal, hne, if_false, hfront, hback, List.take_left]

theorem mem_of_mem_cutUser
    {c : Char} {cs : List Char}
    (h : c ∈ (cutUser cs).2) :
    c ∈ cs := by
  by_cases hat : '@' ∈ cs
  · obtain ⟨user, host, rfl, hhost⟩ := eq_append_cons_of_last hat
    rw [cutUser_append hhost] at h
    exact List.mem_append_right _ (List.mem_cons_of_mem _ h)
  · rwa [cutUser_of_notMem hat] at h

/-- The host and the rest make up the text, and the rest begins with a colon. -/
theorem cutHost_eq
    {inside : Bool} {cs host rest : List Char}
    (h : cutHost inside cs = (host, rest)) :
    cs = host ++ rest ∧ (rest = [] ∨ ∃ more, rest = ':' :: more) := by
  induction cs generalizing inside host rest with
  | nil =>
      cases h
      exact ⟨rfl, Or.inl rfl⟩
  | cons c cs ih =>
      unfold cutHost at h
      split at h
      · next hcolon =>
          cases h
          simp only [Bool.and_eq_true, beq_iff_eq] at hcolon
          exact ⟨rfl, Or.inr ⟨cs, by rw [hcolon.1]⟩⟩
      · cases h
        obtain ⟨hcs, hrest⟩ := ih rfl
        exact ⟨by rw [List.cons_append, ← hcs], hrest⟩

/-- Without brackets the host ends at the first colon. -/
theorem colon_notMem_of_cutHost
    {cs host rest : List Char}
    (h : cutHost false cs = (host, rest))
    (hopening : '[' ∉ host) :
    ':' ∉ host := by
  induction cs generalizing host rest with
  | nil =>
      cases h
      simp
  | cons c cs ih =>
      unfold cutHost at h
      split at h
      · cases h
        simp
      · next hcolon =>
          cases h
          rw [List.mem_cons, not_or] at hopening
          have hinside : (if c == '[' then true else if c == ']' then false else false) = false := by
            simp [Ne.symm hopening.1]
          rw [hinside] at hopening ⊢
          rw [List.mem_cons, not_or]
          refine ⟨?_, ih rfl hopening.2⟩
          rintro rfl
          exact hcolon rfl

end Cuts

section Reading

theorem isDigit_of_readPort
    {scheme : String} {cs : List Char} {result : Option Nat × List Char}
    (hback : '\\' ∉ cs)
    (h : readPort scheme cs = .ok result) :
    ∀ c ∈ cs, c.isDigit = true := by
  have hrest : cs.dropWhile Char.isDigit = [] := by
    cases hdrop : cs.dropWhile Char.isDigit with
    | nil =>
        rfl
    | cons d rest =>
        have hd : d ≠ '\\' := by
          rintro rfl
          have hmem : '\\' ∈ cs.dropWhile Char.isDigit := by
            simp [hdrop]
          exact hback ((List.dropWhile_sublist _).mem hmem)
        simp [readPort, hdrop, hd] at h
  exact List.dropWhile_eq_nil_iff.1 hrest

theorem readHost_web_eq_ok
    {hasUser : Bool} {host rest : List Char} {result : Option WebHost}
    (h : readHost .web hasUser host rest = .ok result) :
    host ≠ [] ∧ ∃ read, readWebHost host = .ok read := by
  unfold readHost at h
  split at h
  · simp at h
  · next hempty =>
      refine ⟨fun hnil => hempty (by simp [hnil]), ?_⟩
      obtain ⟨read, hread, -⟩ := map_eq_ok h
      exact ⟨read, hread⟩

/-- What has been read of an authority: its host and its port. -/
theorem readAuthority_eq_ok
    {scheme : String} {cs host rest : List Char} {atEnd : Bool} {a : Authority}
    (hcut : cutHost false (cutUser cs).2 = (host, rest))
    (h : readAuthority scheme cs atEnd = .ok a) :
    (∃ hasUser result, readHost (kindOf scheme) hasUser host rest = .ok result) ∧
      ∃ result, readPort scheme (rest.drop 1) = .ok result := by
  unfold readAuthority at h
  simp only [hcut] at h
  split at h
  · cases h
  · obtain ⟨host, hhost, h⟩ := bind_eq_ok h
    obtain ⟨port, hport, -⟩ := bind_eq_ok h
    exact ⟨⟨_, host, hhost⟩, port, hport⟩

theorem readBracketed_eq_ok
    {cs : List Char} {host : WebHost}
    (h : readBracketed cs = .ok host) :
    ∃ groups,
      cs = groups ++ [']'] ∧
        (∀ c ∈ groups, isGroupChar c = true) ∧ groups.count ':' ≤ 8 := by
  unfold readBracketed at h
  split at h
  · next hlast =>
      split at h
      · next hgroups =>
          obtain ⟨front, rfl⟩ := List.getLast?_eq_some_iff.1 hlast
          rw [List.dropLast_concat] at hgroups
          exact ⟨front, rfl, parseIpv6?_eq_some hgroups⟩
      · cases h
  · cases h

/-- Behind the user information of an authority that is read stand a host and a port. -/
theorem hostAndPort_of_readAuthority
    {scheme : String} {cs : List Char} {atEnd : Bool} {a : Authority}
    (hkind : kindOf scheme = .web)
    (hback : '\\' ∉ (cutUser cs).2)
    (h : readAuthority scheme cs atEnd = .ok a) :
    HostAndPort (cutUser cs).2 := by
  obtain ⟨host, rest, hcut⟩ :
      ∃ host rest, cutHost false (cutUser cs).2 = (host, rest) :=
    ⟨_, _, rfl⟩
  obtain ⟨hcs, hrest⟩ := cutHost_eq hcut
  obtain ⟨⟨_, _, hhost⟩, _, hnumber⟩ := readAuthority_eq_ok hcut h
  rw [hkind] at hhost
  obtain ⟨hne, read, hread⟩ := readHost_web_eq_ok hhost
  have hport : IsPort rest := by
    rcases hrest with rfl | ⟨more, rfl⟩
    · exact Or.inl rfl
    · have hmore : '\\' ∉ more := by
        intro hmem
        exact hback (by simp [hcs, hmem])
      exact Or.inr ⟨more, rfl, isDigit_of_readPort hmore hnumber⟩
  rw [hcs]
  by_cases hhead : host.head? = some '['
  · cases host with
    | nil =>
        cases hhead
    | cons c inner =>
        obtain rfl : c = '[' := Option.some.inj hhead
        obtain ⟨groups, rfl, hgroups, hcolons⟩ := readBracketed_eq_ok hread
        rw [List.cons_append, List.append_assoc]
        exact HostAndPort.address hgroups hcolons hport
  · obtain ⟨hopening, hclosing⟩ := no_brackets_of_readWebHost hhead hread
    exact HostAndPort.name hne hopening hclosing
      (colon_notMem_of_cutHost hcut hopening) hport

end Reading

end WebUrl
end SidecarProxy
