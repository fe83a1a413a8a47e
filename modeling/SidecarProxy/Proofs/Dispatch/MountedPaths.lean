import SidecarProxy.Dispatch.Destination
import SidecarProxy.Proofs.Resolve.Running
import SidecarProxy.Proofs.Text.Split
import SidecarProxy.Proofs.Text.Trim

/-!
# Paths at a mount point

A module may be mounted under its own name.  The path that is looked up and the
path that is sent to the module are computed apart.  Main statement: both are
rooted, they are the same unless the name is put in front, a path below the mount
point is told by its whole segments, and putting the name in front is undone by
taking it off.
-/

namespace SidecarProxy
namespace Dispatch

open Message Resolve Route Text

section Below

variable {m : Mount} {path rest : List Char}

theorem below?_eq_some_iff :
    m.below? path = some rest
      ↔
    path = m.root ++ rest ∧ (rest = [] ∨ rest.head? = some '/') := by
  constructor
  · intro h
    unfold Mount.below? at h
    dsimp only at h
    split at h
    · next hprefix =>
        obtain ⟨more, rfl⟩ := List.isPrefixOf_iff_prefix.1 hprefix
        rw [List.drop_left] at h
        split at h
        · next hcut =>
            cases h
            simpa using hcut
        · cases h
    · cases h
  · rintro ⟨rfl, hrest⟩
    simpa [Mount.below?] using hrest.resolve_left

/-- A path lies below the mount point when its segments begin with those of the root. -/
theorem isSome_below?_iff :
    (m.below? path).isSome = true ↔ fields '/' m.root <+: fields '/' path := by
  rw [fields_prefix_iff, Option.isSome_iff_exists]
  simp only [below?_eq_some_iff, List.head?_eq_some_iff]
  constructor
  · rintro ⟨_, rfl, rfl | ⟨back, rfl⟩⟩
    · exact .inl (List.append_nil _)
    · exact .inr ⟨back, rfl⟩
  · rintro (rfl | ⟨back, rfl⟩)
    · exact ⟨[], (List.append_nil _).symm, .inl rfl⟩
    · exact ⟨_, rfl, .inr ⟨back, rfl⟩⟩

/-- A path does not lie below the mount point, or it is the root, or it goes on behind it. -/
theorem stripChars_cases
    (m : Mount) (path : List Char) :
    (¬ fields '/' m.root <+: fields '/' path ∧ m.stripChars path = path) ∨
      (path = m.root ∧ m.stripChars path = ['/']) ∨
      ∃ rest, path = m.root ++ '/' :: rest ∧ m.stripChars path = '/' :: rest := by
  unfold Mount.stripChars
  split
  · next hnone =>
      rw [← isSome_below?_iff, hnone]
      exact .inl ⟨Bool.false_ne_true, rfl⟩
  · next hbelow =>
      have hroot := (below?_eq_some_iff.1 hbelow).1
      rw [List.append_nil] at hroot
      exact .inr (.inl ⟨hroot, rfl⟩)
  · next rest hne hbelow =>
      obtain ⟨hpath, hcut⟩ := below?_eq_some_iff.1 hbelow
      obtain ⟨more, rfl⟩ := List.head?_eq_some_iff.1 (hcut.resolve_left hne)
      exact .inr (.inr ⟨more, hpath, rfl⟩)

theorem rooted_stripChars
    (hrooted : path.head? = some '/') :
    (m.stripChars path).head? = some '/' := by
  rcases stripChars_cases m path with ⟨-, hstrip⟩ | ⟨-, hstrip⟩ | ⟨rest, -, hstrip⟩ <;>
    rw [hstrip]
  · exact hrooted
  · rfl
  · rfl

/-- Putting the root in front of a path is undone by taking it off. -/
theorem stripChars_root_append
    (hrooted : path.head? = some '/') :
    m.stripChars (m.root ++ path) = path := by
  have hbelow : m.below? (m.root ++ path) = some path :=
    below?_eq_some_iff.2 ⟨rfl, .inr hrooted⟩
  have hne : path ≠ [] := by
    rintro rfl
    cases hrooted
  unfold Mount.stripChars
  rw [hbelow]
  cases path with
  | nil =>
      exact absurd rfl hne
  | cons c rest =>
      rfl

/-- Exactly the paths at and below a root that is more than a slash are changed. -/
theorem stripChars_ne_iff
    (hroot : 1 < m.root.length) :
    m.stripChars path ≠ path ↔ path = m.root ∨ ∃ rest, path = m.root ++ '/' :: rest := by
  rw [← fields_prefix_iff]
  rcases stripChars_cases m path with ⟨hnot, hstrip⟩ | ⟨rfl, hstrip⟩ | ⟨rest, rfl, hstrip⟩
  · simp [hnot, hstrip]
  · rw [hstrip]
    refine iff_of_true (fun hsame => ?_) (List.prefix_refl _)
    rw [← hsame] at hroot
    exact absurd hroot (by decide)
  · rw [hstrip]
    refine iff_of_true (fun hsame => ?_) ((fields_prefix_iff _ _ _).2 (.inr ⟨rest, rfl⟩))
    have hlength := congrArg List.length hsame
    rw [List.length_append] at hlength
    omega

end Below

section Proxied

variable {m : Mount} {path : List Char}

/-- What a mount point sends to a module that serves below its root. -/
theorem moduleChars_proxy
    (hproxy : m.strategy = .proxy) :
    m.moduleChars path =
      if fields '/' m.root <+: fields '/' path then path else m.root ++ path := by
  simp only [Mount.moduleChars, hproxy, isSome_below?_iff]

theorem fields_prefix_root_append
    (hrooted : path.head? = some '/') :
    fields '/' m.root <+: fields '/' (m.root ++ path) := by
  obtain ⟨rest, rfl⟩ := List.head?_eq_some_iff.1 hrooted
  exact (fields_prefix_iff _ _ _).2 (.inr ⟨rest, rfl⟩)

theorem fields_prefix_moduleChars
    (hproxy : m.strategy = .proxy)
    (hrooted : path.head? = some '/') :
    fields '/' m.root <+: fields '/' (m.moduleChars path) := by
  rw [moduleChars_proxy hproxy]
  split
  · assumption
  · exact fields_prefix_root_append hrooted

/-- The root is not put in front of a path twice. -/
theorem moduleChars_moduleChars
    (hproxy : m.strategy = .proxy)
    (hrooted : path.head? = some '/') :
    m.moduleChars (m.moduleChars path) = m.moduleChars path := by
  rw [moduleChars_proxy hproxy, if_pos (fields_prefix_moduleChars hproxy hrooted)]

/-- Rooted paths stay rooted below the name of a module and without it. -/
theorem rooted_moduleChars
    {name : String} {strategy : MountStrategy}
    (hrooted : path.head? = some '/') :
    ((Mount.ofName name strategy).moduleChars path).head? = some '/' := by
  cases strategy with
  | none =>
      exact hrooted
  | strip =>
      exact rooted_stripChars hrooted
  | proxy =>
      rw [moduleChars_proxy rfl]
      split
      · exact hrooted
      · rfl

end Proxied

section Main

/-- The name of a module without the slashes around it. -/
structure InnerName (name : String) (inner : List Char) : Prop where
  around :
    ∃ front back,
      name.toList = front ++ (inner ++ back) ∧ (∀ c ∈ front, c = '/') ∧ ∀ c ∈ back, c = '/'
  head : inner.head? ≠ some '/'
  last : inner.getLast? ≠ some '/'
  nonempty : inner ≠ []

theorem innerName_trimSlashes
    {name : String}
    (hname : ∃ c ∈ name.toList, c ≠ '/') :
    InnerName name (Mount.trimSlashes name.toList) := by
  obtain ⟨front, back, hcs, hfront, hback⟩ := exists_around (· == '/') name.toList
  simp only [beq_iff_eq] at hfront hback
  refine ⟨⟨front, back, hcs, hfront, hback⟩, fun hhead => ?_, fun hlast => ?_, fun hnil => ?_⟩
  · exact absurd (of_head?_rdropWhile (· == '/') hhead) (by decide)
  · exact absurd (of_getLast?_rdropWhile (· == '/') hlast) (by decide)
  · obtain ⟨c, hc, hne⟩ := hname
    change ((name.toList.dropWhile (· == '/')).rdropWhile (· == '/')) = [] at hnil
    rw [hcs, hnil, List.nil_append] at hc
    exact hne ((List.mem_append.1 hc).elim (hfront c) (hback c))

/-- A path begins with all segments of a root. -/
def Carries (root : List Char) (path : String) : Prop :=
  fields '/' root <+: fields '/' path.toList

/-- What becomes of a path when the module of a name is mounted at a root. -/
structure MountedAt (name : String) (root : List Char) (path : String) : Prop where
  rooted :
    ∀ strategy,
      ((Mount.ofName name strategy).lookupPath path).toList.head? = some '/' ∧
        ((Mount.ofName name strategy).modulePath path).toList.head? = some '/'
  same :
    ∀ strategy, strategy ≠ .proxy →
      (Mount.ofName name strategy).lookupPath path = (Mount.ofName name strategy).modulePath path
  /-- The ingress table is asked for the path that is sent. -/
  asked :
    ∀ {σ : Type} (services : Services σ) (r : Resolver) (inbound : Inbound) (s : σ) (strategy),
      strategy ≠ .proxy → r.mount = .ofName name strategy → inbound.path = path →
        (r.searchBy inbound .ingress).run services s =
          (.ok ((services.published s).ingress.table.lookup
            (Resolver.queryAt inbound (sentPath r.mount .ingress path))), s)
  carried : Carries root ((Mount.ofName name .proxy).modulePath path)
  again :
    (Mount.ofName name .proxy).modulePath ((Mount.ofName name .proxy).modulePath path) =
      (Mount.ofName name .proxy).modulePath path
  undone :
    ¬ Carries root path →
      (Mount.ofName name .strip).lookupPath ((Mount.ofName name .proxy).modulePath path) =
          (Mount.ofName name .proxy).lookupPath path ∧
        (Mount.ofName name .strip).modulePath ((Mount.ofName name .proxy).modulePath path) =
          (Mount.ofName name .proxy).lookupPath path
  changed_iff :
    (Mount.ofName name .strip).lookupPath path ≠ path
      ↔
    path.toList = root ∨ ∃ rest, path.toList = root ++ '/' :: rest

variable {name path : String}

theorem lookupPath_eq_modulePath
    {strategy : MountStrategy}
    (hstrategy : strategy ≠ .proxy) :
    (Mount.ofName name strategy).lookupPath path =
      (Mount.ofName name strategy).modulePath path := by
  cases strategy with
  | none =>
      rfl
  | strip =>
      rfl
  | proxy =>
      exact absurd rfl hstrategy

/-- A root that was put in front is taken off again. -/
theorem lookupPath_strip_modulePath
    (hpath : path.toList.head? = some '/')
    (hnot : ¬ Carries (Mount.ofName name .proxy).root path) :
    (Mount.ofName name .strip).lookupPath ((Mount.ofName name .proxy).modulePath path) = path := by
  rw [Carries] at hnot
  have hsent : ((Mount.ofName name .proxy).modulePath path).toList =
      (Mount.ofName name .strip).root ++ path.toList := by
    rw [Mount.modulePath, String.toList_ofList, moduleChars_proxy rfl, if_neg hnot]
    rfl
  rw [Mount.lookupPath, hsent]
  change String.ofList (Mount.stripChars _ _) = path
  rw [stripChars_root_append hpath, String.ofList_toList]

theorem rooted_lookupPath
    (hpath : path.toList.head? = some '/')
    (strategy : MountStrategy) :
    ((Mount.ofName name strategy).lookupPath path).toList.head? = some '/' := by
  rw [Mount.lookupPath, String.toList_ofList]
  cases strategy with
  | none =>
      exact hpath
  | strip =>
      exact rooted_stripChars hpath
  | proxy =>
      exact hpath

/--
For a module name that is more than slashes and a rooted path, lookup and
forwarding go together under every strategy, and the root of the mount point is
the inner name behind a slash.
-/
theorem mountedAt_of_rooted
    (hname : ∃ c ∈ name.toList, c ≠ '/')
    (hpath : path.toList.head? = some '/') :
    ∃ inner, InnerName name inner ∧ MountedAt name ('/' :: inner) path := by
  have hinner := innerName_trimSlashes hname
  refine ⟨_, hinner, {
    rooted := fun strategy => ⟨rooted_lookupPath hpath strategy, ?_⟩
    same := fun _ => lookupPath_eq_modulePath
    asked := fun services r inbound s strategy hstrategy hmount hinbound => ?_
    carried := ?_
    again := ?_
    undone := fun hnot => ?_
    changed_iff := ?_ }⟩
  · rw [Mount.modulePath, String.toList_ofList]
    exact rooted_moduleChars hpath
  · change (Except.ok ((services.published s).ingress.table.lookup
      (Resolver.queryAt inbound (r.mount.lookupPath inbound.path))), s) = _
    rw [hinbound, hmount, lookupPath_eq_modulePath hstrategy]
    rfl
  · rw [Carries, Mount.modulePath, String.toList_ofList]
    exact fields_prefix_moduleChars (m := Mount.ofName name .proxy) rfl hpath
  · rw [Mount.modulePath, Mount.modulePath, String.toList_ofList,
      moduleChars_moduleChars (m := Mount.ofName name .proxy) rfl hpath]
  · have hback := lookupPath_strip_modulePath hpath hnot
    have hreceived : (Mount.ofName name .proxy).lookupPath path = path :=
      String.ofList_toList
    rw [hreceived]
    exact ⟨hback, (lookupPath_eq_modulePath (by decide)).symm.trans hback⟩
  · have hroot : 1 < (Mount.ofName name .strip).root.length := by
      have hpos := List.length_pos_of_ne_nil hinner.nonempty
      rw [Mount.ofName, List.length_cons]
      omega
    rw [← String.toList_inj.ne, Mount.lookupPath, String.toList_ofList]
    exact stripChars_ne_iff hroot

/-- A name with slashes around it and inside, and a path that only resembles the root. -/
theorem mountedAt_of_rooted_lookalike :
    (∃ c ∈ "/mod/foo/".toList, c ≠ '/') ∧
      "/mod/foobar".toList.head? = some '/' ∧
      ∃ inner, InnerName "/mod/foo/" inner ∧ MountedAt "/mod/foo/" ('/' :: inner) "/mod/foobar" :=
  ⟨⟨'m', by decide, by decide⟩, by decide,
    mountedAt_of_rooted ⟨'m', by decide, by decide⟩ (by decide)⟩

end Main

end Dispatch
end SidecarProxy
