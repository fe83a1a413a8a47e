import SidecarProxy.Proofs.Route.Built
import SidecarProxy.Proofs.Route.Reference

/-!
# The order of modules

What a lookup finds is told by the first declared match under each key that is
probed.  Which keys have a match does not depend on the order of the modules; which
match comes first does.  Main statement: modules in another order lead to hits under
the same keys, and modules that are added behind the others can only take a request
to a longer key.
-/

namespace SidecarProxy
namespace Route

open Catalog

section Finds

/-- What a lookup finds, and the key of the bucket in which that stands. -/
structure Table.Finds (t : Table) (q : Query) (key : String) (e : Entry) : Prop where
  found : t.lookup q = some e
  filed : e ∈ t.buckets.get key

theorem filed_ofModules
    {ds : List ModuleDescription} {t : Table}
    (h : Table.ofModules ds = .ok t) :
    t.Filed := by
  obtain ⟨keyed, hkeyed, rfl⟩ := addModules_eq_ok h
  exact Table.Built.empty.filed.foldl_file (key?_of_filedPair hkeyed)

theorem exists_finds
    {t : Table} {q : Query} {e : Entry}
    (h : t.lookup q = some e) :
    ∃ key, t.Finds q key e := by
  obtain ⟨key, -, hfind⟩ := List.exists_of_findSome?_eq_some h
  exact ⟨key, h, List.mem_of_find?_eq_some hfind⟩

/-- A hit in a compiled table is the first declared match under the longest key that has one. -/
theorem finds_iff
    {ds : List ModuleDescription} {t : Table}
    (h : Table.ofModules ds = .ok t)
    {q : Query} {key : String} {e : Entry} :
    t.Finds q key e ↔ FirstUnderLongest {} q (declaredAll ds) key e := by
  have hfiled := filed_ofModules h
  have hkey : ∀ {k}, FirstUnderLongest {} q (declaredAll ds) k e → e.key? = some k :=
    fun hk => (candidate_of_firstUnder hk.probed hk.first).key_eq
  constructor
  · rintro ⟨hfound, hmem⟩
    rw [lookup_eq_findSome?_firstUnder h, findSome?_eq_some_iff_firstUnderLongest] at hfound
    obtain ⟨k, hk⟩ := hfound
    have hsame : some key = some k :=
      (hfiled.key_eq key e hmem).symm.trans (hkey hk)
    cases hsame
    exact hk
  · intro hk
    have hfound : t.lookup q = some e := by
      rw [lookup_eq_findSome?_firstUnder h, findSome?_eq_some_iff_firstUnderLongest]
      exact ⟨key, hk⟩
    obtain ⟨k, hfinds⟩ := exists_finds hfound
    have hsame : some key = some k :=
      (hkey hk).symm.trans (hfiled.key_eq k e hfinds.filed)
    cases hsame
    exact hfinds

/-- Under a probed key that has a match, or a longer one, there is a hit. -/
theorem exists_firstUnderLongest
    {q : Query} {es : List Entry} {key : String}
    (hprobed : key ∈ probes q.path)
    (h : firstUnder {} q es key ≠ none) :
    ∃ k e, FirstUnderLongest {} q es k e := by
  cases hfound : (probes q.path).findSome? (firstUnder {} q es) with
  | none =>
      exact absurd (List.findSome?_eq_none_iff.1 hfound key hprobed) h
  | some e =>
      obtain ⟨k, hk⟩ := (findSome?_eq_some_iff_firstUnderLongest {} q es e).1 hfound
      exact ⟨k, e, hk⟩

end Finds

section Documents

/-- A module that is accepted on its own. -/
def Valid (d : ModuleDescription) : Prop :=
  ∃ t, Table.ofModule d none = .ok t

/-- Whether a module is accepted does not depend on the table that it is added to. -/
theorem exists_addModule_iff
    (t : Table) (d : ModuleDescription) :
    (∃ t', t.addModule d none = .ok t') ↔ Valid d := by
  unfold Valid Table.ofModule Table.addModule
  cases Table.moduleEntries d none <;> simp

theorem exists_addModules_iff
    (t : Table) (ds : List ModuleDescription) :
    (∃ t', ds.foldlM (fun t d => t.addModule d none) t = .ok t') ↔ ∀ d ∈ ds, Valid d := by
  induction ds generalizing t with
  | nil =>
      exact ⟨fun _ _ hd => absurd hd List.not_mem_nil, fun _ => ⟨t, rfl⟩⟩
  | cons d ds ih =>
      rw [List.forall_mem_cons, List.foldlM_cons]
      constructor
      · rintro ⟨t', h⟩
        obtain ⟨next, hd, hds⟩ := bind_eq_ok h
        exact ⟨(exists_addModule_iff t d).1 ⟨next, hd⟩, (ih next).1 ⟨t', hds⟩⟩
      · rintro ⟨hd, hds⟩
        obtain ⟨next, hnext⟩ := (exists_addModule_iff t d).2 hd
        obtain ⟨t', ht'⟩ := (ih next).2 hds
        exact ⟨t', by rw [hnext]; exact ht'⟩

/-- Modules compile to a table exactly when each of them is accepted on its own. -/
theorem exists_ofModules_iff
    (ds : List ModuleDescription) :
    (∃ t, Table.ofModules ds = .ok t) ↔ ∀ d ∈ ds, Valid d :=
  exists_addModules_iff Table.empty ds

/-- A module declares an entry that takes a request and is filed under a key. -/
def Declares (d : ModuleDescription) (q : Query) (key : String) : Prop :=
  ∃ e ∈ declared d none, e.key? = some key ∧ e.takes {} q = true

/-- Exactly one of several modules declares a match under a key. -/
def OneDeclares (ds : List ModuleDescription) (q : Query) (key : String) : Prop :=
  ∃ d ∈ ds, Declares d q key ∧ ∀ other ∈ ds, Declares other q key → other = d

theorem firstUnder_ne_none_iff
    {q : Query} {es : List Entry} {key : String} :
    firstUnder {} q es key ≠ none ↔ ∃ e ∈ es, e.key? = some key ∧ e.takes {} q = true := by
  simp [firstUnder]

/-- The first match of several modules is that of the first module with a match. -/
theorem firstUnder_declaredAll
    (q : Query) (ds : List ModuleDescription) (key : String) :
    firstUnder {} q (declaredAll ds) key =
      ds.findSome? fun d => firstUnder {} q (declared d none) key :=
  List.find?_flatMap

theorem findSome?_eq_of_only
    {α β : Type} {f : α → Option β} {xs : List α} {x : α}
    (hx : x ∈ xs)
    (hsome : f x ≠ none)
    (honly : ∀ y ∈ xs, f y ≠ none → y = x) :
    xs.findSome? f = f x := by
  cases hfound : xs.findSome? f with
  | none =>
      exact absurd (List.findSome?_eq_none_iff.1 hfound x hx) hsome
  | some b =>
      obtain ⟨y, hy, hb⟩ := List.exists_of_findSome?_eq_some hfound
      rw [← honly y hy (by simp [hb]), hb]

end Documents

section Orders

variable {ds : List ModuleDescription} {q : Query} {key : String}

theorem firstUnder_of_only
    {d : ModuleDescription}
    (hd : d ∈ ds)
    (hdeclares : Declares d q key)
    (honly : ∀ other ∈ ds, Declares other q key → other = d) :
    firstUnder {} q (declaredAll ds) key = firstUnder {} q (declared d none) key := by
  rw [firstUnder_declaredAll]
  exact findSome?_eq_of_only hd (firstUnder_ne_none_iff.2 hdeclares) fun other hother hsome =>
    honly other hother (firstUnder_ne_none_iff.1 hsome)

/-- Where one module alone declares a match, the order of the modules does not matter. -/
theorem firstUnder_perm_of_oneDeclares
    {ds' : List ModuleDescription}
    (hperm : ds.Perm ds')
    (hone : OneDeclares ds q key) :
    firstUnder {} q (declaredAll ds') key = firstUnder {} q (declaredAll ds) key := by
  obtain ⟨d, hd, hdeclares, honly⟩ := hone
  rw [firstUnder_of_only hd hdeclares honly,
    firstUnder_of_only (hperm.mem_iff.1 hd) hdeclares fun other hother =>
      honly other (hperm.mem_iff.2 hother)]

/-- A key has a match in every order of the modules, or in none. -/
theorem firstUnder_eq_none_iff_of_perm
    {ds' : List ModuleDescription}
    (hperm : ds.Perm ds')
    (q : Query) (key : String) :
    firstUnder {} q (declaredAll ds) key = none ↔
      firstUnder {} q (declaredAll ds') key = none := by
  have hmem : ∀ e, e ∈ declaredAll ds ↔ e ∈ declaredAll ds' :=
    fun e => (hperm.flatMap_right _).mem_iff
  simp only [firstUnder, List.find?_eq_none, hmem]

theorem FirstUnderLongest.perm
    {ds' : List ModuleDescription} {e : Entry}
    (h : FirstUnderLongest {} q (declaredAll ds) key e)
    (hperm : ds.Perm ds') :
    ∃ e', FirstUnderLongest {} q (declaredAll ds') key e' := by
  have hsome : firstUnder {} q (declaredAll ds') key ≠ none := by
    rw [Ne, ← firstUnder_eq_none_iff_of_perm hperm, h.first]
    exact Option.some_ne_none e
  obtain ⟨e', he'⟩ := Option.ne_none_iff_exists'.1 hsome
  exact ⟨e', h.probed, he', fun k hk hlonger =>
    (firstUnder_eq_none_iff_of_perm hperm q k).1 (h.longest k hk hlonger)⟩

/-- More entries behind the others keep a hit, or take the request to a longer key. -/
theorem FirstUnderLongest.append
    {es : List Entry} {e : Entry}
    (h : FirstUnderLongest {} q es key e)
    (more : List Entry) :
    ∃ key' e', FirstUnderLongest {} q (es ++ more) key' e' ∧
      (key' = key ∧ e' = e ∨ key.toList.length < key'.toList.length) := by
  have hfirst : firstUnder {} q (es ++ more) key = some e := by
    have hes : es.find? (fun e => e.key? == some key && e.takes {} q) = some e :=
      h.first
    rw [firstUnder, List.find?_append, hes, Option.some_or]
  obtain ⟨key', e', hhit⟩ :=
    exists_firstUnderLongest h.probed (hfirst.trans_ne (Option.some_ne_none e))
  refine ⟨key', e', hhit, ?_⟩
  rcases probed_cases h.probed hhit.probed with rfl | hlonger | hshorter
  · exact .inl ⟨rfl, Option.some.inj (hhit.first.symm.trans hfirst)⟩
  · exact .inr hlonger
  · have hnone := hhit.longest key h.probed hshorter
    rw [hfirst] at hnone
    cases hnone

/-- Two tables of the same modules find the same, but for ties between modules. -/
structure AgreeButTies (ds : List ModuleDescription) (t t' : Table) (q : Query) : Prop where
  miss_iff : t.lookup q = none ↔ t'.lookup q = none
  /-- Both hits stand under one key, and differ only if several modules have a match there. -/
  same_key : ∀ e e', t.lookup q = some e → t'.lookup q = some e' →
    ∃ key, t.Finds q key e ∧ t'.Finds q key e' ∧ (OneDeclares ds q key → e' = e)

/-- Where a table finds an entry, another one finds it too, or one under a longer key. -/
def Refines (t t' : Table) (q : Query) : Prop :=
  ∀ e, t.lookup q = some e → ∃ key key' e', t.Finds q key e ∧ t'.Finds q key' e' ∧
    (e' = e ∨ key.toList.length < key'.toList.length)

theorem agreeButTies_of_perm
    {ds' : List ModuleDescription} {t t' : Table}
    (h : Table.ofModules ds = .ok t)
    (h' : Table.ofModules ds' = .ok t')
    (hperm : ds.Perm ds')
    (q : Query) :
    AgreeButTies ds t t' q where
  miss_iff := by
    rw [lookup_eq_findSome?_firstUnder h, lookup_eq_findSome?_firstUnder h']
    simp only [List.findSome?_eq_none_iff, firstUnder_eq_none_iff_of_perm hperm]
  same_key := by
    intro e e' he he'
    obtain ⟨key, hfinds⟩ := exists_finds he
    have hhit := (finds_iff h).1 hfinds
    obtain ⟨e₂, hhit'⟩ := hhit.perm hperm
    have hfinds' := (finds_iff h').2 hhit'
    have heq : e₂ = e' :=
      Option.some.inj (hfinds'.found.symm.trans he')
    refine ⟨key, hfinds, heq ▸ hfinds', fun hone => ?_⟩
    have hsame := firstUnder_perm_of_oneDeclares hperm hone
    rw [hhit.first, hhit'.first] at hsame
    exact heq ▸ Option.some.inj hsame

theorem refines_of_append
    {more : List ModuleDescription} {t t' : Table}
    (h : Table.ofModules ds = .ok t)
    (h' : Table.ofModules (ds ++ more) = .ok t')
    (q : Query) :
    Refines t t' q := by
  intro e he
  obtain ⟨key, hfinds⟩ := exists_finds he
  obtain ⟨key', e', hhit', hcases⟩ := ((finds_iff h).1 hfinds).append (declaredAll more)
  rw [declaredAll, declaredAll, ← List.flatMap_append] at hhit'
  exact ⟨key, key', e', hfinds, (finds_iff h').2 hhit', hcases.imp_left (·.2)⟩

/--
Modules that compile do so in every order, and then the tables find the same but for
ties.  More modules that are accepted can be added behind them, and then every hit
stays a hit, and another entry is found only under a longer key.
-/
theorem order_breaks_ties
    {t : Table}
    (h : Table.ofModules ds = .ok t) :
    (∀ ds', ds.Perm ds' →
      ∃ t', Table.ofModules ds' = .ok t' ∧ ∀ q, AgreeButTies ds t t' q) ∧
    ∀ more, (∀ d ∈ more, Valid d) →
      ∃ t', Table.ofModules (ds ++ more) = .ok t' ∧ ∀ q, Refines t t' q := by
  have hvalid := (exists_ofModules_iff ds).1 ⟨t, h⟩
  constructor
  · intro ds' hperm
    obtain ⟨t', h'⟩ := (exists_ofModules_iff ds').2 fun d hd => hvalid d (hperm.mem_iff.2 hd)
    exact ⟨t', h', agreeButTies_of_perm h h' hperm⟩
  · intro more hmore
    obtain ⟨t', h'⟩ := (exists_ofModules_iff (ds ++ more)).2
      (List.forall_mem_append.2 ⟨hvalid, hmore⟩)
    exact ⟨t', h', refines_of_append h h'⟩

/-- An endpoint with a longer key than those of the rivals. -/
def belowRivals : Endpoint where
  pathPattern := some "/users/7/x/{id}"
  methods := ["GET"]

theorem order_breaks_ties_rivals :
    ∃ t, Table.ofModules rivals = .ok t ∧
      (rivals.Perm rivals.reverse ∧
        ∃ t', Table.ofModules rivals.reverse = .ok t' ∧ ∀ q, AgreeButTies rivals t t' q) ∧
      (∀ d ∈ [singleModule belowRivals], Valid d) ∧
        ∃ t', Table.ofModules (rivals ++ [singleModule belowRivals]) = .ok t' ∧
          ∀ q, Refines t t' q := by
  have haccepted : (Table.ofModules rivals).toOption.isSome = true := by
    decide
  have hkey : endpointKey? belowRivals = some "/users/7/x" := by
    decide
  have hmore : ∀ d ∈ [singleModule belowRivals], Valid d :=
    List.forall_mem_singleton.2 ⟨_, addModule_single hkey (by decide) {}⟩
  have hperm : rivals.Perm rivals.reverse :=
    (List.reverse_perm rivals).symm
  cases h : Table.ofModules rivals with
  | error rejection =>
      rw [h] at haccepted
      cases haccepted
  | ok t =>
      obtain ⟨horders, hadded⟩ := order_breaks_ties h
      exact ⟨t, rfl, ⟨hperm, horders _ hperm⟩, hmore, hadded _ hmore⟩

end Orders

end Route
end SidecarProxy
