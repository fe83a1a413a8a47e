import Mathlib.Data.List.Nodup
import SidecarProxy.Proofs.Route.Built
import SidecarProxy.Proofs.Route.InPlace
import SidecarProxy.Proofs.Text.Trim

/-!
# Tables stay in order

Modules are offered to a table one after the other, and some of them are
rejected.  Main statement: behind any offers the table counts what it holds, has
no empty bucket and no entry twice, and each of its buckets lists the entries
that the accepted modules declare for it, each where it was declared first.
-/

namespace SidecarProxy
namespace Route

open Catalog Text

section FirstOccurrences

variable {α : Type} [DecidableEq α]

theorem eraseDups_concat
    (l : List α) (a : α) :
    (l ++ [a]).eraseDups = if a ∈ l then l.eraseDups else l.eraseDups ++ [a] := by
  rw [List.eraseDups_append]
  by_cases h : a ∈ l <;> simp [h, List.removeAll, List.eraseDups_cons]

end FirstOccurrences

section Buckets

def Buckets.total : Buckets → Nat
  | [] => 0
  | b :: bs => b.2.length + Buckets.total bs

theorem Buckets.total_push
    (key : String) (e : Entry) (bs : Buckets) :
    (Buckets.push key e bs).total = bs.total + 1 := by
  induction bs with
  | nil =>
      rfl
  | cons b bs ih =>
      obtain ⟨first, es⟩ := b
      simp only [Buckets.push]
      by_cases hfirst : first = key
      · simp only [hfirst, if_true, Buckets.total, List.length_append, List.length_singleton]
        omega
      · simp only [hfirst, if_false, Buckets.total, ih]
        omega

theorem Buckets.nonempty_push
    {bs : Buckets}
    (h : ∀ b ∈ bs, b.2 ≠ [])
    (key : String) (e : Entry) :
    ∀ b ∈ Buckets.push key e bs, b.2 ≠ [] := by
  induction bs with
  | nil =>
      simp [Buckets.push]
  | cons c bs ih =>
      obtain ⟨hc, hbs⟩ := List.forall_mem_cons.1 h
      obtain ⟨first, es⟩ := c
      simp only [Buckets.push]
      split
      · exact List.forall_mem_cons.2 ⟨by simp, hbs⟩
      · exact List.forall_mem_cons.2 ⟨hc, ih hbs⟩

end Buckets

section Proper

/-- An entry as an accepted module declares it. -/
structure Entry.Proper (e : Entry) : Prop where
  trimmed : trim e.moduleId = e.moduleId
  moduleId : isBlank e.moduleId = false
  interfaceId : isBlank e.interfaceId = false
  methods : e.endpoint.methods ≠ []
  location : ∀ text ∈ e.location, ∃ uri, parseLocation text = .ok uri

theorem exists_uri_of_checkLocation
    {location : Option String}
    (h : Table.checkLocation location = .ok ()) :
    ∀ text ∈ location, ∃ uri, parseLocation text = .ok uri := by
  rintro text rfl
  unfold Table.checkLocation at h
  split at h
  · next heq => cases heq
  · next other heq =>
      cases heq
      split at h
      · next uri huri => exact ⟨uri, huri⟩
      · cases h

theorem proper_of_moduleEntries
    {d : ModuleDescription} {location : Option String}
    {keyed : List (String × Entry)}
    (h : Table.moduleEntries d location = .ok keyed) :
    ∀ x ∈ keyed, x.2.Proper := by
  intro x hx
  unfold Table.moduleEntries at h
  split at h
  · cases h
  · next hid =>
      obtain ⟨⟨⟩, hlocation, h⟩ := bind_eq_ok h
      obtain ⟨lists, hlists, h⟩ := bind_eq_ok h
      cases h
      obtain ⟨entries, hentries, hx⟩ := List.mem_flatten.1 hx
      obtain ⟨i, -, hi⟩ := exists_of_mem_mapM_eq_ok hlists hentries
      unfold Table.interfaceEntries at hi
      split at hi
      · cases hi
      · next hinterface =>
          obtain ⟨e, -, he⟩ := exists_of_mem_mapM_eq_ok hi hx
          unfold Table.entryOf at he
          split at he
          · cases he
          · split at he
            · cases he
            · next hmethods =>
                cases he
                exact
                  { trimmed := trim_trim d.moduleId
                    moduleId := (isBlank_trim d.moduleId).trans (Bool.eq_false_iff.2 hid)
                    interfaceId := Bool.eq_false_iff.2 hinterface
                    methods := fun hnil => hmethods (List.isEmpty_iff.2 hnil)
                    location := exists_uri_of_checkLocation hlocation }

end Proper

section Orderly

/-- The order in a table whose entries were filed one by one. -/
structure Table.Orderly (t : Table) : Prop extends t.Filed where
  nonempty : ∀ b ∈ t.buckets, b.2 ≠ []
  nodup : ∀ key, (t.buckets.get key).Nodup
  proper : ∀ key, ∀ e ∈ t.buckets.get key, e.Proper
  size_eq : t.size = t.buckets.total

theorem Table.orderly_of_no_buckets
    (m : Matcher) :
    Table.Orderly { matcher := m } where
  nodup_keys := List.nodup_nil
  key_eq := by simp [Buckets.get]
  nonempty := by simp
  nodup := by simp [Buckets.get]
  proper := by simp [Buckets.get]
  size_eq := rfl

theorem Table.Orderly.file
    {t : Table} (ht : t.Orderly)
    {x : String × Entry}
    (hkey : x.2.key? = some x.1)
    (hproper : x.2.Proper) :
    (t.file x).Orderly where
  toFiled := ht.toFiled.file hkey
  nonempty := by
    unfold Table.file
    split
    · exact ht.nonempty
    · exact Buckets.nonempty_push ht.nonempty x.1 x.2
  nodup := by
    intro key
    rw [get_file]
    split
    · next hnew =>
        rw [← List.concat_eq_append]
        exact (ht.nodup key).concat hnew.2
    · exact ht.nodup key
  proper := by
    intro key e he
    rw [get_file] at he
    split at he
    · rcases List.mem_append.1 he with he | he
      · exact ht.proper key e he
      · exact List.mem_singleton.1 he ▸ hproper
    · exact ht.proper key e he
  size_eq := by
    unfold Table.file
    split
    · exact ht.size_eq
    · change t.size + 1 = _
      rw [Buckets.total_push, ht.size_eq]

theorem Table.Orderly.foldl_file
    {t : Table} (ht : t.Orderly)
    {xs : List (String × Entry)}
    (hxs : ∀ x ∈ xs, x.2.key? = some x.1 ∧ x.2.Proper) :
    (xs.foldl Table.file t).Orderly := by
  induction xs generalizing t with
  | nil =>
      exact ht
  | cons x xs ih =>
      obtain ⟨⟨hkey, hproper⟩, hxs⟩ := List.forall_mem_cons.1 hxs
      exact ih (ht.file hkey hproper) hxs

/-- No entry stands twice in a table in order, not even in two of its buckets. -/
theorem Table.Orderly.nodup_entries
    {t : Table} (ht : t.Orderly) :
    t.entries.Nodup := by
  have hget : ∀ b ∈ t.buckets, t.buckets.get b.1 = b.2 :=
    fun b hb => Buckets.get_of_mem ht.nodup_keys hb
  refine List.nodup_flatMap.2 ⟨fun b hb => hget b hb ▸ ht.nodup b.1, ?_⟩
  have hkeys : t.buckets.Pairwise fun b c => b.1 ≠ c.1 :=
    List.pairwise_map.1 ht.nodup_keys
  refine hkeys.imp_of_mem fun {b c} hb hc hne e heb hec => ?_
  have hb' := ht.key_eq b.1 e (hget b hb ▸ heb)
  have hc' := ht.key_eq c.1 e (hget c hc ▸ hec)
  exact hne (Option.some.inj (hb'.symm.trans hc'))

end Orderly

section Offers

/-- A module that is offered to a table, with a location that takes the place of its own. -/
abbrev Offer : Type :=
  ModuleDescription × Option String

/-- Whether a module is accepted; what the table holds does not matter. -/
def Offer.accepted
    (x : Offer) :
    Bool :=
  (Table.moduleEntries x.1 x.2).isOk

/-- The entries that the accepted ones of several modules declare, in order. -/
def acceptedEntries
    (offers : List Offer) :
    List Entry :=
  (offers.filter Offer.accepted).flatMap fun x => declared x.1 x.2

/-- A table after modules were offered to it in place, one after the other. -/
def Table.offerAll
    (t : Table) (offers : List Offer) :
    Table :=
  offers.foldl (fun t x => ((addInPlace x.1 x.2).on t).2) t

theorem offerAll_eq
    (t : Table) (offers : List Offer) :
    ∃ keyed : List (String × Entry),
      keyed.map filedPair = (acceptedEntries offers).map Entry.withKey ∧
        (∀ x ∈ keyed, x.2.Proper) ∧
          t.offerAll offers = keyed.foldl Table.file t := by
  induction offers generalizing t with
  | nil =>
      exact ⟨[], rfl, by simp, rfl⟩
  | cons x offers ih =>
      obtain ⟨rest, hrest, hproper, htable⟩ := ih ((addInPlace x.1 x.2).on t).2
      rw [Table.offerAll, List.foldl_cons, ← Table.offerAll, htable, addInPlace_on,
        Table.addModule]
      cases hentries : Table.moduleEntries x.1 x.2 with
      | error fault =>
          have hx : x.accepted = false := by
            simp [Offer.accepted, hentries, Except.isOk, Except.toBool]
          refine ⟨rest, ?_, hproper, rfl⟩
          rw [hrest, acceptedEntries, acceptedEntries, List.filter_cons_of_neg (by simp [hx])]
      | ok first =>
          have hx : x.accepted = true := by
            simp [Offer.accepted, hentries, Except.isOk, Except.toBool]
          refine ⟨first ++ rest, ?_, ?_, ?_⟩
          · rw [List.map_append, moduleEntries_eq_ok hentries, hrest, acceptedEntries,
              acceptedEntries, List.filter_cons_of_pos hx, List.flatMap_cons, List.map_append]
          · exact List.forall_mem_append.2 ⟨proper_of_moduleEntries hentries, hproper⟩
          · rw [List.foldl_append]

/-- A bucket behind filed pairs lists the first occurrences of what came under its key. -/
theorem get_foldl_file
    {t : Table} {key : String} {es : List Entry}
    (h : t.buckets.get key = es.eraseDups)
    (xs : List (String × Entry)) :
    (xs.foldl Table.file t).buckets.get key =
      (es ++ (xs.filter (·.1 == key)).map (·.2)).eraseDups := by
  induction xs generalizing t es with
  | nil =>
      simpa using h
  | cons x xs ih =>
      rw [List.foldl_cons]
      by_cases hkey : x.1 = key
      · have hfile : (t.file x).buckets.get key = (es ++ [x.2]).eraseDups := by
          rw [get_file, h, eraseDups_concat]
          by_cases hmem : x.2 ∈ es <;> simp [hkey, hmem]
        rw [ih hfile, List.filter_cons_of_pos (by simp [hkey]), List.map_cons, List.append_assoc,
          List.singleton_append]
      · have hfile : (t.file x).buckets.get key = es.eraseDups := by
          rw [get_file, h, if_neg (fun hnew => hkey hnew.1)]
        rw [ih hfile, List.filter_cons_of_neg (by simp [hkey])]

theorem filter_of_filedPair
    {keyed : List (String × Entry)} {es : List Entry}
    (h : keyed.map filedPair = es.map Entry.withKey)
    (key : String) :
    (keyed.filter (·.1 == key)).map (·.2) = es.filter (·.key? == some key) := by
  have hfilter :=
    congrArg (fun xs => (xs.filter (·.1 == some key)).map (·.2)) h
  simpa [List.filter_map, Function.comp_def, filedPair, Entry.withKey] using hfilter

theorem get_of_filedPair
    {keyed : List (String × Entry)} {es : List Entry}
    (h : keyed.map filedPair = es.map Entry.withKey)
    (m : Matcher) (key : String) :
    (keyed.foldl Table.file { matcher := m }).buckets.get key =
      (es.filter (·.key? == some key)).eraseDups := by
  have hnone : Buckets.get [] key = ([] : List Entry).eraseDups := rfl
  rw [get_foldl_file hnone, List.nil_append, filter_of_filedPair h]

/--
Behind any offers a table is in order and holds no entry twice.  Each bucket
lists the first occurrences of the entries that the accepted modules declare for
it, and one more module that is not accepted changes nothing at all.
-/
theorem offerAll_orderly
    (m : Matcher) (offers : List Offer) :
    let t := Table.offerAll { matcher := m } offers
    t.Orderly ∧ t.entries.Nodup ∧ t.matcher = m ∧
      (∀ key, t.buckets.get key =
        ((acceptedEntries offers).filter (·.key? == some key)).eraseDups) ∧
      ∀ x : Offer,
        ((addInPlace x.1 x.2).on t).1.isOk = x.accepted ∧
          (x.accepted = false → ((addInPlace x.1 x.2).on t).2 = t) := by
  obtain ⟨keyed, hkeyed, hproper, htable⟩ := offerAll_eq { matcher := m } offers
  have hkeys := key?_of_filedPair hkeyed
  have horderly : (Table.offerAll { matcher := m } offers).Orderly := by
    rw [htable]
    exact (Table.orderly_of_no_buckets m).foldl_file fun x hx => ⟨hkeys x hx, hproper x hx⟩
  refine ⟨horderly, horderly.nodup_entries, ?_, fun key => ?_, fun x => ?_⟩
  · rw [htable, foldl_file_matcher]
  · rw [htable, get_of_filedPair hkeyed]
  · rw [addInPlace_on, Table.addModule, Offer.accepted]
    cases Table.moduleEntries x.1 x.2 with
    | error fault =>
        exact ⟨rfl, fun _ => rfl⟩
    | ok entries =>
        exact ⟨rfl, fun h => by cases h⟩

theorem get_of_addModule
    {m : Matcher} {d : ModuleDescription} {location : Option String} {t : Table}
    (h : ({ matcher := m } : Table).addModule d location = .ok t)
    (key : String) :
    t.buckets.get key =
      ((declared d location).filter (·.key? == some key)).eraseDups := by
  obtain ⟨keyed, hkeyed, rfl⟩ := addModule_eq_ok h
  exact get_of_filedPair hkeyed m key

end Offers

end Route
end SidecarProxy
