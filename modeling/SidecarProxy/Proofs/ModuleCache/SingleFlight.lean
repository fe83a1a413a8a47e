import SidecarProxy.Proofs.ModuleCache.Flights
import Mathlib.Data.Finset.Card
import Mathlib.Data.Finset.Dedup

/-!
# One fetch at a time for each key

A slot that stays sends all calls for its key to one cell, and a cell has at
most one open fetch.  But a slot whose load is under way can be dropped to make
room, and then the next call for its key makes another cell.  Main statement:
without invalidation, and as long as no slot expires, the open fetches are for
different keys in all runs exactly when the cache has room for all the keys
that are asked for.
-/

namespace SidecarProxy
namespace ModuleCache

/-- No two open fetches are for the same key. -/
def Cache.SingleFlight (c : Cache) : Prop :=
  ∀ (i j : Nat) (f g : Fetch),
    c.fetches[i]? = some f → c.fetches[j]? = some g →
      f.pending = true → g.pending = true → f.key = g.key → i = j

/-- Only calls for these keys come in, and nothing is invalidated. -/
def Move.AsksWithin (keys : Finset String) : Move → Prop
  | .enter key => key ∈ keys
  | .invalidate _ => False
  | _ => True

/-- Single flight for some keys, in all runs that are over before a slot can expire. -/
def Limits.SingleFlightOn (l : Limits) (keys : Finset String) : Prop :=
  ∀ (ms : List Move) (c : Cache),
    ({ limits := l } : Cache).run? ms = some c →
      (∀ m ∈ ms, m.AsksWithin keys) → c.now < l.ttl.nanos → c.SingleFlight

section Kept

variable {c c' : Cache} {keys : Finset String}

/-- Every call still has the slot that it took. -/
structure Kept (keys : Finset String) (c : Cache) : Prop where
  within : ∀ s ∈ c.slots, s.key ∈ keys
  held :
    ∀ (n : Nat) (call : Call), c.calls[n]? = some call →
      ∃ s ∈ c.slots, s.key = call.key ∧ s.cell = call.cell

theorem Kept.length_lt
    (h : Kept keys c)
    {key : String}
    (hnodup : (c.slots.map Slot.key).Nodup)
    (hkey : key ∈ keys)
    (habsent : c.slots.find? key = none) :
    c.slots.length < keys.card := by
  have hcons : (key :: c.slots.map Slot.key).Nodup :=
    List.nodup_cons.2 ⟨(find?_eq_none_iff c.slots key).1 habsent, hnodup⟩
  have hsub : (key :: c.slots.map Slot.key).toFinset ⊆ keys := by
    intro k hk
    rcases List.mem_cons.1 (List.mem_toFinset.1 hk) with rfl | hk
    · exact hkey
    · obtain ⟨s, hs, rfl⟩ := List.mem_map.1 hk
      exact h.within s hs
  have hcard := Finset.card_le_card hsub
  rw [List.toFinset_card_of_nodup hcons, List.length_cons, List.length_map] at hcard
  exact hcard

/-- A call that comes in takes a slot of its key and displaces none. -/
theorem Kept.slotFor
    (h : Kept keys c)
    {key : String}
    (hnodup : (c.slots.map Slot.key).Nodup)
    (hkey : key ∈ keys)
    (hroom : keys.card ≤ c.limits.capacity)
    (hnow : c.now < c.limits.ttl.nanos) :
    (c.slotOf key).key = key ∧ c.slotOf key ∈ (c.enter key).slots ∧
      ∀ s ∈ c.slots, s ∈ (c.enter key).slots := by
  unfold Cache.slotOf Cache.enter
  cases hfind : c.slots.find? key with
  | none =>
      rw [slotFor_of_absent _ _ _ hfind,
        room_of_lt c.now ((h.length_lt hnodup hkey hfind).trans_le hroom)]
      exact ⟨rfl, List.mem_append_right _ List.mem_cons_self,
        fun s hs => List.mem_append_left _ hs⟩
  | some slot =>
      -- Too little time has passed for the slot to expire.
      have hfresh : slot.isFresh c.limits c.now = true :=
        decide_eq_true (by omega)
      rw [slotFor_of_fresh _ hfind hfresh]
      exact ⟨(find?_eq_some hfind).2, (find?_eq_some hfind).1, fun s hs => hs⟩

theorem Kept.enter
    (h : Kept keys c)
    {key : String}
    (hnodup : (c.slots.map Slot.key).Nodup)
    (hkey : key ∈ keys)
    (hroom : keys.card ≤ c.limits.capacity)
    (hnow : c.now < c.limits.ttl.nanos) :
    Kept keys (c.enter key) := by
  obtain ⟨hslotKey, hslot, hkept⟩ := h.slotFor hnodup hkey hroom hnow
  refine ⟨?_, ?_⟩
  · intro s hs
    rcases mem_slots_enter hs with hs | rfl
    · exact h.within s hs
    · rwa [hslotKey]
  · intro n call hcall
    rcases calls_enter_eq_some hcall with hcall | rfl
    · obtain ⟨s, hs, hrest⟩ := h.held n call hcall
      exact ⟨s, hkept s hs, hrest⟩
    · exact ⟨c.slotOf key, hslot, hslotKey, rfl⟩

theorem kept_step
    {m : Move}
    (h : Kept keys c)
    (hnodup : (c.slots.map Slot.key).Nodup)
    (hstep : Step c m c')
    (hasks : m.AsksWithin keys)
    (hroom : keys.card ≤ c.limits.capacity)
    (hnow : c.now < c.limits.ttl.nanos) :
    Kept keys c' := by
  rcases frame_step hstep with ⟨key, rfl, rfl⟩ | ⟨key, rfl⟩ | ⟨hslots, hcalls⟩
  · exact h.enter hnodup hasks hroom hnow
  · exact absurd hasks id
  · refine ⟨hslots ▸ h.within, ?_⟩
    intro n call hcall
    obtain ⟨before, hbefore, hkey, hcell⟩ := hcalls n call hcall
    rw [hslots, ← hkey, ← hcell]
    exact h.held n before hbefore

/-- With room for all keys, every call of a run keeps its slot until some slot expires. -/
theorem kept_run?
    {l : Limits} {ms : List Move}
    (hcapacity : 0 < l.capacity)
    (hroom : keys.card ≤ l.capacity)
    (hasks : ∀ m ∈ ms, m.AsksWithin keys)
    (hrun : ({ limits := l } : Cache).run? ms = some c)
    (hnow : c.now < l.ttl.nanos) :
    Kept keys c := by
  have hkeeps := run?_keeps
    (P := fun c => c.limits = l ∧ Bounded c.limits c.slots ∧
      (c.now < l.ttl.nanos → Kept keys c))
    (by
      rintro c m c' hm ⟨rfl, hbounded, hkept⟩ hstep
      refine ⟨limits_step hstep, bounded_step hbounded hstep, ?_⟩
      intro hnow
      have hbefore := (now_le_step hstep).trans_lt hnow
      exact kept_step (hkept hbefore) hbounded.nodup hstep (hasks m hm) hroom hbefore)
    ⟨rfl, bounded_initial hcapacity, fun _ => ⟨by simp, by simp⟩⟩ hrun
  exact hkeeps.2.2 hnow

/-- Calls that keep their slots and have the same key share a cell, hence a fetch. -/
theorem Kept.singleFlight
    (h : Kept keys c)
    (hnodup : (c.slots.map Slot.key).Nodup)
    (hflights : Flights c) :
    c.SingleFlight := by
  intro i j f g hf hg hfpending hgpending hsame
  obtain ⟨call, hcall, -, hkey⟩ := hflights.pending i f hf hfpending
  obtain ⟨other, hother, -, hotherKey⟩ := hflights.pending j g hg hgpending
  obtain ⟨s, hs, hskey, hscell⟩ := h.held f.call call hcall
  obtain ⟨t, ht, htkey, htcell⟩ := h.held g.call other hother
  have hst : s = t :=
    List.inj_on_of_nodup_map hnodup hs ht (by rw [hskey, hkey, hsame, htkey, hotherKey])
  refine hflights.fetch_unique hf hg hfpending hgpending hcall hother ?_
  rw [← hscell, hst, htcell]

end Kept

section Displaced

variable {c : Cache}

/-- New keys come in as long as there is room for them. -/
theorem run?_enter_new
    (c : Cache) (added : List String)
    (hnodup : added.Nodup)
    (hnew : ∀ key ∈ added, key ∉ c.slots.map Slot.key)
    (hroom : c.slots.length + added.length ≤ c.limits.capacity) :
    ∃ (after : Cache) (young : Slots),
      c.run? (added.map .enter) = some after ∧
        after.slots = c.slots ++ young ∧ young.map Slot.key = added ∧
          (∀ s ∈ young, s.created = c.now) ∧
            after.limits = c.limits ∧ after.now = c.now ∧ after.fetches = c.fetches := by
  induction added generalizing c with
  | nil =>
      exact ⟨c, [], rfl, by simp, rfl, by simp, rfl, rfl, rfl⟩
  | cons key added ih =>
      -- The new slot comes last; to the cache with it the other keys still are new.
      have habsent := (find?_eq_none_iff c.slots key).2 (hnew key (by simp))
      have hslots : (c.enter key).slots = c.slots ++ [⟨key, c.now, c.cells.length⟩] := by
        rw [enter_of_absent habsent, room_of_lt c.now (by simp at hroom; omega)]
      obtain ⟨after, young, hrun, hafter, hkeys, hcreated, hrest⟩ :=
        ih (c.enter key) (List.nodup_cons.1 hnodup).2
          (by
            intro k hk
            rw [hslots, List.map_append, List.mem_append, not_or]
            refine ⟨hnew k (List.mem_cons_of_mem _ hk), ?_⟩
            rintro hmem
            cases List.mem_singleton.1 hmem
            exact (List.nodup_cons.1 hnodup).1 hk)
          (by
            rw [hslots]
            simp only [List.length_append, List.length_cons, List.length_nil] at hroom ⊢
            exact le_trans (by omega) hroom)
      refine ⟨after, ⟨key, c.now, c.cells.length⟩ :: young, hrun, ?_, ?_, ?_, hrest⟩
      · rw [hafter, hslots, List.append_assoc, List.singleton_append]
      · rw [List.map_cons, hkeys]
      · intro s hs
        rcases List.mem_cons.1 hs with rfl | hs
        · rfl
        · exact hcreated s hs

/-- The oldest slot of a full cache goes, however young it is. -/
theorem find?_enter_of_displaced
    {s : Slot} {key : String}
    (hbounded : Bounded c.limits c.slots)
    (hfull : c.slots.length = c.limits.capacity)
    (hfresh : ∀ t ∈ c.slots, t.isFresh c.limits c.now = true)
    (holdest : Slots.oldest? c.slots = some s)
    (hnew : key ∉ c.slots.map Slot.key) :
    (c.enter key).slots.find? s.key = none := by
  have hs := mem_of_oldest? holdest
  -- Its load may be under way: that does not protect it.
  have hgone : s ∉ c.slots.room c.limits c.now := by
    rw [mem_room_iff hbounded.nodup hbounded.length_le hs (hfresh s hs)]
    rintro (hlt | ⟨t, ht, hexpired⟩ | hother)
    · omega
    · rw [hfresh t ht] at hexpired
      cases hexpired
    · exact hother holdest
  rw [enter_of_absent ((find?_eq_none_iff c.slots key).2 hnew), find?_eq_none_iff, List.map_append,
    List.mem_append, not_or]
  refine ⟨?_, ?_⟩
  · intro hmem
    obtain ⟨t, ht, hkey⟩ := List.mem_map.1 hmem
    have hsame : t = s :=
      List.inj_on_of_nodup_map hbounded.nodup ((room_sublist _ _ _).subset ht) hs hkey
    exact hgone (hsame ▸ ht)
  · intro hmem
    have hsame : s.key = key := List.mem_singleton.1 hmem
    exact hnew (List.mem_map.2 ⟨s, hs, hsame⟩)

/-- One key after the other comes in; the last one takes the room of the first slot. -/
theorem run?_displaces
    {s : Slot} {front : List String} {last : String}
    (hbounded : Bounded c.limits c.slots)
    (hslots : c.slots = [s])
    (hcreated : s.created ≤ c.now)
    (hnow : c.now < c.limits.ttl.nanos)
    (hcapacity : front.length + 1 = c.limits.capacity)
    (hnodup : (s.key :: (front ++ [last])).Nodup) :
    ∃ after : Cache,
      c.run? (front.map .enter ++ [.enter last]) = some after ∧
        after.slots.find? s.key = none ∧
          after.now = c.now ∧ after.limits = c.limits ∧ after.fetches = c.fetches := by
  have hfront : (s.key :: front).Nodup :=
    hnodup.sublist (List.Sublist.cons_cons _ (List.sublist_append_left front [last]))
  have hlast : last ∉ s.key :: front := by
    rw [← List.cons_append, List.nodup_append_comm] at hnodup
    exact (List.nodup_cons.1 hnodup).1
  obtain ⟨full, young, hrun, hfull, hkeys, hyoung, hlimits, hsame, hfetches⟩ :=
    run?_enter_new c front (List.nodup_cons.1 hfront).2
      (by
        intro key hkey hmem
        rw [hslots, List.map_singleton, List.mem_singleton] at hmem
        exact (List.nodup_cons.1 hfront).1 (hmem ▸ hkey))
      (by
        rw [hslots, List.length_singleton]
        omega)
  rw [hslots, List.singleton_append] at hfull
  have hmap : (s :: young).map Slot.key = s.key :: front := by
    rw [List.map_cons, hkeys]
  refine ⟨full.enter last, ?_, ?_, hsame, hlimits, hfetches⟩
  · rw [run?_append, hrun]
    rfl
  · refine find?_enter_of_displaced ?_ ?_ ?_ ?_ ?_
    · exact run?_keeps (P := fun c => Bounded c.limits c.slots)
        (fun _ _ _ _ => bounded_step) hbounded hrun
    · rw [hfull, hlimits, ← hcapacity, List.length_cons, ← hkeys, List.length_map]
    · intro t ht
      rw [hlimits, hsame]
      exact decide_eq_true (by omega)
    · rw [hfull]
      refine oldest?_cons ?_
      intro t ht
      rw [hyoung t ht]
      exact hcreated
    · rwa [hfull, hmap]

/-- A load under way is forgotten when as many other keys come in as there is room for. -/
theorem not_singleFlightOn_of_overflow
    {l : Limits} {keys : Finset String} {front : List String} {first last : String}
    (httl : 1 < l.ttl.nanos)
    (hcapacity : front.length + 1 = l.capacity)
    (hnodup : (first :: (front ++ [last])).Nodup)
    (hkeys : ∀ key ∈ first :: (front ++ [last]), key ∈ keys) :
    ¬ l.SingleFlightOn keys := by
  have hopened : ({ limits := l } : Cache).run? [.enter first, .look 0, .begin 0] =
      some (({ limits := l } : Cache).opened first) :=
    run?_of_absent rfl
  have hslots : (({ limits := l } : Cache).opened first).slots = [⟨first, 0, 0⟩] := by
    rw [Cache.opened, room_of_lt _ (by simp; omega)]
    rfl
  have hbounded := bounded_run? (by omega) hopened
  -- Time passes, so that the first slot is the only oldest one.
  obtain ⟨full, hrun, habsent, hnow, -, hfetches⟩ :=
    run?_displaces (c := { ({ limits := l } : Cache).opened first with now := 1 })
      hbounded hslots (Nat.zero_le 1) httl hcapacity hnodup
  have hwhole : ({ limits := l } : Cache).run?
      ([.enter first, .look 0, .begin 0] ++ ([.pass 1] ++ (front.map .enter ++ [.enter last] ++
        [.enter first, .look full.calls.length, .begin full.calls.length]))) =
      some (full.opened first) := by
    rw [run?_append, hopened, Option.bind_some, run?_append, run?_cons, Cache.move?,
      Option.bind_some, Cache.run?, runOf?_nil, Option.bind_some, run?_append]
    exact (congrArg (Option.bind · _) hrun).trans (run?_of_absent habsent)
  have hpair : (full.opened first).fetches =
      [{ key := first, call := 0, since := 0 },
        { key := first, call := full.calls.length, since := full.now }] := by
    rw [Cache.opened, hfetches]
    rfl
  intro hsingle
  have hflight := hsingle _ _ hwhole
    (by
      have hlast : last ∈ keys := hkeys last (by simp)
      have hfront : ∀ key ∈ front, key ∈ keys := fun key hkey => hkeys key (by simp [hkey])
      simpa [or_imp, forall_and, Move.AsksWithin, hkeys first, hlast] using hfront)
    (hnow.trans_lt httl)
  have hsame := hflight 0 1 _ _ (congrArg (·[0]?) hpair) (congrArg (·[1]?) hpair) rfl rfl rfl
  cases hsame

end Displaced

section Main

theorem singleFlightOn_of_card_le
    {l : Limits} {keys : Finset String}
    (hcapacity : 0 < l.capacity)
    (hroom : keys.card ≤ l.capacity) :
    l.SingleFlightOn keys := by
  intro ms c hrun hasks hnow
  have hkept := kept_run? hcapacity hroom hasks hrun hnow
  exact hkept.singleFlight (bounded_run? hcapacity hrun).nodup
    (flights_run? (flights_initial l) hrun)

theorem exists_keys_of_lt_card
    {capacity : Nat} {keys : Finset String}
    (hcapacity : 0 < capacity)
    (hcard : capacity < keys.card) :
    ∃ (first last : String) (front : List String),
      front.length + 1 = capacity ∧ (first :: (front ++ [last])).Nodup ∧
        ∀ key ∈ first :: (front ++ [last]), key ∈ keys := by
  obtain ⟨some, hsub, hsome⟩ := Finset.exists_subset_card_eq hcard
  have hlength : some.toList.length = capacity + 1 := by
    rw [Finset.length_toList, hsome]
  obtain ⟨first, added, hlist⟩ := List.exists_cons_of_length_eq_add_one hlength
  have hadded : added ≠ [] := by
    rintro rfl
    rw [hlist] at hlength
    simp at hlength
    omega
  refine ⟨first, added.getLast hadded, added.dropLast, ?_, ?_, ?_⟩
  · rw [hlist] at hlength
    simp at hlength ⊢
    omega
  · rw [List.dropLast_append_getLast, ← hlist]
    exact some.nodup_toList
  · intro key hkey
    rw [List.dropLast_append_getLast, ← hlist] at hkey
    exact hsub (Finset.mem_toList.1 hkey)

/-- No load is ever doubled exactly when all keys that are asked for have room. -/
theorem singleFlightOn_iff_card_le
    (s : CacheSettings) (keys : Finset String)
    (httl : 0 < s.ttlSecs) :
    (Limits.ofSettings s).SingleFlightOn keys ↔ keys.card ≤ max 1 s.maxEntries := by
  have hpos : 0 < max 1 s.maxEntries := by omega
  refine ⟨?_, fun hroom => singleFlightOn_of_card_le (l := .ofSettings s) hpos hroom⟩
  intro hsingle
  by_contra hcard
  obtain ⟨first, last, front, hcapacity, hnodup, hkeys⟩ :=
    exists_keys_of_lt_card hpos (Nat.lt_of_not_le hcard)
  refine not_singleFlightOn_of_overflow ?_ hcapacity hnodup hkeys hsingle
  change 1 < s.ttlSecs * 1000000000
  omega

/-- Two modules take turns in a cache with room for two, but not in one with room for one. -/
theorem singleFlightOn_pair_iff :
    0 < ({} : CacheSettings).ttlSecs ∧
      (Limits.ofSettings { maxEntries := 2 }).SingleFlightOn {"mod-a-1.0.0", "mod-b-1.0.0"} ∧
        ¬ (Limits.ofSettings { maxEntries := 1 }).SingleFlightOn {"mod-a-1.0.0", "mod-b-1.0.0"} :=
  ⟨by decide,
    (singleFlightOn_iff_card_le { maxEntries := 2 } {"mod-a-1.0.0", "mod-b-1.0.0"}
      (by decide)).2 (by decide),
    fun h => absurd
      ((singleFlightOn_iff_card_le { maxEntries := 1 } {"mod-a-1.0.0", "mod-b-1.0.0"}
        (by decide)).1 h) (by decide)⟩

/-- With room for one module, a call for another one doubles the load that is under way. -/
theorem twoFlights_of_displaced :
    ∃ c : Cache,
      ({ limits := .ofSettings { maxEntries := 1, ttlSecs := 60 } } : Cache).run?
          [.enter "mod-a-1.0.0", .look 0, .begin 0, .enter "mod-b-1.0.0",
            .enter "mod-a-1.0.0", .look 2, .begin 2] = some c ∧
        c.now < (Limits.ofSettings { maxEntries := 1, ttlSecs := 60 }).ttl.nanos ∧
          ¬ c.SingleFlight := by
  refine ⟨_, rfl, by decide, ?_⟩
  intro h
  have hsame := h 0 1 _ _ rfl rfl rfl rfl rfl
  cases hsame

end Main

end ModuleCache
end SidecarProxy
