import SidecarProxy.Proofs.ModuleCache.Answers

/-!
# What the cache holds

However calls overlap, and whatever becomes of their loads, there are never too
many slots.  Main statement: behind every run the bound is kept with one slot
for a key, what is served for a key was answered to a fetch for this key, and
what stands in a cell stays there.
-/

namespace SidecarProxy
namespace ModuleCache

open Catalog Route

section Integrity

/-- A table is the compiled answer that the control plane gave to a fetch for a key. -/
def Cache.Genuine
    (c : Cache) (ms : List Move) (key : String) (loaded : Loaded) : Prop :=
  ∃ f d, c.fetches[loaded.fetch]? = some f ∧ f.key = key ∧
    Move.answer f.call (.ok d) ∈ ms ∧ Table.ofModule d none = .ok loaded.table

variable {l : Limits} {ms : List Move} {c : Cache}

/-- What stands in a cell is genuine for the key of any call that has this cell. -/
theorem genuine_of_content
    {k : Nat} {loaded : Loaded}
    (hrun : ({ limits := l } : Cache).run? ms = some c)
    (hloaded : c.content k = some loaded) :
    ∃ (n : Nat) (call : Call), c.calls[n]? = some call ∧ call.cell = k ∧
      c.Genuine ms call.key loaded := by
  obtain ⟨f, call, ⟨hf, hkey, d, hd, htable⟩, hcall, -, hcell⟩ :=
    (coherent_run? hrun).origin hloaded
  exact ⟨f.call, call, hcall, hcell, f, d, hf, hkey, answer_mem_of_document hrun hf hd, htable⟩

theorem genuine_of_slot
    {slot : Slot} {loaded : Loaded}
    (hrun : ({ limits := l } : Cache).run? ms = some c)
    (hslot : slot ∈ c.slots)
    (hloaded : c.content slot.cell = some loaded) :
    c.Genuine ms slot.key loaded := by
  obtain ⟨n, call, hcall, hcell, hgenuine⟩ := genuine_of_content hrun hloaded
  rwa [(coherent_run? hrun).keyed.key_eq hslot hcall hcell] at hgenuine

theorem genuine_of_returned
    {n : Nat} {call : Call} {loaded : Loaded}
    (hrun : ({ limits := l } : Cache).run? ms = some c)
    (hcall : c.calls[n]? = some call)
    (hreturned : call.phase = .returned loaded) :
    c.Genuine ms call.key loaded := by
  have h := coherent_run? hrun
  obtain ⟨m, other, hother, hcell, hgenuine⟩ :=
    genuine_of_content hrun (h.records.returned hcall hreturned)
  rwa [h.keyed.call_key_eq hother hcall hcell] at hgenuine

end Integrity

section Main

/-- The bound is kept, what is served is genuine, and it does not change. -/
theorem bounded_and_genuine
    (s : CacheSettings) {ms : List Move} {c : Cache}
    (hrun : ({ limits := .ofSettings s } : Cache).run? ms = some c) :
    c.size ≤ max 1 s.maxEntries ∧ (c.slots.map Slot.key).Nodup ∧
      (∀ (n : Nat) (call : Call) (loaded : Loaded), c.calls[n]? = some call →
        call.phase = .returned loaded → c.Genuine ms call.key loaded) ∧
      ∀ slot ∈ c.slots, ∀ loaded, c.content slot.cell = some loaded →
        c.Genuine ms slot.key loaded ∧
          ∀ (more : List Move) (c' : Cache), c.run? more = some c' →
            c'.content slot.cell = some loaded := by
  have h := coherent_run? hrun
  have hbounded := bounded_run? (l := .ofSettings s) (Nat.le_max_left 1 s.maxEntries) hrun
  have hlimits := ((coherent_initial (.ofSettings s)).later hrun).limits
  refine ⟨?_, hbounded.nodup, ?_, ?_⟩
  · have hlength := hbounded.length_le
    rwa [hlimits] at hlength
  · exact fun n call loaded hcall hreturned => genuine_of_returned hrun hcall hreturned
  · intro slot hslot loaded hloaded
    refine ⟨genuine_of_slot hrun hslot hloaded, ?_⟩
    exact fun more c' hmore => (h.later hmore).content _ loaded hloaded

/-- A cache with room for one slot, to which a second module came while the first was loaded. -/
def crowdedCache : Cache where
  limits := .ofSettings { maxEntries := 0 }
  slots := [⟨"mod-b-1.0.0", 0, 1⟩]
  cells := [{ content := some ⟨.empty, 0⟩ }, { content := some ⟨.empty, 1⟩ }]
  calls :=
    [{ key := "mod-a-1.0.0", cell := 0, since := 0, phase := .returned ⟨.empty, 0⟩ },
      { key := "mod-b-1.0.0", cell := 1, since := 0, phase := .returned ⟨.empty, 1⟩ }]
  fetches :=
    [{ key := "mod-a-1.0.0", call := 0, since := 0, pending := false
       document := some { moduleId := "mod-a-1.0.0" } },
      { key := "mod-b-1.0.0", call := 1, since := 0, pending := false
        document := some { moduleId := "mod-b-1.0.0" } }]
  events := [Cache.counted .miss, Cache.counted .miss]

/-- Settings without any room leave room for one slot, and each caller gets its own module. -/
theorem bounded_and_genuine_crowded :
    ({ limits := .ofSettings { maxEntries := 0 } } : Cache).run?
        [.enter "mod-a-1.0.0", .look 0, .begin 0, .enter "mod-b-1.0.0", .look 1, .begin 1,
          .answer 1 (.ok { moduleId := "mod-b-1.0.0" }),
          .answer 0 (.ok { moduleId := "mod-a-1.0.0" })] = some crowdedCache ∧
      crowdedCache.size ≤ 1 ∧
        crowdedCache.Genuine
          [.enter "mod-a-1.0.0", .look 0, .begin 0, .enter "mod-b-1.0.0", .look 1, .begin 1,
            .answer 1 (.ok { moduleId := "mod-b-1.0.0" }),
            .answer 0 (.ok { moduleId := "mod-a-1.0.0" })]
          "mod-a-1.0.0" ⟨.empty, 0⟩ := by
  have hrun : ({ limits := .ofSettings { maxEntries := 0 } } : Cache).run?
      [.enter "mod-a-1.0.0", .look 0, .begin 0, .enter "mod-b-1.0.0", .look 1, .begin 1,
        .answer 1 (.ok { moduleId := "mod-b-1.0.0" }),
        .answer 0 (.ok { moduleId := "mod-a-1.0.0" })] = some crowdedCache := by
    decide +kernel
  obtain ⟨hsize, -, hreturned, -⟩ := bounded_and_genuine { maxEntries := 0 } hrun
  exact ⟨hrun, hsize, hreturned 0 _ _ rfl rfl⟩

end Main

end ModuleCache
end SidecarProxy
