import SidecarProxy.Proofs.Metrics.Readings
import SidecarProxy.Proofs.ModuleCache.SharedLoad

/-!
# Lookups that are counted

A lookup counts as a hit where it finds its cell filled, as a miss where it sends
a fetch, and once more as an error where this fetch fails.  A call that stands in
line and is given the table of another call's load comes through none of these
places.  Main statement: there are as many misses as fetches and as many errors
as calls that fail, and when all calls have come back, those that counted neither
as a hit nor as a miss are exactly the ones that had waited for another load.
-/

namespace SidecarProxy
namespace ModuleCache

open Catalog Route

section Phases

/-- The call has its table, or a fetch of its own. -/
def Phase.isDecided : Phase → Bool
  | .loading _ | .returned _ | .failed _ => true
  | _ => false

def Phase.isAbandoned : Phase → Bool
  | .abandoned => true
  | _ => false

/-- How many calls are in a phase with a property. -/
def Cache.inPhase
    (c : Cache) (p : Phase → Bool) : Nat :=
  c.calls.countP fun call => p call.phase

variable {c : Cache}

theorem inPhase_enter
    {p : Phase → Bool}
    (hp : p .entered = false)
    (key : String) :
    (c.enter key).inPhase p = c.inPhase p := by
  change (c.calls ++ [_]).countP _ = _
  rw [List.countP_append, List.countP_singleton, if_neg (by simp [hp])]
  rfl

theorem countP_modify
    {α : Type} {l : List α} {n : Nat} {a : α}
    (ha : l[n]? = some a)
    (f : α → α) (p : α → Bool) :
    (l.modify n f).countP p + (p a).toNat = l.countP p + (p (f a)).toNat := by
  induction l generalizing n with
  | nil =>
      cases ha
  | cons b l ih =>
      cases n with
      | zero =>
          cases ha
          rw [List.modify_zero_cons, List.countP_cons, List.countP_cons]
          cases p a <;> cases p (f a) <;> rfl
      | succ n =>
          have hrest := ih ha
          rw [List.modify_succ_cons, List.countP_cons, List.countP_cons]
          omega

/-- A call that goes on leaves its phase for the new one. -/
theorem inPhase_setPhase
    {n : Nat} {call : Call}
    (hcall : c.calls[n]? = some call)
    (phase : Phase) (p : Phase → Bool) :
    (c.setPhase n phase).inPhase p + (p call.phase).toNat = c.inPhase p + (p phase).toNat :=
  countP_modify hcall _ fun call => p call.phase

end Phases

section Tally

/-- How often a cache has measured that a lookup ended in some way. -/
def Cache.tally
    (c : Cache) (r : Metrics.LookupResult) : Nat :=
  c.events.count (Cache.counted r)

theorem tally_count
    (c : Cache) (r r' : Metrics.LookupResult) :
    (c.count r).tally r' = c.tally r' + [r].count r' := by
  change (c.events ++ [Cache.counted r]).count (Cache.counted r') = _
  rw [List.count_append, List.count_singleton, List.count_singleton]
  cases r <;> cases r' <;> rfl

/-- A call that stood in line is given the table of another load. -/
def Move.isReceive : Move → Bool
  | .receive _ => true
  | _ => false

/--
How a call goes on, what is measured along with it, and how often it is given the
table of another call's load by that.
-/
inductive Passage : Phase → Phase → List Metrics.LookupResult → Nat → Prop
  | hit (loaded : Loaded) :
      Passage .entered (.returned loaded) [.hit] 0
  | queue :
      Passage .entered .waiting [] 0
  | load (i : Nat) :
      Passage .waiting (.loading i) [.miss] 0
  | fill (i : Nat) (loaded : Loaded) :
      Passage (.loading i) (.returned loaded) [] 0
  | fail (i : Nat) (failure : ControlPlane.Failure) :
      Passage (.loading i) (.failed failure) [.error] 0
  | receive (loaded : Loaded) :
      Passage .waiting (.returned loaded) [] 1
  | leave :
      Passage .entered .abandoned [] 0
  | leaveLine :
      Passage .waiting .abandoned [] 0
  | stop (i : Nat) :
      Passage (.loading i) .abandoned [] 0

/-- What was measured, against what became of the calls, some of which shared a load. -/
structure Tallied (c : Cache) (shared : Nat) : Prop where
  misses : c.tally .miss = c.fetches.length
  errors : c.tally .error = c.inPhase Phase.hasFailed
  decided_le : c.inPhase Phase.isDecided ≤ c.tally .hit + c.tally .miss + shared
  le_decided :
    c.tally .hit + c.tally .miss + shared ≤
      c.inPhase Phase.isDecided + c.inPhase Phase.isAbandoned

theorem tallied_initial
    (l : Limits) :
    Tallied { limits := l } 0 := by
  constructor <;> simp [Cache.tally, Cache.inPhase]

variable {c c' : Cache} {shared : Nat}

theorem Tallied.passage
    (h : Tallied c shared)
    {n : Nat} {call : Call} {before after : Phase}
    {noted : List Metrics.LookupResult} {more : Nat}
    (hcall : c.calls[n]? = some call)
    (hphase : call.phase = before)
    (hpassage : Passage before after noted more)
    (hcalls : c'.calls = (c.setPhase n after).calls)
    (htally : ∀ r, c'.tally r = c.tally r + noted.count r)
    (hfetches : c'.fetches.length = c.fetches.length + noted.count .miss) :
    Tallied c' (shared + more) := by
  have hmoved : ∀ p : Phase → Bool,
      c'.inPhase p + (p before).toNat = c.inPhase p + (p after).toNat := by
    intro p
    rw [← hphase, ← inPhase_setPhase hcall after p, Cache.inPhase, hcalls]
    rfl
  have hfailed := hmoved Phase.hasFailed
  have hdecided := hmoved Phase.isDecided
  have habandoned := hmoved Phase.isAbandoned
  have hhits := htally .hit
  have hmisses := htally .miss
  have herrors := htally .error
  obtain ⟨hmiss, herror, hle, hge⟩ := h
  cases hpassage <;>
    simp only [Phase.hasFailed, Phase.isDecided, Phase.isAbandoned, Bool.toNat_true,
      Bool.toNat_false, List.count_nil, List.count_singleton, beq_iff_eq, reduceCtorEq, if_true,
      if_false] at hfailed hdecided habandoned hhits hmisses herrors hfetches <;>
    constructor <;> omega

theorem tallied_step
    {m : Move}
    (h : Tallied c shared)
    (hstep : Step c m c') :
    Tallied c' (shared + m.isReceive.toNat) := by
  cases hstep with
  | pass nanos =>
      exact ⟨h.misses, h.errors, h.decided_le, h.le_decided⟩
  | enter key =>
      have hphases := fun p hp => inPhase_enter (c := c) (p := p) hp key
      refine ⟨h.misses, ?_, ?_, ?_⟩
      · rw [hphases _ rfl]
        exact h.errors
      · rw [hphases _ rfl]
        exact h.decided_le
      · rw [hphases _ rfl, hphases _ rfl]
        exact h.le_decided
  | hit hcall hphase =>
      exact h.passage hcall hphase (.hit _) rfl (fun r => tally_count _ .hit r) rfl
  | queue hcall hphase =>
      exact h.passage hcall hphase .queue rfl (fun _ => rfl) rfl
  | load hcall hphase =>
      refine h.passage hcall hphase (.load _) rfl (fun r => tally_count _ .miss r) ?_
      exact List.length_append
  | fill hcall hphase =>
      exact h.passage hcall hphase (.fill _ _) rfl (fun _ => rfl) (List.length_modify ..)
  | fail hcall hphase =>
      exact h.passage hcall hphase (.fail _ _) rfl (fun r => tally_count _ .error r)
        (List.length_modify ..)
  | receive hcall hphase =>
      exact h.passage hcall hphase (.receive _) rfl (fun _ => rfl) rfl
  | leave hcall hphase =>
      exact h.passage hcall hphase .leave rfl (fun _ => rfl) rfl
  | leaveLine hcall hphase =>
      exact h.passage hcall hphase .leaveLine rfl (fun _ => rfl) rfl
  | stop hcall hphase =>
      exact h.passage hcall hphase (.stop _) rfl (fun _ => rfl) (List.length_modify ..)
  | invalidate key =>
      exact ⟨h.misses, h.errors, h.decided_le, h.le_decided⟩

theorem Tallied.run?
    {ms : List Move}
    (h : Tallied c shared)
    (hrun : c.run? ms = some c') :
    Tallied c' (shared + ms.countP Move.isReceive) := by
  refine runOf?_induction (P := fun front c => Tallied c (shared + front.countP Move.isReceive)) h
    (fun front before m after _ _ hbefore hmove => ?_) hrun
  have hafter := tallied_step hbefore ((move?_eq_some_iff before after m).1 hmove)
  have hcount : (front ++ [m]).countP Move.isReceive =
      front.countP Move.isReceive + m.isReceive.toNat := by
    rw [List.countP_append, List.countP_singleton]
    cases m.isReceive <;> rfl
  rw [hcount, ← Nat.add_assoc]
  exact hafter

end Tally

section Shown

variable {c c' : Cache}

/-- What the counter of the lookups that ended in some way shows. -/
def Cache.lookups
    (c : Cache) (r : Metrics.LookupResult) : Nat :=
  Metrics.reading (.cacheLookups r) c.events

/-- A cache measures nothing but how lookups end. -/
def Cache.CountsLookups (c : Cache) : Prop :=
  ∀ e ∈ c.events, ∃ r, e = Cache.counted r

theorem countsLookups_count
    (h : c.CountsLookups)
    (r : Metrics.LookupResult) :
    (c.count r).CountsLookups := by
  intro e he
  rcases List.mem_append.1 he with he | he
  · exact h e he
  · exact ⟨r, List.mem_singleton.1 he⟩

theorem countsLookups_step
    {m : Move}
    (h : c.CountsLookups)
    (hstep : Step c m c') :
    c'.CountsLookups := by
  cases hstep with
  | hit hcall hphase hcontent => exact countsLookups_count (c := c.setPhase _ _) h .hit
  | load hcall hphase hcontent hloader hturn => exact countsLookups_count (c := c) h .miss
  | fail hcall hphase hfailure => exact countsLookups_count (c := c) h .error
  | _ => exact h

theorem lookups_eq_tally
    {l : Limits} {ms : List Move}
    (hrun : ({ limits := l } : Cache).run? ms = some c)
    (r : Metrics.LookupResult) :
    c.lookups r = c.tally r := by
  have hcounts : c.CountsLookups :=
    run?_keeps (fun _ _ _ _ => countsLookups_step) (by simp [Cache.CountsLookups]) hrun
  refine Metrics.reading_of_never_set fun n hset => ?_
  obtain ⟨r', hr⟩ := hcounts _ hset
  cases hr

/-- When every call has come back, none is still under way or was given up. -/
theorem inPhase_of_back
    (hback : ∀ call ∈ c.calls, call.phase.hasReturned = true ∨ call.phase.hasFailed = true) :
    c.inPhase Phase.isDecided = c.calls.length ∧ c.inPhase Phase.isAbandoned = 0 := by
  constructor
  · refine List.countP_eq_length.2 fun call hcall => ?_
    have hphase := hback call hcall
    cases hcallPhase : call.phase <;> simp_all [Phase.hasReturned, Phase.hasFailed, Phase.isDecided]
  · refine List.countP_eq_zero.2 fun call hcall => ?_
    have hphase := hback call hcall
    cases hcallPhase : call.phase <;>
      simp_all [Phase.hasReturned, Phase.hasFailed, Phase.isAbandoned]

end Shown

section Main

/--
Behind every run there are as many misses as fetches and as many errors as calls
that failed.  When all calls have come back, each of them was counted once as a
hit or a miss, but for those that were given the table of a load for which they
had waited: so all lookups are counted exactly when no call was.
-/
theorem lookups_of_run?
    (s : CacheSettings) {ms : List Move} {c : Cache}
    (hrun : ({ limits := .ofSettings s } : Cache).run? ms = some c) :
    c.lookups .miss = c.fetches.length ∧
      c.lookups .error = c.inPhase Phase.hasFailed ∧
        ((∀ call ∈ c.calls, call.phase.hasReturned = true ∨ call.phase.hasFailed = true) →
          c.lookups .hit + c.lookups .miss + ms.countP Move.isReceive = c.calls.length ∧
            (c.lookups .hit + c.lookups .miss = c.calls.length ↔ ∀ n, Move.receive n ∉ ms)) := by
  have htallied := (tallied_initial (.ofSettings s)).run? hrun
  simp only [lookups_eq_tally hrun]
  refine ⟨htallied.misses, htallied.errors, fun hback => ?_⟩
  obtain ⟨hdecided, habandoned⟩ := inPhase_of_back hback
  have hle := htallied.decided_le
  have hge := htallied.le_decided
  rw [hdecided] at hle hge
  rw [habandoned] at hge
  have hreceived : ms.countP Move.isReceive = 0 ↔ ∀ n, Move.receive n ∉ ms := by
    rw [List.countP_eq_zero]
    constructor
    · exact fun hnone n hmem => hnone _ hmem rfl
    · intro hnone m hm
      cases m with
      | receive n => exact absurd hm (hnone n)
      | _ => simp [Move.isReceive]
  refine ⟨by omega, ?_⟩
  rw [← hreceived]
  omega

/-- Four callers: one fails, one loads, one shares its load, and one finds the table there. -/
def fourLookups : List Move :=
  [.enter "mod-a-1.0.0", .enter "mod-a-1.0.0", .enter "mod-a-1.0.0", .look 0, .look 1, .look 2,
    .begin 0, .answer 0 (.error (.transport "")), .begin 1,
    .answer 1 (.ok { moduleId := "mod-a-1.0.0" }), .receive 2, .enter "mod-a-1.0.0", .look 3]

theorem lookups_of_run?_fourLookups :
    ∃ c : Cache, ({ limits := .ofSettings {} } : Cache).run? fourLookups = some c ∧
      (∀ call ∈ c.calls, call.phase.hasReturned = true ∨ call.phase.hasFailed = true) ∧
        c.lookups .hit + c.lookups .miss + 1 = c.calls.length := by
  refine ⟨_, rfl, ?_⟩
  have hcounted := @lookups_of_run? {} fourLookups _ rfl
  refine (fun hback => ⟨hback, (hcounted.2.2 hback).1⟩) ?_
  decide +kernel

/-- Of two callers that share a load one is counted as neither hit nor miss. -/
theorem not_counted_of_shared :
    ∃ c : Cache,
      ({ limits := .ofSettings {} } : Cache).run?
          [.enter "mod-a-1.0.0", .look 0, .begin 0, .enter "mod-a-1.0.0", .look 1,
            .answer 0 (.ok { moduleId := "mod-a-1.0.0" }), .receive 1] = some c ∧
        (∀ call ∈ c.calls, call.phase.hasReturned = true ∨ call.phase.hasFailed = true) ∧
          c.lookups .hit + c.lookups .miss ≠ c.calls.length := by
  refine ⟨_, rfl, ?_, ?_⟩ <;> decide +kernel

end Main

end ModuleCache
end SidecarProxy
