import SidecarProxy.Proofs.Runs
import SidecarProxy.Refresh.Relay

/-!
# Relayed signals

A relay is watched together with everything that may happen around it: signals
come and their stream may end, the reader takes events out of the queue or
leaves, others put events into it, and somebody may ask the relay to stop.  Main
statement: in whatever order this happens, the relay puts one full refresh into
the queue for each signal that it consumes.  Only the last one may be missing,
while there is no room for it or because the reader left.
-/

namespace SidecarProxy
namespace Refresh
namespace Relay

section Happenings

/-- What may happen to a relay and around it. -/
inductive Happening where
  /-- The relay moves. -/
  | act (m : Move)
  /-- The reader takes this event out of the queue. -/
  | take (e : Event)
  /-- Somebody else puts an event into the queue. -/
  | notify (e : Event)
  | leave
  | requestStop
  | arrive (signals : Nat)
  /-- No further signal will come. -/
  | endStream
  deriving DecidableEq, Repr

/-- The state after something that happens, if it is possible. -/
def happen? (r : Relay) : Happening → Option Relay
  | .act m => r.move? m
  | .take e => if !r.readerGone && r.queued.head? = some e then some r.take.2 else none
  | .notify e =>
    if !r.readerGone && r.queued.length < r.capacity then
      some { r with queued := r.queued ++ [e] }
    else none
  | .leave => some r.leave
  | .requestStop => some r.requestStop
  | .arrive signals => if r.ended then none else some (r.arrive signals)
  | .endStream => some { r with ended := true }

/-- The state after a history, if it is possible. -/
def run? (r : Relay) (history : List Happening) : Option Relay :=
  runOf? happen? r history

/-- What happens, case by case, with what makes it possible. -/
inductive Happened (r : Relay) : Happening → Relay → Prop
  | stop
      (hphase : r.phase = .listening)
      (hstop : r.stopRequested = true) :
      Happened r (.act .stop) { r with phase := .finished }
  | consume
      (hphase : r.phase = .listening)
      (hready : 0 < r.ready) :
      Happened r (.act .consume)
        { r with phase := .sending, ready := r.ready - 1, consumed := r.consumed + 1 }
  | endOfStream
      (hphase : r.phase = .listening)
      (hready : r.ready = 0)
      (hended : r.ended = true) :
      Happened r (.act .endOfStream) { r with phase := .finished }
  | send
      (hphase : r.phase = .sending)
      (hreader : r.readerGone = false)
      (hroom : r.queued.length < r.capacity) :
      Happened r (.act .send)
        { r with
          phase := .listening, queued := r.queued ++ [.full], sent := r.sent ++ [.full] }
  | giveUp
      (hphase : r.phase = .sending)
      (hreader : r.readerGone = true) :
      Happened r (.act .giveUp) { r with phase := .finished }
  | take
      {e : Event} {rest : List Event}
      (hqueue : r.queued = e :: rest) :
      Happened r (.take e) { r with queued := rest }
  | notify
      (e : Event)
      (hroom : r.queued.length < r.capacity) :
      Happened r (.notify e) { r with queued := r.queued ++ [e] }
  | leave :
      Happened r .leave { r with readerGone := true }
  | requestStop :
      Happened r .requestStop { r with stopRequested := true }
  | arrive
      (signals : Nat)
      (hended : r.ended = false) :
      Happened r (.arrive signals) { r with ready := r.ready + signals }
  | endStream :
      Happened r .endStream { r with ended := true }

variable {r r' : Relay} {x : Happening} {m : Move} {history : List Happening}

theorem happened_of_move?
    (h : r.move? m = some r') :
    Happened r (.act m) r' := by
  cases m with
  | stop =>
      obtain ⟨⟨hphase, hstop⟩, rfl⟩ : (r.phase = .listening ∧ r.stopRequested = true) ∧ _ := by
        simpa [move?] using h
      exact .stop hphase hstop
  | consume =>
      obtain ⟨⟨hphase, hready⟩, rfl⟩ : (r.phase = .listening ∧ 0 < r.ready) ∧ _ := by
        simpa [move?] using h
      exact .consume hphase hready
  | endOfStream =>
      obtain ⟨⟨⟨hphase, hready⟩, hended⟩, rfl⟩ :
          ((r.phase = .listening ∧ r.ready = 0) ∧ r.ended = true) ∧ _ := by
        simpa [move?] using h
      exact .endOfStream hphase hready hended
  | send =>
      obtain ⟨⟨⟨hphase, hreader⟩, hroom⟩, rfl⟩ :
          ((r.phase = .sending ∧ r.readerGone = false) ∧ r.queued.length < r.capacity) ∧ _ := by
        simpa [move?] using h
      exact .send hphase hreader hroom
  | giveUp =>
      obtain ⟨⟨hphase, hreader⟩, rfl⟩ : (r.phase = .sending ∧ r.readerGone = true) ∧ _ := by
        simpa [move?] using h
      exact .giveUp hphase hreader

theorem happened_of_happen?
    (h : r.happen? x = some r') :
    Happened r x r' := by
  cases x with
  | act m =>
      exact happened_of_move? h
  | take e =>
      cases hqueue : r.queued with
      | nil =>
          simp [happen?, hqueue] at h
      | cons first rest =>
          obtain ⟨⟨-, rfl⟩, rfl⟩ : (r.readerGone = false ∧ first = e) ∧ _ := by
            simpa [happen?, Relay.take, hqueue] using h
          exact .take hqueue
  | notify e =>
      obtain ⟨⟨-, hroom⟩, rfl⟩ :
          (r.readerGone = false ∧ r.queued.length < r.capacity) ∧ _ := by
        simpa [happen?] using h
      exact .notify e hroom
  | leave =>
      cases h
      exact .leave
  | requestStop =>
      cases h
      exact .requestStop
  | arrive signals =>
      obtain ⟨hended, rfl⟩ : r.ended = false ∧ _ := by
        simpa [happen?] using h
      exact .arrive signals hended
  | endStream =>
      cases h
      exact .endStream

theorem run?_cons
    (r : Relay) (x : Happening) (more : List Happening) :
    r.run? (x :: more) = (r.happen? x).bind (·.run? more) :=
  runOf?_cons r x more

/-- What holds at the start and is kept by whatever happens holds behind every history. -/
theorem run?_induction
    {P : List Happening → Relay → Prop}
    {first : Relay}
    (hstart : P [] first)
    (hstep :
      ∀ history r x r', first.run? history = some r → P history r → Happened r x r' →
        P (history ++ [x]) r')
    (h : first.run? history = some r) :
    P history r :=
  runOf?_induction hstart
    (fun history r x r' _ hrun hP hx =>
      hstep history r x r' hrun hP (happened_of_happen? hx)) h

end Happenings

section Endings

/-- Whether the relay ends with a move. -/
def Happening.isLast : Happening → Bool
  | .act .stop | .act .endOfStream | .act .giveUp => true
  | _ => false

/-- Why a relay has ended, and what was asked of it. -/
structure Ended (history : List Happening) (r : Relay) : Prop where
  finished_iff : r.phase = .finished ↔ history.any Happening.isLast = true
  stopRequested_iff : r.stopRequested = true ↔ .requestStop ∈ history
  readerGone_iff : r.readerGone = true ↔ .leave ∈ history
  stopped : .act .stop ∈ history → r.stopRequested = true
  gaveUp : .act .giveUp ∈ history → r.readerGone = true
  endOfStream : .act .endOfStream ∈ history → r.ready = 0 ∧ r.ended = true
  once : .act .endOfStream ∈ history → .act .giveUp ∉ history

variable {capacity signals : Nat} {ends : Bool} {first r r' : Relay} {x : Happening}
variable {history : List Happening}

theorem eq_of_start?
    (h : start? capacity signals ends = some first) :
    first = { capacity := capacity, ready := signals, ended := ends } := by
  unfold start? at h
  split at h
  · cases h
  · exact (Option.some.inj h).symm

/-- A relay that goes on has not made a last move. -/
theorem Ended.not_mem_of_running
    (h : Ended history r)
    (hphase : r.phase ≠ .finished)
    (hlast : x.isLast = true) :
    x ∉ history := by
  intro hmem
  exact hphase (h.finished_iff.2 (List.any_eq_true.2 ⟨x, hmem, hlast⟩))

theorem Ended.step
    (h : Ended history r)
    (hx : Happened r x r') :
    Ended (history ++ [x]) r' where
  finished_iff := by
    have hbefore := h.finished_iff
    cases hx <;> simp_all [Happening.isLast]
  stopRequested_iff := by
    have hbefore := h.stopRequested_iff
    cases hx <;> simp_all
  readerGone_iff := by
    have hbefore := h.readerGone_iff
    cases hx <;> simp_all
  stopped := by
    have hbefore := h.stopped
    cases hx <;> simp_all
  gaveUp := by
    have hbefore := h.gaveUp
    cases hx <;> simp_all
  -- Nothing arrives behind the end of the stream, so no signal gets ready again.
  endOfStream := by
    have hbefore := h.endOfStream
    cases hx <;> simp_all
  once := by
    have hbefore := h.once
    have hstream := h.not_mem_of_running (x := .act .endOfStream)
    have hgaveUp := h.not_mem_of_running (x := .act .giveUp)
    cases hx <;> simp_all [Happening.isLast]

theorem ended_of_start?
    (h : start? capacity signals ends = some first) :
    Ended [] first := by
  obtain rfl := eq_of_start? h
  constructor <;> simp

theorem ended_of_run?
    (hstart : start? capacity signals ends = some first)
    (h : first.run? history = some r) :
    Ended history r :=
  run?_induction (ended_of_start? hstart) (fun _ _ _ _ _ hended => hended.step) h

end Endings

section Tallies

/-- The signals that come with what happens. -/
def Happening.signals : Happening → Nat
  | .arrive signals => signals
  | _ => 0

/-- The signals that come in a history. -/
def arrived : List Happening → Nat
  | [] => 0
  | x :: rest => x.signals + arrived rest

/-- Whether the relay moves. -/
def Happening.isAct : Happening → Bool
  | .act _ => true
  | _ => false

/-- The event that the last signal consumed has not produced: it waits for room, or it was given
up. -/
def owed (history : List Happening) (r : Relay) : Nat :=
  if r.phase = .sending ∨ .act .giveUp ∈ history then 1 else 0

/-- The tallies of signals, events and moves. -/
structure Tallied (signals : Nat) (history : List Happening) (r : Relay) : Prop where
  full : ∀ e ∈ r.sent, e = .full
  sends : r.sent.length = history.count (.act .send)
  came : r.consumed + r.ready = signals + arrived history
  counted : r.sent.length + r.owed history = r.consumed
  moves :
    history.countP Happening.isAct =
      r.consumed + r.sent.length + (if r.phase = .finished then 1 else 0)

variable {capacity signals : Nat} {ends : Bool} {first r r' : Relay} {x : Happening}
variable {history : List Happening}

theorem arrived_snoc
    (history : List Happening) (x : Happening) :
    arrived (history ++ [x]) = arrived history + x.signals := by
  induction history with
  | nil =>
      simp [arrived]
  | cons first rest ih =>
      simp [arrived, ih, Nat.add_assoc]

theorem Tallied.step
    (h : Tallied signals history r)
    (hended : Ended history r)
    (hx : Happened r x r') :
    Tallied signals (history ++ [x]) r' where
  full := by
    have hbefore := h.full
    cases hx with
    | send =>
        intro e he
        rcases List.mem_append.1 he with he | he
        · exact hbefore e he
        · exact List.mem_singleton.1 he
    | _ =>
        exact hbefore
  sends := by
    have hbefore := h.sends
    cases hx <;> simp_all
  came := by
    have hbefore := h.came
    rw [arrived_snoc]
    cases hx <;> simp only [Happening.signals] <;> omega
  counted := by
    have hbefore := h.counted
    have hgaveUp := hended.not_mem_of_running (x := .act .giveUp)
    cases hx <;> simp_all [owed, Happening.isLast]
  moves := by
    have hbefore := h.moves
    rw [List.countP_append, List.countP_singleton]
    cases hx <;> simp_all [Happening.isAct] <;> omega

theorem tallied_of_start?
    (h : start? capacity signals ends = some first) :
    Tallied signals [] first := by
  obtain rfl := eq_of_start? h
  constructor <;> simp [arrived, owed]

theorem tallied_of_run?
    (hstart : start? capacity signals ends = some first)
    (h : first.run? history = some r) :
    Tallied signals history r :=
  run?_induction (tallied_of_start? hstart)
    (fun _ _ _ _ hrun htallied => htallied.step (ended_of_run? hstart hrun)) h

end Tallies

section Queues

/-- The event that is put into the queue. -/
def Happening.entering? : Happening → Option Event
  | .act .send => some .full
  | .notify e => some e
  | _ => none

/-- The event that is taken out of the queue. -/
def Happening.taken? : Happening → Option Event
  | .take e => some e
  | _ => none

/-- A queue with a bound, which keeps the order of its events. -/
structure Queued (capacity : Nat) (history : List Happening) (r : Relay) : Prop where
  capacity : r.capacity = capacity
  room : r.queued.length ≤ r.capacity
  inOrder :
    history.filterMap Happening.entering? =
      history.filterMap Happening.taken? ++ r.queued

variable {capacity signals : Nat} {ends : Bool} {first r r' : Relay} {x : Happening}
variable {history : List Happening}

theorem Queued.step
    (h : Queued capacity history r)
    (hx : Happened r x r') :
    Queued capacity (history ++ [x]) r' where
  capacity := by
    have hbefore := h.capacity
    cases hx <;> exact hbefore
  room := by
    have hbefore := h.room
    cases hx with
    | send _ _ hroom =>
        rw [List.length_append]
        exact hroom
    | notify _ hroom =>
        rw [List.length_append]
        exact hroom
    | take hqueue =>
        rw [hqueue, List.length_cons] at hbefore
        exact Nat.le_of_succ_le hbefore
    | _ =>
        exact hbefore
  inOrder := by
    have hbefore := h.inOrder
    rw [List.filterMap_append, List.filterMap_append, hbefore]
    cases hx <;> simp_all [List.filterMap_cons, Happening.entering?, Happening.taken?]

theorem queued_of_start?
    (h : start? capacity signals ends = some first) :
    Queued capacity [] first := by
  obtain rfl := eq_of_start? h
  constructor <;> simp

theorem queued_of_run?
    (hstart : start? capacity signals ends = some first)
    (h : first.run? history = some r) :
    Queued capacity history r :=
  run?_induction (queued_of_start? hstart) (fun _ _ _ _ _ hqueued => hqueued.step) h

end Queues

section Rest

variable {first r r' : Relay} {m : Move} {x : Happening}

/-- A relay that cannot move has ended, or it waits for signals or for room. -/
theorem no_move_iff
    (r : Relay) :
    (∀ m, r.move? m = none)
      ↔
    r.phase = .finished ∨
      (r.phase = .listening ∧ r.stopRequested = false ∧ r.ready = 0 ∧ r.ended = false) ∨
      (r.phase = .sending ∧ r.readerGone = false ∧ r.capacity ≤ r.queued.length) := by
  have heach : (∀ m, r.move? m = none) ↔
      r.move? .stop = none ∧ r.move? .consume = none ∧ r.move? .endOfStream = none ∧
        r.move? .send = none ∧ r.move? .giveUp = none := by
    constructor
    · exact fun h => ⟨h _, h _, h _, h _, h _⟩
    · rintro ⟨_, _, _, _, _⟩ (_ | _ | _ | _ | _) <;> assumption
  rw [heach]
  cases hphase : r.phase <;> grind [move?]

/-- A bound for the moves of a relay that is left alone. -/
def work (r : Relay) : Nat :=
  match r.phase with
  | .listening => 2 * r.ready + 1
  | .sending => 2 * r.ready + 2
  | .finished => 0

theorem work_lt_of_move?
    (h : r.move? m = some r') :
    r'.work < r.work := by
  cases happened_of_move? h with
  | consume hphase hready =>
      simp only [work, hphase]
      omega
  | stop hphase | endOfStream hphase | send hphase | giveUp hphase =>
      simp [work, hphase]

theorem preference_findSome?_eq_none_iff
    (r : Relay) :
    preference.findSome? r.move? = none ↔ ∀ m, r.move? m = none := by
  rw [List.findSome?_eq_none_iff]
  exact ⟨fun h m => h m (by cases m <;> decide), fun h m _ => h m⟩

/-- A relay that is left alone moves until it cannot. -/
theorem settleWithin_spec
    {n : Nat}
    (hwork : r.work ≤ n) :
    (∃ moves : List Move, r.run? (moves.map .act) = some (r.settleWithin n)) ∧
      ∀ m, (r.settleWithin n).move? m = none := by
  induction n generalizing r with
  | zero =>
      refine ⟨⟨[], rfl⟩, ?_⟩
      intro m
      by_contra hmove
      obtain ⟨r', hr'⟩ := Option.ne_none_iff_exists'.1 hmove
      have hlt := work_lt_of_move? hr'
      have hsame : r.settleWithin 0 = r := rfl
      rw [hsame] at hlt
      omega
  | succ n ih =>
      unfold settleWithin
      cases hfind : preference.findSome? r.move? with
      | none =>
          exact ⟨⟨[], rfl⟩, (preference_findSome?_eq_none_iff r).1 hfind⟩
      | some r' =>
          obtain ⟨m, -, hmove⟩ := List.exists_of_findSome?_eq_some hfind
          have hlt := work_lt_of_move? hmove
          obtain ⟨⟨moves, hmoves⟩, hrest⟩ := ih (r := r') (by omega)
          refine ⟨⟨m :: moves, ?_⟩, hrest⟩
          rw [List.map_cons, run?_cons, happen?, hmove]
          exact hmoves

theorem settle_spec
    (r : Relay) :
    (∃ moves : List Move, r.run? (moves.map .act) = some r.settle) ∧
      ∀ m, r.settle.move? m = none := by
  refine settleWithin_spec ?_
  unfold work
  split <;> omega

/-- A relay that has ended sends nothing any more. -/
theorem sent_of_finished
    {more : List Happening}
    (hphase : first.phase = .finished)
    (h : first.run? more = some r) :
    r.phase = .finished ∧ r.sent = first.sent := by
  refine run?_induction (P := fun _ r => r.phase = .finished ∧ r.sent = first.sent)
    ⟨hphase, rfl⟩ ?_ h
  rintro _ r x r' - ⟨hfinished, hsent⟩ hx
  cases hx <;> simp_all

end Rest

section Main

variable {capacity signals : Nat} {ends : Bool} {first r : Relay}
variable {history : List Happening}

theorem Tallied.sent_eq
    (h : Tallied signals history r)
    (howed : r.owed history = 0)
    (hready : r.ready = 0) :
    r.sent = List.replicate (signals + arrived history) .full := by
  have hcame := h.came
  have hcounted := h.counted
  rw [List.eq_replicate_iff]
  exact ⟨by omega, h.full⟩

/-- Where neither a stop nor the loss of the reader ended the relay, the end of the stream did. -/
theorem Ended.endOfStream_mem
    (h : Ended history r)
    (hphase : r.phase = .finished)
    (hstop : .requestStop ∉ history)
    (hreader : .leave ∉ history) :
    .act .endOfStream ∈ history := by
  obtain ⟨x, hx, hlast⟩ := List.any_eq_true.1 (h.finished_iff.1 hphase)
  unfold Happening.isLast at hlast
  split at hlast
  · exact absurd (h.stopRequested_iff.1 (h.stopped hx)) hstop
  · exact hx
  · exact absurd (h.readerGone_iff.1 (h.gaveUp hx)) hreader
  · cases hlast

/-- What holds of a relay whatever happens. -/
structure Keeps (capacity signals : Nat) (history : List Happening) (r : Relay) : Prop where
  full : ∀ e ∈ r.sent, e = .full
  sends : r.sent.length = history.count (.act .send)
  counted : r.sent.length + r.owed history = r.consumed
  /-- No signal is consumed that did not come. -/
  came : r.consumed + r.ready = signals + arrived history
  /-- What others put into the queue takes nothing away. -/
  queued :
    r.queued.length ≤ capacity ∧
      history.filterMap Happening.entering? =
        history.filterMap Happening.taken? ++ r.queued
  /-- Behind the end of the stream no signal is left that has produced no event. -/
  everySignal :
    .act .endOfStream ∈ history →
      r.sent = List.replicate (signals + arrived history) .full
  endsWithStream :
    r.phase = .finished → .requestStop ∉ history → .leave ∉ history →
      .act .endOfStream ∈ history
  /-- Behind its last move the relay sends nothing any more. -/
  silent :
    history.any Happening.isLast = true →
      ∀ more r', r.run? more = some r' → r'.sent = r.sent
  moves_le : history.countP Happening.isAct ≤ 2 * (signals + arrived history) + 1
  /-- A relay behind the end of the stream does not rest before it has relayed every signal, but
  while there is no room. -/
  rests :
    (∀ m, r.move? m = none) → r.ended = true → .requestStop ∉ history → .leave ∉ history →
      r.sent = List.replicate (signals + arrived history) .full ∨ capacity ≤ r.queued.length
  settles :
    (∃ moves : List Move, r.run? (moves.map .act) = some r.settle) ∧
      ∀ m, r.settle.move? m = none

/-- A relay sends one full refresh for each signal, in whatever order things happen. -/
theorem keeps_of_run?
    (hstart : start? capacity signals ends = some first)
    (hrun : first.run? history = some r) :
    Keeps capacity signals history r := by
  have hended := ended_of_run? hstart hrun
  have htallied := tallied_of_run? hstart hrun
  have hqueued := queued_of_run? hstart hrun
  have hall :
      .act .endOfStream ∈ history →
        r.sent = List.replicate (signals + arrived history) .full := by
    intro hstream
    have hphase : r.phase = .finished :=
      hended.finished_iff.2 (List.any_eq_true.2 ⟨_, hstream, rfl⟩)
    have howed : r.owed history = 0 := by
      simp [owed, hphase, hended.once hstream]
    exact htallied.sent_eq howed (hended.endOfStream hstream).1
  refine
    { full := htallied.full
      sends := htallied.sends
      counted := htallied.counted
      came := htallied.came
      queued := ⟨hqueued.capacity ▸ hqueued.room, hqueued.inOrder⟩
      everySignal := hall
      endsWithStream := hended.endOfStream_mem
      silent := fun hlast more r' hmore => (sent_of_finished (hended.finished_iff.2 hlast) hmore).2
      moves_le := ?_
      rests := ?_
      settles := settle_spec r }
  · have hmoves := htallied.moves
    have hcame := htallied.came
    have hcounted := htallied.counted
    split at hmoves <;> omega
  · intro hrest hstream hstop hreader
    rcases (no_move_iff r).1 hrest with hphase | ⟨-, -, -, hopen⟩ | ⟨-, -, hroom⟩
    · exact Or.inl (hall (hended.endOfStream_mem hphase hstop hreader))
    · rw [hstream] at hopen
      cases hopen
    · exact Or.inr (hqueued.capacity ▸ hroom)

/-- A relay that waits behind the event of somebody else, consumes a signal although it is to stop,
and then loses its reader. -/
theorem keeps_of_run?_crowded :
    let first : Relay := { capacity := 1, ready := 2, ended := false }
    let history : List Happening := [
      .act .consume, .notify .moduleChanged, .arrive 1, .take .moduleChanged, .act .send,
      .act .consume, .requestStop, .take .full, .act .send, .act .consume, .leave, .act .giveUp]
    let r : Relay :=
      { capacity := 1, ready := 0, ended := false, phase := .finished, consumed := 3,
        queued := [.full], sent := [.full, .full], readerGone := true, stopRequested := true }
    start? 1 2 false = some first ∧
      first.run? history = some r ∧
      r.owed history = 1 ∧
      r.sent.length + r.owed history = r.consumed ∧
      ∀ more r', r.run? more = some r' → r'.sent = r.sent := by
  intro first history r
  have hstart : start? 1 2 false = some first := rfl
  have hrun : first.run? history = some r := rfl
  have hkeeps := keeps_of_run? hstart hrun
  exact ⟨hstart, hrun, rfl, hkeeps.counted, hkeeps.silent rfl⟩

end Main

end Relay
end Refresh
end SidecarProxy
