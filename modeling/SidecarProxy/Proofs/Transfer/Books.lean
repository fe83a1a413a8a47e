import SidecarProxy.Proofs.Transfer.Transcript

/-!
# The books of a transfer

Every frame that was read is in one place: with the consumer, in the queue, in
hand, or lost with a consumer that left.  Main statement: the books balance
behind every run, with the consumer leaving at any moment.
-/

namespace SidecarProxy
namespace Transfer

section Books

/-- The frames among deliveries. -/
def framesOf (ds : List Delivery) : List Frame :=
  ds.filterMap fun
    | .frame f => some f
    | .error _ => none

/-- The bytes of data in frames. -/
def totalSize : List Frame → Nat
  | [] => 0
  | f :: fs => f.size + totalSize fs

@[simp] theorem framesOf_nil :
    framesOf [] = [] := rfl

@[simp] theorem framesOf_append
    (ds ds' : List Delivery) :
    framesOf (ds ++ ds') = framesOf ds ++ framesOf ds' := by
  simp [framesOf]

@[simp] theorem framesOf_frame
    (f : Frame) :
    framesOf [.frame f] = [f] := rfl

@[simp] theorem framesOf_error
    (message : String) :
    framesOf [.error message] = [] := rfl

@[simp] theorem framesOf_map_frame
    (fs : List Frame) :
    framesOf (fs.map .frame) = fs := by
  induction fs with
  | nil =>
      rfl
  | cons f fs ih =>
      exact congrArg (f :: ·) ih

@[simp] theorem framesOf_map_error
    (messages : List String) :
    framesOf (messages.map .error) = [] := by
  induction messages with
  | nil =>
      rfl
  | cons message messages ih =>
      exact ih

@[simp] theorem totalSize_append
    (fs fs' : List Frame) :
    totalSize (fs ++ fs') = totalSize fs + totalSize fs' := by
  induction fs with
  | nil =>
      simp [totalSize]
  | cons f fs ih =>
      simp [totalSize, ih, Nat.add_assoc]

theorem length_framesOf_le
    (ds : List Delivery) :
    (framesOf ds).length ≤ ds.length :=
  List.length_filterMap_le _ ds

/-- The error that goes to the consumer with an outcome. -/
def Outcome.error? : Outcome → Option String
  | .completed _ => none
  | .clientGone _ => none
  | .sourceFailed _ cause => some cause
  | .timedOut _ after => some (idleMessage after)

/-- What an outcome says about a source of which so many frames were put into the
queue. -/
def Outcome.Holds (source : Source) (s : State) (frames : List Frame) : Outcome → Prop
  | .completed _ => source.frames = frames ∧ source.ending = .ended
  | .clientGone _ => frames <+: source.frames ∧ s.consumerGone = true
  | .sourceFailed _ cause => source.frames = frames ∧ source.ending = .failed cause
  | .timedOut .. => frames <+: source.frames ∧ s.produced = frames.length

theorem Outcome.Holds.isPrefix
    {source : Source} {s : State} {frames : List Frame} {o : Outcome}
    (h : o.Holds source s frames) :
    frames <+: source.frames := by
  cases o with
  | completed bytes =>
      exact h.1 ▸ List.prefix_refl _
  | clientGone bytes =>
      exact h.1
  | sourceFailed bytes cause =>
      exact h.1 ▸ List.prefix_refl _
  | timedOut bytes after =>
      exact h.1

/-- Where the frames of a source are in each phase: in front those that were put
into the queue, then the one in hand, then those that are not read. -/
def Stage (source : Source) (queued : List Delivery) (s : State) : Prop :=
  ∃ frames : List Frame, s.produced ≤ frames.length + 1 ∧
    match s.phase with
    | .reading _ =>
      queued = frames.map .frame ∧ s.produced = frames.length ∧
        source.frames = frames ++ s.source.frames ∧ source.ending = s.source.ending
    | .sending f =>
      queued = frames.map .frame ∧ s.produced = frames.length + 1 ∧
        source.frames = frames ++ f :: s.source.frames ∧ source.ending = s.source.ending
    | .failing message outcome =>
      queued = frames.map .frame ∧ outcome.Holds source s frames ∧
        outcome.error? = some message ∧ outcome.bytes = s.bytes
    | .finished outcome _ =>
      (queued = frames.map .frame ++ outcome.error?.toList.map .error ∨
          s.consumerGone = true ∧ queued = frames.map .frame) ∧
        outcome.Holds source s frames ∧ outcome.bytes = s.bytes

/-- What the consumer has got when it is told the end, by the outcome. -/
def Outcome.Delivers (source : Source) (s : State) (received : List Delivery) : Outcome → Prop
  | .completed _ => source.ending = .ended ∧ received = source.frames.map .frame
  | .clientGone _ => False
  | .sourceFailed _ cause =>
    source.ending = .failed cause ∧ received = source.frames.map .frame ++ [.error cause]
  | .timedOut _ after =>
    received = (source.frames.take s.produced).map .frame ++ [.error (idleMessage after)]

end Books

section Moves

variable {source : Source} {queued : List Delivery} {s s' : State} {m : Move}

/-- A move puts something into the queue only if there is room and a consumer. -/
theorem queue_step
    (h : Step s m s') :
    ∃ added, s'.queue = s.queue ++ added ∧
      s'.bytes = s.bytes + totalSize (framesOf added) ∧
      (added = [] ∨ s.consumerGone = false ∧ s'.queue.length ≤ s.capacity) := by
  cases h with
  | pushFrame hphase hhere hroom =>
      exact ⟨[.frame _], rfl, rfl, .inr ⟨hhere, by simpa using Nat.succ_le_of_lt hroom⟩⟩
  | pushError hphase hhere hroom =>
      exact ⟨[.error _], rfl, rfl, .inr ⟨hhere, by simpa using Nat.succ_le_of_lt hroom⟩⟩
  | _ =>
      exact ⟨[], (List.append_nil _).symm, rfl, .inl rfl⟩

theorem stage_step
    (hstage : Stage source queued s)
    (h : Step s m s') :
    Stage source (queued ++ s'.queue.drop s.queue.length) s' := by
  obtain ⟨frames, hproduced, hstage⟩ := hstage
  cases h with
  | readFrame hphase hnext hdue =>
      rw [hphase] at hstage
      obtain ⟨hqueued, hread, hframes, hending⟩ := hstage
      obtain ⟨hfirst, hlast, -⟩ := Source.gives_of_next? hnext
      exact ⟨frames, by simp [hread], by simpa using hqueued, by simp [hread],
        by rw [hframes, hfirst], hending.trans hlast⟩
  | readFailure hphase hnext hdue =>
      rw [hphase] at hstage
      obtain ⟨hqueued, hread, hframes, hending⟩ := hstage
      obtain ⟨hfirst, hlast, -⟩ := Source.gives_of_next? hnext
      exact ⟨frames, by simp [hread], by simpa using hqueued,
        ⟨by rw [hframes, hfirst, List.append_nil], hending.trans hlast⟩, rfl, rfl⟩
  | readEnd hphase hnext hdue =>
      rw [hphase] at hstage
      obtain ⟨hqueued, hread, hframes, hending⟩ := hstage
      obtain ⟨hfirst, hlast, -⟩ := Source.gives_of_next? hnext
      exact ⟨frames, hproduced, .inl (by simpa [Outcome.error?] using hqueued),
        ⟨by rw [hframes, hfirst, List.append_nil], hending.trans hlast⟩, rfl⟩
  | expire hphase hidle hlate hsilent =>
      rw [hphase] at hstage
      obtain ⟨hqueued, hread, hframes, hending⟩ := hstage
      exact ⟨frames, hproduced, by simpa using hqueued,
        ⟨hframes ▸ List.prefix_append _ _, hread⟩, rfl, rfl⟩
  | notice hphase hgone =>
      rw [hphase] at hstage
      obtain ⟨hqueued, hread, hframes, hending⟩ := hstage
      exact ⟨frames, hproduced, .inr ⟨hgone, by simpa using hqueued⟩,
        ⟨hframes ▸ List.prefix_append _ _, hgone⟩, rfl⟩
  | @pushFrame f hphase hhere hroom =>
      rw [hphase] at hstage
      obtain ⟨hqueued, hread, hframes, hending⟩ := hstage
      refine ⟨frames ++ [f], ?_, ?_, ?_, ?_, hending⟩
      · simp [hread]
      · simp [hqueued]
      · simp [hread]
      · simp [hframes]
  | pushError hphase hhere hroom =>
      rw [hphase] at hstage
      obtain ⟨hqueued, hholds, herror, hbytes⟩ := hstage
      exact ⟨frames, hproduced, .inl (by simp [hqueued, herror]), hholds, hbytes⟩
  | discardFrame hphase hgone =>
      rw [hphase] at hstage
      obtain ⟨hqueued, hread, hframes, hending⟩ := hstage
      exact ⟨frames, hproduced, .inr ⟨hgone, by simpa using hqueued⟩,
        ⟨hframes ▸ List.prefix_append _ _, hgone⟩, rfl⟩
  | discardError hphase hgone =>
      rw [hphase] at hstage
      obtain ⟨hqueued, hholds, herror, hbytes⟩ := hstage
      exact ⟨frames, hproduced, .inr ⟨hgone, by simpa using hqueued⟩, hholds, hbytes⟩
  | report hphase =>
      rw [hphase] at hstage
      rw [List.drop_length, List.append_nil]
      exact ⟨frames, hproduced, hstage⟩

theorem Outcome.Holds.leave
    {frames : List Frame} {outcome : Outcome}
    (h : outcome.Holds source s frames) :
    outcome.Holds source s.leave frames := by
  cases outcome with
  | clientGone bytes =>
      exact ⟨h.1, rfl⟩
  | _ =>
      exact h

theorem Stage.leave
    (h : Stage source queued s) :
    Stage source queued s.leave := by
  obtain ⟨frames, hproduced, h⟩ := h
  refine ⟨frames, hproduced, ?_⟩
  have hsame : s.leave.phase = s.phase := rfl
  rw [hsame]
  split at h
  · exact h
  · exact h
  · exact ⟨h.1, h.2.1.leave, h.2.2⟩
  · exact ⟨h.1.imp_right fun hgone => ⟨rfl, hgone.2⟩, h.2.1.leave, h.2.2⟩

end Moves

section Balance

/-- The books of a transfer: every frame that was read is accounted for. -/
structure Balanced (source : Source) (start : State) (t : Transcript) : Prop where
  idle : t.state.idle = start.idle
  capacity : t.state.capacity = start.capacity
  fits : t.state.queue.length ≤ t.state.capacity
  here : t.state.consumerGone = false → t.queued = t.received ++ t.state.queue
  lost : ∃ lost, t.queued = t.received ++ lost ∧ lost.length ≤ t.state.capacity
  bytes : t.state.bytes = totalSize (framesOf t.queued)
  reports : t.reports = t.state.reported?.toList
  stage : Stage source t.queued t.state
  ended :
    t.sawEnd = true → t.state.queue = [] ∧
      ∃ outcome, t.state.outcome? = some outcome ∧
        outcome.Delivers source t.state t.received

variable {source : Source} {start : State} {t t' : Transcript} {e : Event}

theorem balanced_start
    (source : Source) (capacity : Nat) (idle : Option Span) :
    Balanced source { capacity := capacity, idle := idle, source := source }
      { state := { capacity := capacity, idle := idle, source := source } } where
  idle := rfl
  capacity := rfl
  fits := Nat.zero_le _
  here := fun _ => rfl
  lost := ⟨[], rfl, Nat.zero_le _⟩
  bytes := rfl
  reports := rfl
  stage := ⟨[], Nat.zero_le _, rfl, rfl, rfl, rfl⟩
  ended := fun h => by cases h

theorem Balanced.moved
    {m : Move} {s : State}
    (h : Balanced source start t)
    (hmove : Step t.state m s) :
    Balanced source start (t.moved s) := by
  obtain ⟨hidle, hcapacity, hgone, -⟩ := frame_step hmove
  obtain ⟨added, hqueue, hbytes, hadded⟩ := queue_step hmove
  have hdrop : s.queue.drop t.state.queue.length = added := by
    rw [hqueue, List.drop_left]
  -- What is put into the queue is behind all that was put there before.
  have hfits : s.queue.length ≤ t.state.capacity := by
    rcases hadded with rfl | ⟨-, hroom⟩
    · rw [hqueue, List.append_nil]
      exact h.fits
    · exact hroom
  have hnone : t.state.reported? = none := by
    rw [Option.eq_none_iff_forall_ne_some]
    intro outcome hreported
    exact not_step_of_reported hreported hmove
  refine ⟨hidle.trans h.idle, hcapacity.trans h.capacity, hcapacity ▸ hfits, ?_, ?_, ?_, ?_,
    stage_step h.stage hmove, ?_⟩
  · intro hhere
    have hbefore := h.here (hgone ▸ hhere)
    change t.queued ++ s.queue.drop t.state.queue.length = t.received ++ s.queue
    rw [hdrop, hbefore, hqueue, List.append_assoc]
  · change ∃ lost, t.queued ++ s.queue.drop t.state.queue.length = t.received ++ lost ∧
      lost.length ≤ s.capacity
    rw [hdrop, hcapacity]
    rcases hadded with rfl | ⟨hhere, -⟩
    · simpa using h.lost
    · exact ⟨s.queue, by rw [h.here hhere, hqueue, List.append_assoc], hfits⟩
  · change s.bytes = totalSize (framesOf (t.queued ++ s.queue.drop t.state.queue.length))
    rw [hdrop, hbytes, h.bytes, framesOf_append, totalSize_append]
  · change t.reports ++ s.reported?.toList = s.reported?.toList
    rw [h.reports, hnone, Option.toList_none, List.nil_append]
  · intro hsaw
    obtain ⟨hempty, outcome, houtcome, hdelivers⟩ := h.ended hsaw
    obtain ⟨reported, hphase⟩ := outcome?_eq_some_iff.1 houtcome
    obtain ⟨-, rfl⟩ := eq_report_of_finished hphase hmove
    refine ⟨hempty, outcome, rfl, ?_⟩
    cases outcome <;> exact hdelivers

/-- A consumer that is there and finds the queue of a finished transfer empty has got all. -/
theorem Stage.delivers
    {queued : List Delivery} {s : State} {outcome : Outcome}
    (h : Stage source queued s)
    (houtcome : s.outcome? = some outcome) (hhere : s.consumerGone = false) :
    outcome.Delivers source s queued := by
  obtain ⟨reported, hphase⟩ := outcome?_eq_some_iff.1 houtcome
  obtain ⟨frames, -, h⟩ := h
  rw [hphase] at h
  obtain ⟨hqueued | ⟨hgone, -⟩, hholds, -⟩ := h
  · cases outcome with
    | completed bytes =>
        obtain ⟨rfl, hending⟩ := hholds
        exact ⟨hending, by simpa [Outcome.error?] using hqueued⟩
    | clientGone bytes =>
        exact absurd (hhere.symm.trans hholds.2) (by decide)
    | sourceFailed bytes cause =>
        obtain ⟨rfl, hending⟩ := hholds
        exact ⟨hending, hqueued⟩
    | timedOut bytes after =>
        obtain ⟨hahead, hread⟩ := hholds
        change queued = _
        rw [hread, List.prefix_iff_eq_take.1 hahead |>.symm]
        exact hqueued
  · exact absurd (hhere.symm.trans hgone) (by decide)

theorem balanced_step
    (h : Balanced source start t)
    (hstep : t.step? e = some t') :
    Balanced source start t' := by
  cases Transcript.stepped_of_step? hstep with
  | act hmove =>
      exact h.moved hmove
  | @take d rest hhere hqueue =>
      have hbefore := h.here hhere
      rw [hqueue] at hbefore
      have hfits := h.fits
      rw [hqueue, List.length_cons] at hfits
      refine ⟨h.idle, h.capacity, Nat.le_of_succ_le hfits, ?_, ?_, h.bytes, h.reports, h.stage, ?_⟩
      · intro _
        simp [hbefore]
      · exact ⟨rest, by simp [hbefore], Nat.le_of_succ_le hfits⟩
      · intro hsaw
        obtain ⟨hempty, -⟩ := h.ended hsaw
        rw [hqueue] at hempty
        cases hempty
  | wait hhere hqueue =>
      refine ⟨h.idle, h.capacity, h.fits, h.here, h.lost, h.bytes, h.reports, h.stage, ?_⟩
      intro hsaw
      rw [Bool.or_eq_true, Option.isSome_iff_exists] at hsaw
      rcases hsaw with hsaw | ⟨outcome, houtcome⟩
      · exact h.ended hsaw
      · have hall := h.here hhere
        rw [hqueue, List.append_nil] at hall
        exact ⟨hqueue, outcome, houtcome, hall ▸ h.stage.delivers houtcome hhere⟩
  | leave hhere =>
      refine ⟨h.idle, h.capacity, Nat.zero_le _, ?_, h.lost, h.bytes, h.reports, h.stage.leave, ?_⟩
      · intro hgone
        cases hgone
      · intro hsaw
        obtain ⟨-, outcome, houtcome, hdelivers⟩ := h.ended hsaw
        refine ⟨rfl, outcome, houtcome, ?_⟩
        cases outcome <;> exact hdelivers
  | passTo time =>
      exact ⟨h.idle, h.capacity, h.fits, h.here, h.lost, h.bytes, h.reports, h.stage, h.ended⟩

theorem balanced_run?
    {events : List Event}
    (h : Balanced source start t)
    (hrun : t.run? events = some t') :
    Balanced source start t' :=
  Transcript.run?_keeps (fun h hstep => balanced_step h hstep) h hrun

end Balance

end Transfer
end SidecarProxy
