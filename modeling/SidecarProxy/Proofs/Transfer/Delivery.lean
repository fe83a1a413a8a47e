import SidecarProxy.Proofs.Transfer.Attended

/-!
# What a transfer delivers

Main statement: whatever the consumer does, it gets the frames of the source in
their order, none lost and none twice; it is told the end only behind all frames
and, when the source failed or said nothing for too long, behind one error; the
one report that is made is true; and a consumer that keeps asking is told the
end and the outcome is reported, unless the source stalls and is given all the
time it wants.
-/

namespace SidecarProxy
namespace Transfer

section Shape

variable {source : Source} {queued : List Delivery} {s : State}

/-- What was put into the queue: frames as they come from the source, and at most one error. -/
theorem Stage.shape
    (h : Stage source queued s) :
    ∃ (frames : List Frame) (messages : List String),
      queued = frames.map .frame ++ messages.map .error ∧ frames <+: source.frames ∧
        messages.length ≤ 1 := by
  obtain ⟨frames, -, h⟩ := h
  split at h
  · obtain ⟨hqueued, -, hframes, -⟩ := h
    exact ⟨frames, [], by simpa using hqueued, hframes ▸ List.prefix_append _ _, by simp⟩
  · obtain ⟨hqueued, -, hframes, -⟩ := h
    exact ⟨frames, [], by simpa using hqueued, hframes ▸ List.prefix_append _ _, by simp⟩
  · obtain ⟨hqueued, hholds, -⟩ := h
    exact ⟨frames, [], by simpa using hqueued, hholds.isPrefix, by simp⟩
  · next outcome _ hphase =>
      obtain ⟨hqueued | ⟨-, hqueued⟩, hholds, -⟩ := h
      · refine ⟨frames, outcome.error?.toList, hqueued, hholds.isPrefix, ?_⟩
        cases outcome.error? <;> simp
      · exact ⟨frames, [], by simpa using hqueued, hholds.isPrefix, by simp⟩

/-- What stands in front of frames and an error behind them is of the same shape. -/
theorem shape_of_append
    {received lost : List Delivery} {frames : List Frame} {messages : List String}
    (h : received ++ lost = frames.map .frame ++ messages.map .error) :
    ∃ (frames' : List Frame) (messages' : List String),
      received = frames'.map .frame ++ messages'.map .error ∧ frames' <+: frames ∧
        messages'.length ≤ messages.length := by
  rcases List.append_eq_append_iff.1 h with ⟨more, hframes, -⟩ | ⟨more, rfl, hmessages⟩
  · obtain ⟨front, back, rfl, rfl, -⟩ := List.map_eq_append_iff.1 hframes
    exact ⟨front, [], by simp, List.prefix_append _ _, Nat.zero_le _⟩
  · obtain ⟨front, back, rfl, rfl, -⟩ := List.map_eq_append_iff.1 hmessages
    exact ⟨frames, front, rfl, List.prefix_refl _, by simp⟩

end Shape

section Silence

/-- A source that is being read has said nothing for as long as it may. -/
def State.Silent (s : State) (after : Span) : Prop :=
  ∃ since, s.phase = .reading since ∧ s.idle = some after ∧
    since + after.timerMillis ≤ s.now ∧ ∀ time, s.answerAt = some time → s.now < time

/-- The outcome that a transfer is bound for once nothing more is read. -/
def Phase.verdict? : Phase → Option Outcome
  | .reading _ => none
  | .sending _ => none
  | .failing _ outcome => some outcome
  | .finished outcome _ => some outcome

variable {start t t' : Transcript} {e : Event}

theorem silent_of_step
    {m : Move} {s s' : State} {bytes : Nat} {after : Span}
    (h : Step s m s')
    (hverdict : s'.phase.verdict? = some (.timedOut bytes after)) :
    s.Silent after ∨ s.phase.verdict? = some (.timedOut bytes after) := by
  cases h with
  | expire hphase hidle hlate hsilent =>
      cases hverdict
      exact .inl ⟨_, hphase, hidle, hlate, hsilent⟩
  | pushError hphase hhere hroom =>
      rw [hphase]
      exact .inr hverdict
  | discardError hphase hgone =>
      rw [hphase]
      exact .inr hverdict
  | report hphase =>
      rw [hphase]
      exact .inr hverdict
  | _ =>
      cases hverdict

/-- A transfer gives up on a source only after a silence of the idle time. -/
theorem silent_of_timedOut
    {bytes : Nat} {after : Span}
    (hstart : start.state.phase.verdict? = none)
    (hrun : start.Leads t)
    (hverdict : t.state.phase.verdict? = some (.timedOut bytes after)) :
    ∃ before, start.Leads before ∧ before.Leads t ∧ before.state.Silent after := by
  obtain ⟨events, hevents⟩ := hrun
  refine (Transcript.run?_keeps
    (P := fun t => start.Leads t ∧ ∀ bytes after,
      t.state.phase.verdict? = some (.timedOut bytes after) →
        ∃ before, start.Leads before ∧ before.Leads t ∧ before.state.Silent after)
    ?_ ⟨.refl start, ?_⟩ hevents).2 bytes after hverdict
  · rintro t t' e ⟨hleads, hsilent⟩ hstep
    refine ⟨hleads.step hstep, fun bytes after hverdict => ?_⟩
    -- Either the silence is the one of this move, or it was before.
    have hcases : t.state.Silent after ∨
        t.state.phase.verdict? = some (.timedOut bytes after) := by
      cases Transcript.stepped_of_step? hstep with
      | act hmove =>
          exact silent_of_step hmove hverdict
      | _ =>
          exact .inr hverdict
    rcases hcases with hnow | hbefore
    · exact ⟨t, hleads, (Transcript.Leads.refl t).step hstep, hnow⟩
    · obtain ⟨before, hfrom, hto, hsaid⟩ := hsilent bytes after hbefore
      exact ⟨before, hfrom, hto.step hstep, hsaid⟩
  · intro bytes after hnone
    rw [hstart] at hnone
    cases hnone

end Silence

section Main

/-- What an outcome tells, against all that was observed. -/
def Outcome.Told (source : Source) (start t : Transcript) : Outcome → Prop
  | .completed _ => source.ending = .ended ∧ framesOf t.queued = source.frames
  | .clientGone _ => t.state.consumerGone = true
  | .sourceFailed _ cause => source.ending = .failed cause
  | .timedOut _ after =>
    start.state.idle = some after ∧
      ∃ before, start.Leads before ∧ before.Leads t ∧ before.state.Silent after

/-- What a transfer of a source keeps to at every moment. -/
structure Faithful (source : Source) (start t : Transcript) : Prop where
  /-- The frames come in order, none is lost and none comes twice; an error is the last thing. -/
  inOrder :
    ∃ (frames : List Frame) (messages : List String),
      t.received = frames.map .frame ++ messages.map .error ∧ frames <+: source.frames ∧
        messages.length ≤ 1
  /-- The end is told behind all that the outcome leaves to get. -/
  atEnd :
    t.sawEnd = true →
      ∃ outcome, t.state.outcome? = some outcome ∧ outcome.Delivers source t.state t.received
  once : t.reports.length ≤ 1
  /-- What is reported is the outcome, and the queue is closed before. -/
  reported : ∀ outcome ∈ t.reports, t.state.outcome? = some outcome
  told :
    ∀ outcome, t.state.outcome? = some outcome → outcome.Told source start t ∧
      outcome.bytes = totalSize (framesOf t.queued)

variable {source : Source} {s : State} {t : Transcript}

theorem told_of_outcome?
    {outcome : Outcome}
    (hbooks : ∀ t, Transcript.Leads { state := s } t → Balanced source s t)
    (hstart : s.phase.verdict? = none)
    (hleads : Transcript.Leads { state := s } t)
    (houtcome : t.state.outcome? = some outcome) :
    outcome.Told source { state := s } t ∧ outcome.bytes = totalSize (framesOf t.queued) := by
  obtain ⟨reported, hphase⟩ := outcome?_eq_some_iff.1 houtcome
  have h := hbooks t hleads
  obtain ⟨frames, -, hstage⟩ := h.stage
  rw [hphase] at hstage
  obtain ⟨hqueued, hholds, hbytes⟩ := hstage
  refine ⟨?_, hbytes.trans h.bytes⟩
  cases outcome with
  | completed bytes =>
      refine ⟨hholds.2, ?_⟩
      rcases hqueued with hqueued | ⟨-, hqueued⟩
      · simp [hqueued, hholds.1, Outcome.error?]
      · simp [hqueued, hholds.1]
  | clientGone bytes =>
      exact hholds.2
  | sourceFailed bytes cause =>
      exact hholds.2
  | timedOut bytes after =>
      have hverdict : t.state.phase.verdict? = some (.timedOut bytes after) := by
        rw [hphase]
        rfl
      obtain ⟨before, hfrom, hto, hsilent⟩ := silent_of_timedOut hstart hleads hverdict
      have hidle : s.idle = some after := by
        obtain ⟨-, -, hidle, -⟩ := hsilent
        rw [← hidle, (hbooks before hfrom).idle]
      exact ⟨hidle, before, hfrom, hto, hsilent⟩

theorem faithful_of_books
    (hbooks : ∀ t, Transcript.Leads { state := s } t → Balanced source s t)
    (hstart : s.phase.verdict? = none)
    (hleads : Transcript.Leads { state := s } t) :
    Faithful source { state := s } t := by
  have h := hbooks t hleads
  refine ⟨?_, fun hsaw => (h.ended hsaw).2, ?_, fun outcome hmem => ?_, fun outcome houtcome =>
    told_of_outcome? hbooks hstart hleads houtcome⟩
  · obtain ⟨lost, hqueued, -⟩ := h.lost
    obtain ⟨frames, messages, hshape, hahead, hmessages⟩ := h.stage.shape
    obtain ⟨frames', messages', hreceived, hfront, hfew⟩ :=
      shape_of_append (hqueued.symm.trans hshape)
    exact ⟨frames', messages', hreceived, hfront.trans hahead, hfew.trans hmessages⟩
  · rw [h.reports]
    cases t.state.reported? <;> simp
  · rw [h.reports, Option.mem_toList] at hmem
    exact outcome?_of_reported? hmem

/-- What a consumer gets that does not stop to ask: the end, with the outcome
reported, or all frames of a source that stalls and is given all the time it wants. -/
theorem Run.Attended.tells_end
    {r : Run}
    (h : r.Attended)
    (hcapacity : 0 < s.capacity)
    (hbooks : ∀ n, Balanced source s (r.seen n)) :
    (∃ n outcome, (r.seen n).sawEnd = true ∧ (r.seen n).reports = [outcome]) ∨
      s.idle = none ∧ source.ending = .stalled ∧
        ∃ n, (r.seen n).received = source.frames.map .frame := by
  obtain ⟨n, hwaited, hquiet, hqueue, hhere, hend⟩ := h.exists_waiting
  have hbook := hbooks n
  rcases h.reported_or_stalled hwaited hquiet (hbook.capacity ▸ hcapacity) hqueue hhere with
    hreported | ⟨⟨since, hphase⟩, hnext, hidle⟩
  · obtain ⟨outcome, hreported⟩ := Option.isSome_iff_exists.1 hreported
    obtain ⟨k, hk, hsaw⟩ := hend (Option.isSome_of_eq_some (outcome?_of_reported? hreported))
    have hlater : (r.seen k).state.reported? = some outcome := by
      rw [(hwaited k hk).state]
      exact hreported
    exact .inl ⟨k, outcome, hsaw, by rw [(hbooks k).reports, hlater, Option.toList_some]⟩
  · obtain ⟨hframes, hending⟩ := Source.stalls_of_next?_eq_none hnext
    obtain ⟨frames, -, hstage⟩ := hbook.stage
    rw [hphase] at hstage
    obtain ⟨hqueued, -, hall, hlast⟩ := hstage
    have hreceived := hbook.here hhere
    rw [hqueue, List.append_nil, hqueued] at hreceived
    refine .inr ⟨hbook.idle.symm.trans hidle, hlast.trans hending, n, ?_⟩
    rw [← hreceived, hall, hframes, List.append_nil]

/-- A transfer is faithful at every moment, tells a consumer that keeps asking the
end, and reports its outcome. -/
theorem faithful_of_start?
    {frames : Nat} {idle : Option Span}
    (hstart : start? frames idle source = some s) :
    (∀ t, Transcript.Leads { state := s } t → Faithful source { state := s } t) ∧
      ∀ r : Run, r.seen 0 = { state := s } → r.Attended →
        (∃ n outcome, (r.seen n).sawEnd = true ∧ (r.seen n).reports = [outcome]) ∨
          idle = none ∧ source.ending = .stalled ∧
            ∃ n, (r.seen n).received = source.frames.map .frame := by
  unfold start? at hstart
  split at hstart
  · have hcapacity : 0 < s.capacity := by
      cases hstart
      exact Nat.le_max_left 1 frames
    have hbooks : ∀ t, Transcript.Leads { state := s } t → Balanced source s t := by
      rintro t ⟨events, hrun⟩
      cases hstart
      exact balanced_run? (balanced_start source (queueFor frames) idle) hrun
    refine ⟨fun t hleads => faithful_of_books hbooks (by cases hstart; rfl) hleads,
      fun r hfirst h => ?_⟩
    have htells := h.tells_end hcapacity fun n => hbooks _ (hfirst ▸ r.leads n)
    cases hstart
    exact htells
  · cases hstart

/-- A transfer whose source says nothing for a while behind its first frame. -/
def pausing : State where
  capacity := 1
  idle := some (.ofMillis 50)
  source := [.frame (.data "abc"), .pause 100, .fail "reset"]

/-- The consumer gets the frame, the error and the end, and the report says so. -/
theorem faithful_of_start?_pausing :
    start? 1 (some (.ofMillis 50)) pausing.source = some pausing ∧
      (∃ t, Transcript.Leads { state := pausing } t ∧
        t.received = [.frame (.data "abc"), .error (idleMessage (.ofMillis 50))] ∧
          t.sawEnd = true ∧ t.reports = [.timedOut 3 (.ofMillis 50)] ∧
            Faithful pausing.source { state := pausing } t) ∧
        ∃ r : Run, r.seen 0 = { state := pausing } ∧ r.Attended ∧
          ∃ n outcome, (r.seen n).sawEnd = true ∧ (r.seen n).reports = [outcome] := by
  obtain ⟨hfaithful, htells⟩ :=
    faithful_of_start? (show start? 1 (some (.ofMillis 50)) pausing.source = some pausing from rfl)
  have hleads : Transcript.Leads { state := pausing } _ :=
    ⟨[.act .read, .act .push, .poll, .passTo 50, .act .expire, .act .push, .poll, .poll,
      .act .report], rfl⟩
  obtain ⟨r, hfirst, h⟩ := exists_attended (t := { state := pausing }) rfl
  refine ⟨rfl, ⟨_, hleads, rfl, rfl, rfl, hfaithful _ hleads⟩, r, hfirst, h, ?_⟩
  rcases htells r hfirst h with hend | ⟨hidle, -⟩
  · exact hend
  · cases hidle

end Main

end Transfer
end SidecarProxy
