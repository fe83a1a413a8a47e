import SidecarProxy.Proofs.Transfer.Delivery

/-!
# The report of a transfer

The outcome of a transfer is reported behind the end of its queue.  A transfer
whose queue is closed, or whose consumer has left, has nobody left to wait for.
Main statement: a transfer that was read to its end or abandoned and is let to
move reports one outcome, and nothing is reported ever after.
-/

namespace SidecarProxy
namespace Transfer

section Kept

variable {t t' : Transcript} {e : Event}

/-- What was reported stays as it was reported. -/
theorem reported?_of_step?
    {outcome : Outcome}
    (hreported : t.state.reported? = some outcome)
    (h : t.step? e = some t') :
    t'.state.reported? = some outcome := by
  cases Transcript.stepped_of_step? h with
  | act hmove =>
      exact absurd hmove (not_step_of_reported hreported)
  | _ =>
      exact hreported

theorem Run.reported?_of_le
    {r : Run} {outcome : Outcome} {n k : Nat}
    (hreported : (r.seen n).state.reported? = some outcome)
    (hk : n ≤ k) :
    (r.seen k).state.reported? = some outcome :=
  Run.keeps (P := fun t => t.state.reported? = some outcome) reported?_of_step? hreported hk

end Kept

section Over

variable {s : State} {t t' : Transcript} {e : Event}

/-- A transfer that waits for nobody: its consumer has left, or its queue is closed. -/
def State.Over (s : State) : Prop :=
  s.consumerGone = true ∨ s.outcome?.isSome = true

theorem exists_step_of_over
    (hover : s.Over)
    (hunreported : s.reported? = none) :
    ∃ m s', Step s m s' := by
  have hgone : s.outcome? = none → s.consumerGone = true := by
    intro hopen
    rcases hover with hgone | hclosed
    · exact hgone
    · rw [hopen] at hclosed
      cases hclosed
  cases hphase : s.phase with
  | reading since =>
      exact ⟨.notice, _, .notice hphase (hgone (by simp [State.outcome?, hphase]))⟩
  | sending f =>
      exact ⟨.discard, _, .discardFrame hphase (hgone (by simp [State.outcome?, hphase]))⟩
  | failing message outcome =>
      exact ⟨.discard, _, .discardError hphase (hgone (by simp [State.outcome?, hphase]))⟩
  | finished outcome reported =>
      cases reported with
      | false =>
          exact ⟨.report, _, .report hphase⟩
      | true =>
          rw [reported?_eq_some_iff.2 hphase] at hunreported
          cases hunreported

/-- A consumer that has left does not come back, and a queue that is closed stays closed. -/
theorem over_of_step?
    (hover : t.state.Over)
    (h : t.step? e = some t') :
    t'.state.Over := by
  cases Transcript.stepped_of_step? h with
  | act hmove =>
      rcases hover with hgone | hclosed
      · exact .inl ((frame_step hmove).2.2.1.trans hgone)
      · obtain ⟨outcome, houtcome⟩ := Option.isSome_iff_exists.1 hclosed
        obtain ⟨reported, hphase⟩ := outcome?_eq_some_iff.1 houtcome
        obtain ⟨-, rfl⟩ := eq_report_of_finished hphase hmove
        exact .inr rfl
  | leave =>
      exact .inl rfl
  | _ =>
      exact hover

theorem work_lt_of_act
    {m : Move}
    (h : t.step? (.act m) = some t') :
    t'.state.work < t.state.work := by
  cases Transcript.stepped_of_step? h with
  | act hmove =>
      exact work_lt_of_step hmove

end Over

section Released

variable {r : Run}

/-- A run in which the consumer is told the end or leaves, and the transfer is let to move. -/
structure Run.Released (r : Run) : Prop where
  released : ∃ n, (r.seen n).sawEnd = true ∨ (r.seen n).state.consumerGone = true
  moves :
    ∀ n, ∃ k, n ≤ k ∧ ((∃ m, r.event k = .act m) ∨ ∀ m, (r.seen k).state.move? m = none)

/-- Once no work is used up any more, nothing can be left to do. -/
theorem Run.Released.exists_reported
    {source : Source} {s : State}
    (h : r.Released)
    (hbooks : ∀ n, Balanced source s (r.seen n)) :
    ∃ n outcome, (r.seen n).state.reported? = some outcome := by
  obtain ⟨left, hleft⟩ := h.released
  have hover : (r.seen left).state.Over := by
    rcases hleft with hsaw | hgone
    · obtain ⟨-, outcome, houtcome, -⟩ := (hbooks left).ended hsaw
      exact .inr (Option.isSome_of_eq_some houtcome)
    · exact .inl hgone
  obtain ⟨rest, hrest⟩ := r.exists_work_le
  obtain ⟨k, hk, hmoves⟩ := h.moves (max left rest)
  have hover : (r.seen k).state.Over :=
    Run.keeps (P := fun t => t.state.Over) over_of_step? hover
      ((Nat.le_max_left left rest).trans hk)
  rcases hmoves with ⟨m, hact⟩ | hnone
  · have hless := work_lt_of_act (hact ▸ r.step k)
    exact absurd hless (Nat.not_lt_of_le (hrest k ((Nat.le_max_right left rest).trans hk)))
  · refine ⟨k, Option.ne_none_iff_exists'.1 fun hunreported => ?_⟩
    obtain ⟨m, s', hmove⟩ := exists_step_of_over hover hunreported
    exact not_step_of_move?_eq_none hnone hmove

theorem balanced_of_start?
    {frames : Nat} {idle : Option Span} {source : Source} {s : State}
    (hstart : start? frames idle source = some s) :
    s = { capacity := queueFor frames, idle := idle, source := source } ∧
      ∀ t, Transcript.Leads { state := s } t → Balanced source s t := by
  unfold start? at hstart
  split at hstart
  · cases hstart
    refine ⟨rfl, ?_⟩
    rintro t ⟨events, hrun⟩
    exact balanced_run? (balanced_start source (queueFor frames) idle) hrun
  · cases hstart

/-- A consumer that keeps asking is told the end, when the source is given no time without end. -/
theorem Run.Attended.released
    {source : Source} {s : State}
    (h : r.Attended)
    (hcapacity : 0 < s.capacity)
    (hidle : s.idle ≠ none)
    (hbooks : ∀ n, Balanced source s (r.seen n)) :
    r.Released := by
  rcases h.tells_end hcapacity hbooks with ⟨n, outcome, hsaw, -⟩ | ⟨hnone, -⟩
  · exact ⟨⟨n, .inl hsaw⟩, h.moves⟩
  · exact absurd hnone hidle

/-- A transfer that is read to its end or abandoned reports one outcome, and nothing more. -/
theorem Run.reports_once
    {frames : Nat} {idle : Span} {source : Source} {s : State}
    (hstart : start? frames (some idle) source = some s)
    (hfirst : r.seen 0 = { state := s })
    (h : r.Attended ∨ r.Released) :
    ∃ n outcome, ∀ k, n ≤ k → (r.seen k).reports = [outcome] := by
  obtain ⟨hs, hleads⟩ := balanced_of_start? hstart
  have hbooks : ∀ n, Balanced source s (r.seen n) := fun n => hleads _ (hfirst ▸ r.leads n)
  have hcapacity : 0 < s.capacity := hs ▸ Nat.le_max_left 1 frames
  have hidle : s.idle ≠ none := hs ▸ Option.some_ne_none idle
  have hreleased : r.Released := h.elim (·.released hcapacity hidle hbooks) id
  obtain ⟨n, outcome, hreported⟩ := hreleased.exists_reported hbooks
  refine ⟨n, outcome, fun k hk => ?_⟩
  rw [(hbooks k).reports, Run.reported?_of_le hreported hk, Option.toList_some]

/-- Every transfer with a consumer may be abandoned. -/
theorem exists_abandoned
    {t : Transcript}
    (hhere : t.state.consumerGone = false) :
    ∃ r : Run, r.seen 0 = t ∧ r.event 0 = .leave ∧ r.Released := by
  -- Behind the first event the transfer is left to itself and moves if it can.
  obtain ⟨r, hfirst, hevents⟩ := exists_run (fun n t => if n = 0 then .leave else t.turn 0)
    (P := fun n t => n = 0 → t.state.consumerGone = false) (fun _ => hhere) fun n t hn => by
      by_cases hzero : n = 0
      · exact ⟨{ t with state := t.state.leave }, by simp [hzero, Transcript.step?, hn hzero], nofun⟩
      · obtain ⟨t', ht'⟩ := exists_step?_turn (t := t) (n := 0) (.inr rfl)
        exact ⟨t', by simpa [hzero] using ht', nofun⟩
  have hleave : r.event 0 = .leave := hevents 0
  have hgone : (r.seen 1).state.consumerGone = true := by
    have hstep := r.step 0
    simp only [hleave, hfirst, Transcript.step?, hhere] at hstep
    rw [← Option.some.inj hstep]
    rfl
  refine ⟨r, hfirst, hleave, ⟨1, .inr hgone⟩, fun n => ⟨n + 1, Nat.le_succ n, ?_⟩⟩
  rw [hevents]
  exact turn_moves (t := r.seen (n + 1)) (n := 0) rfl

end Released

end Transfer
end SidecarProxy
