import Mathlib.Order.WellFounded
import SidecarProxy.Proofs.Transfer.Books
import SidecarProxy.Transfer.Run

/-!
# Attended transfers

A run without end in which the consumer keeps asking, the transfer is not kept
from moving for ever and time passes.  Every event but the passing of time uses
up work, so in the end nothing is left to do.  Main statements: such a run tells
its consumer the end and reports its outcome or waits for a source that stalls,
and every transfer has such a run.
-/

namespace SidecarProxy
namespace Transfer

/-- A run without end. -/
structure Run where
  seen : Nat → Transcript
  event : Nat → Event
  step : ∀ n, (seen n).step? (event n) = some (seen (n + 1))

/-- The transcript behind so many events, each of which is chosen at its time. -/
def Transcript.follow (t : Transcript) (next : Nat → Transcript → Event) : Nat → Transcript
  | 0 => t
  | n + 1 => ((t.follow next n).step? (next n (t.follow next n))).getD (t.follow next n)

/-- A run in which the consumer keeps asking and the transfer is let to move. -/
structure Run.Attended (r : Run) : Prop where
  stays : ∀ n, r.event n ≠ .leave
  polls : ∀ n, ∃ k, n ≤ k ∧ r.event k = .poll
  moves :
    ∀ n, ∃ k, n ≤ k ∧ ((∃ m, r.event k = .act m) ∨ ∀ m, (r.seen k).state.move? m = none)
  passes : ∀ time, ∃ n, time ≤ (r.seen n).state.now

section Rest

variable {t t' t'' : Transcript} {e : Event}

/-- Between two transcripts nothing but time has passed for the transfer. -/
structure Waited (t t' : Transcript) : Prop where
  state : t'.state = { t.state with now := t'.state.now }
  now : t.state.now ≤ t'.state.now
  received : t'.received = t.received
  queued : t'.queued = t.queued

theorem Waited.refl
    (t : Transcript) :
    Waited t t :=
  ⟨rfl, Nat.le_refl _, rfl, rfl⟩

theorem Waited.trans
    (h : Waited t t') (h' : Waited t' t'') :
    Waited t t'' := by
  refine ⟨?_, h.now.trans h'.now, h'.received.trans h.received, h'.queued.trans h.queued⟩
  rw [h'.state, h.state]

theorem work_le_of_step?
    (h : t.step? e = some t') :
    t'.state.work ≤ t.state.work := by
  cases Transcript.stepped_of_step? h with
  | act hmove =>
      exact Nat.le_of_lt (work_lt_of_step hmove)
  | take hhere hqueue =>
      simp only [State.work, hqueue, List.length_cons]
      omega
  | wait =>
      exact Nat.le_refl _
  | leave =>
      simp only [State.work, State.leave, List.length_nil]
      omega
  | passTo time =>
      exact Nat.le_refl _

theorem now_le_of_step?
    (h : t.step? e = some t') :
    t.state.now ≤ t'.state.now := by
  cases Transcript.stepped_of_step? h with
  | act hmove =>
      exact Nat.le_of_eq (frame_step hmove).2.2.2.symm
  | passTo time =>
      exact Nat.le_max_left _ _
  | _ =>
      exact Nat.le_refl _

theorem waited_of_work_le
    (h : t.step? e = some t')
    (hstay : e ≠ .leave)
    (hwork : t.state.work ≤ t'.state.work) :
    Waited t t' ∧ ∀ m, e ≠ .act m := by
  cases Transcript.stepped_of_step? h with
  | act hmove =>
      exact absurd hwork (Nat.not_le_of_lt (work_lt_of_step hmove))
  | take hhere hqueue =>
      simp only [State.work, hqueue, List.length_cons] at hwork
      omega
  | wait hhere hqueue =>
      exact ⟨⟨rfl, Nat.le_refl _, rfl, rfl⟩, by simp⟩
  | leave =>
      exact absurd rfl hstay
  | passTo time =>
      exact ⟨⟨rfl, Nat.le_max_left _ _, rfl, rfl⟩, by simp⟩

/-- A consumer that asks in vain is there, and is told the end if there is one. -/
theorem polled_of_work_le
    (h : t.step? .poll = some t')
    (hwork : t.state.work ≤ t'.state.work) :
    t.state.queue = [] ∧ t.state.consumerGone = false ∧
      (t.state.outcome?.isSome → t'.sawEnd = true) := by
  cases Transcript.stepped_of_step? h with
  | take hhere hqueue =>
      simp only [State.work, hqueue, List.length_cons] at hwork
      omega
  | wait hhere hqueue =>
      exact ⟨hqueue, hhere, fun hended => by simp [hended]⟩

end Rest

section Runs

/-- What every event keeps holds from some moment on. -/
theorem Run.keeps
    {P : Transcript → Prop}
    (hstep : ∀ {t t' e}, P t → t.step? e = some t' → P t')
    {r : Run} {n k : Nat}
    (hn : P (r.seen n))
    (hk : n ≤ k) :
    P (r.seen k) := by
  induction k, hk using Nat.le_induction with
  | base =>
      exact hn
  | succ k hk ih =>
      exact hstep ih (r.step k)

theorem Run.leads
    (r : Run) (n : Nat) :
    (r.seen 0).Leads (r.seen n) :=
  Run.keeps (fun hleads hstep => hleads.step hstep) (.refl (r.seen 0)) (Nat.zero_le n)

/-- Events that can always be chosen make a run. -/
theorem exists_run
    {t : Transcript}
    (next : Nat → Transcript → Event)
    {P : Nat → Transcript → Prop}
    (hstart : P 0 t)
    (hnext : ∀ n t, P n t → ∃ t', t.step? (next n t) = some t' ∧ P (n + 1) t') :
    ∃ r : Run, r.seen 0 = t ∧ ∀ n, r.event n = next n (r.seen n) := by
  have hstep : ∀ n, P n (t.follow next n) →
      (t.follow next n).step? (next n (t.follow next n)) = some (t.follow next (n + 1)) ∧
        P (n + 1) (t.follow next (n + 1)) := by
    intro n hn
    obtain ⟨t', ht', hafter⟩ := hnext n _ hn
    simpa [Transcript.follow, ht'] using hafter
  have hall : ∀ n, P n (t.follow next n) := by
    intro n
    induction n with
    | zero =>
        exact hstart
    | succ n ih =>
        exact (hstep n ih).2
  exact ⟨⟨t.follow next, _, fun n => (hstep n (hall n)).1⟩, rfl, fun _ => rfl⟩

end Runs

section Ends

variable {r : Run}

/-- From some moment on no work is used up. -/
theorem Run.exists_work_le
    (r : Run) :
    ∃ n, ∀ k, n ≤ k → (r.seen k).state.work ≤ (r.seen (k + 1)).state.work := by
  let work := fun k => (r.seen k).state.work
  have hdown : Antitone work := antitone_nat_of_succ_le fun k => work_le_of_step? (r.step k)
  exact ⟨Function.argmin work, fun k hk =>
    (hdown hk).trans (Function.argmin_le work (k + 1))⟩

/-- From some moment on the transfer only waits, and its consumer asks in vain. -/
theorem Run.Attended.exists_waiting
    (h : r.Attended) :
    ∃ n, (∀ k, n ≤ k → Waited (r.seen n) (r.seen k)) ∧
      (∀ k, n ≤ k → ∀ m, r.event k ≠ .act m) ∧
      (r.seen n).state.queue = [] ∧ (r.seen n).state.consumerGone = false ∧
      ((r.seen n).state.outcome?.isSome → ∃ k, n ≤ k ∧ (r.seen k).sawEnd = true) := by
  obtain ⟨n, hn⟩ := r.exists_work_le
  have hstep := fun k (hk : n ≤ k) =>
    waited_of_work_le (r.step k) (h.stays k) (hn k hk)
  have hwaited : ∀ k, n ≤ k → Waited (r.seen n) (r.seen k) := by
    intro k hk
    induction k, hk using Nat.le_induction with
    | base =>
        exact .refl _
    | succ k hk ih =>
        exact ih.trans (hstep k hk).1
  obtain ⟨k, hk, hpoll⟩ := h.polls n
  obtain ⟨hqueue, hhere, hend⟩ := polled_of_work_le (hpoll ▸ r.step k) (hn k hk)
  rw [(hwaited k hk).state] at hqueue hhere hend
  exact ⟨n, hwaited, fun k hk => (hstep k hk).2, hqueue, hhere,
    fun hended => ⟨k + 1, hk.trans (Nat.le_succ k), hend hended⟩⟩

/-- A transfer whose consumer asks in vain has reported its outcome, or reads a
source that stalls. -/
theorem Run.Attended.reported_or_stalled
    {n : Nat}
    (h : r.Attended)
    (hwaited : ∀ k, n ≤ k → Waited (r.seen n) (r.seen k))
    (hquiet : ∀ k, n ≤ k → ∀ m, r.event k ≠ .act m)
    (hcapacity : 0 < (r.seen n).state.capacity)
    (hqueue : (r.seen n).state.queue = [])
    (hhere : (r.seen n).state.consumerGone = false) :
    (r.seen n).state.reported?.isSome ∨ (r.seen n).state.Stalled := by
  rcases progress hcapacity hqueue hhere with hreported | hstalled | ⟨time, htime⟩
  · exact .inl hreported
  · exact .inr hstalled
  · -- The transfer is let to move once that time has come.
    obtain ⟨j, hj⟩ := h.passes time
    obtain ⟨k, hk, hmoves⟩ := h.moves (max n j)
    have hfrom : n ≤ k := (Nat.le_max_left n j).trans hk
    have hlater : (r.seen j).state.now ≤ (r.seen k).state.now :=
      monotone_nat_of_le_succ (fun k => now_le_of_step? (r.step k))
        ((Nat.le_max_right n j).trans hk)
    obtain ⟨m, s, hmove⟩ := htime _ (hj.trans hlater)
    rw [← (hwaited k hfrom).state] at hmove
    rcases hmoves with ⟨m', hact⟩ | hnone
    · exact absurd hact (hquiet k hfrom m')
    · exact absurd hmove (not_step_of_move?_eq_none hnone)

end Ends

section Turns

/-- What happens next when all take turns: the transfer moves if it can, the
consumer asks, and time passes. -/
def Transcript.turn (t : Transcript) (n : Nat) : Event :=
  match n % 3 with
  | 0 =>
    match preference.find? fun m => (t.state.move? m).isSome with
    | some m => .act m
    | none => .passTo t.state.now
  | 1 => .poll
  | _ => .passTo (t.state.now + 1)

variable {t t' : Transcript} {e : Event}

theorem turn_ne_leave
    (t : Transcript) (n : Nat) :
    t.turn n ≠ .leave := by
  unfold Transcript.turn
  split
  · split <;> simp
  · simp
  · simp

theorem turn_moves
    {n : Nat}
    (hn : n % 3 = 0) :
    (∃ m, t.turn n = .act m) ∨ ∀ m, t.state.move? m = none := by
  simp only [Transcript.turn, hn]
  split
  · next m hfind =>
      exact .inl ⟨m, rfl⟩
  · next hfind =>
      refine .inr fun m => ?_
      have hmem : m ∈ preference := by
        cases m <;> simp [preference]
      simpa using List.find?_eq_none.1 hfind m hmem

theorem consumerGone_of_step?
    (h : t.step? e = some t')
    (hstay : e ≠ .leave) :
    t'.state.consumerGone = t.state.consumerGone := by
  cases Transcript.stepped_of_step? h with
  | act hmove =>
      exact (frame_step hmove).2.2.1
  | leave =>
      exact absurd rfl hstay
  | _ =>
      rfl

/-- Only the turn of the consumer needs a consumer. -/
theorem exists_step?_turn
    {n : Nat}
    (h : t.state.consumerGone = false ∨ n % 3 = 0) :
    ∃ t', t.step? (t.turn n) = some t' := by
  unfold Transcript.turn
  split
  · split
    · next m hfind =>
        have hsome : (t.state.move? m).isSome = true := by
          simpa using List.find?_some hfind
        obtain ⟨s, hs⟩ := Option.isSome_iff_exists.1 hsome
        exact ⟨t.moved s, by simp [Transcript.step?, hs]⟩
    · exact ⟨_, rfl⟩
  · next hn =>
      have hhere : t.state.consumerGone = false := h.resolve_right (by omega)
      exact ⟨t.polled, by simp [Transcript.step?, hhere]⟩
  · exact ⟨_, rfl⟩

/-- With every third turn some time has passed. -/
theorem le_now_of_turns
    {r : Run}
    (hturns : ∀ n, r.event n = (r.seen n).turn n)
    (n : Nat) :
    n ≤ (r.seen (3 * n)).state.now := by
  induction n with
  | zero =>
      exact Nat.zero_le _
  | succ n ih =>
      have hmove := now_le_of_step? (r.step (3 * n))
      have hpoll := now_le_of_step? (r.step (3 * n + 1))
      have hpass := r.step (3 * n + 2)
      have hturn : r.event (3 * n + 2) = .passTo ((r.seen (3 * n + 2)).state.now + 1) := by
        simp [hturns, Transcript.turn]
      rw [hturn] at hpass
      have hnow : (r.seen (3 * n + 2)).state.now + 1 ≤ (r.seen (3 * n + 3)).state.now := by
        rw [← Option.some.inj hpass]
        exact Nat.le_max_right _ _
      exact (Nat.succ_le_succ (ih.trans (hmove.trans hpoll))).trans hnow

/-- Every transfer with a consumer has an attended run. -/
theorem exists_attended
    (hhere : t.state.consumerGone = false) :
    ∃ r : Run, r.seen 0 = t ∧ r.Attended := by
  obtain ⟨r, hfirst, hturns⟩ := exists_run (fun n t => t.turn n)
    (P := fun _ t => t.state.consumerGone = false) hhere fun n t hhere => by
      obtain ⟨t', ht'⟩ := exists_step?_turn (n := n) (.inl hhere)
      exact ⟨t', ht', (consumerGone_of_step? ht' (turn_ne_leave t n)).trans hhere⟩
  refine ⟨r, hfirst, fun n => ?_, fun n => ?_, fun n => ?_, fun n => ?_⟩
  · rw [hturns]
    exact turn_ne_leave _ n
  · exact ⟨3 * n + 1, by omega, by simp [hturns, Transcript.turn]⟩
  · refine ⟨3 * n, by omega, ?_⟩
    rw [hturns]
    exact turn_moves (Nat.mul_mod_right 3 n)
  · exact ⟨3 * n, le_now_of_turns hturns n⟩

end Turns

end Transfer
end SidecarProxy
