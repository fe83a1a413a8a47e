import Mathlib.Data.List.Basic
import Mathlib.Data.List.Induction
import SidecarProxy.StopSignal

/-!
# Who hears the stop signal

All handles of a stop signal share one channel, so what happens to it is one
list of uses, whoever makes them.  Main statement: the next receive of a
receiver completes exactly when a trigger came after it subscribed and it has
not received the signal since.  So a task that subscribed in time is always
stopped, and one that subscribes after the last trigger waits for ever.
-/

namespace SidecarProxy
namespace StopSignal

/-- A use of a stop signal. -/
inductive Act where
  | subscribe
  | trigger
  | receive (id : Nat)
  | drop (id : Nat)
  deriving DecidableEq, Repr

/-- The signal after a use; a receiver that is not there cannot be used. -/
def act (s : StopSignal) : Act → StopSignal
  | .subscribe => s.subscribe
  | .trigger => s.trigger
  | .receive id => ((s.receive? id).map (·.2)).getD s
  | .drop id => (s.drop? id).getD s

/-- A new signal after some uses. -/
def after (acts : List Act) : StopSignal :=
  acts.foldl act {}

/-- What the next receive of a receiver finds. -/
def finds? (s : StopSignal) (id : Nat) : Option Received :=
  (s.receive? id).map (·.1)

/-- The message that a receiver reads next, as long as it listens. -/
def next? (s : StopSignal) (id : Nat) : Option Nat :=
  s.receivers[id]?.join

/-- A receiver that was handed out and not dropped. -/
def Listens (s : StopSignal) (id : Nat) : Prop :=
  (s.next? id).isSome

/-- The next receive of a receiver does not wait. -/
def Completes (s : StopSignal) (id : Nat) : Prop :=
  (s.finds? id).any (· ≠ .empty)

instance (s : StopSignal) (id : Nat) : Decidable (s.Listens id) :=
  inferInstanceAs (Decidable (_ = true))

instance (s : StopSignal) (id : Nat) : Decidable (s.Completes id) :=
  inferInstanceAs (Decidable (_ = true))

/-- The number of receivers handed out; it is the id of the next one. -/
def handedOut (acts : List Act) : Nat :=
  acts.count .subscribe

/-- A trigger came after a receiver subscribed, and the receiver has not received the signal
since. -/
def Reached (acts : List Act) (id : Nat) : Prop :=
  ∃ before rest, acts = before ++ .trigger :: rest ∧ id < handedOut before ∧
    ∀ early late, rest = early ++ .receive id :: late →
      (after (before ++ .trigger :: early)).finds? id ≠ some .signal

section Uses

variable {s : StopSignal} {id other n : Nat} {acts : List Act} {a : Act}

theorem after_snoc
    (acts : List Act) (a : Act) :
    after (acts ++ [a]) = (after acts).act a :=
  List.foldl_append

theorem handedOut_snoc
    (acts : List Act) (a : Act) :
    handedOut (acts ++ [a]) = handedOut acts + if a = .subscribe then 1 else 0 := by
  simp [handedOut, List.count_append, List.count_singleton]

theorem next?_subscribe
    (s : StopSignal) (id : Nat) :
    s.subscribe.next? id = if id = s.receivers.length then some s.sent else s.next? id := by
  unfold next? subscribe
  rcases Nat.lt_trichotomy id s.receivers.length with hlt | rfl | hgt
  · simp [List.getElem?_append_left hlt, Nat.ne_of_lt hlt]
  · simp
  · simp [Nat.ne_of_gt hgt, List.getElem?_eq_none (Nat.le_of_lt hgt),
      List.getElem?_eq_none (l := s.receivers ++ [some s.sent]) (i := id) (by simp; omega)]

theorem next?_trigger
    (s : StopSignal) (id : Nat) :
    s.trigger.next? id = s.next? id := by
  unfold trigger
  split <;> rfl

theorem lt_length_of_next
    (h : s.next? id = some n) :
    id < s.receivers.length :=
  (List.getElem?_eq_some_iff.1 (Option.join_eq_some_iff.1 h)).1

theorem listeners_ne_zero
    (h : s.next? id = some n) :
    s.listeners ≠ 0 := by
  have hmem : some n ∈ s.receivers.filter Option.isSome := by
    rw [List.mem_filter]
    exact ⟨List.mem_of_getElem? (Option.join_eq_some_iff.1 h), rfl⟩
  exact Nat.ne_of_gt (List.length_pos_of_mem hmem)

theorem receive?_of_next
    (h : s.next? id = some n) :
    s.receive? id =
      some ((s.readAt n).1, { s with receivers := s.receivers.set id (some (s.readAt n).2) }) := by
  rw [receive?, Option.join_eq_some_iff.1 h]

theorem receive?_of_not_listening
    (h : s.next? id = none) :
    s.receive? id = none := by
  unfold receive?
  unfold next? at h
  split
  · next hget => simp [hget] at h
  · rfl

theorem drop?_of_next
    (h : s.next? id = some n) :
    s.drop? id = some { s with receivers := s.receivers.set id none } := by
  rw [drop?, Option.join_eq_some_iff.1 h]

theorem drop?_of_not_listening
    (h : s.next? id = none) :
    s.drop? id = none := by
  unfold drop?
  unfold next? at h
  split
  · next hget => simp [hget] at h
  · rfl

theorem finds?_of_next
    (h : s.next? id = some n) :
    s.finds? id = some (s.readAt n).1 := by
  rw [finds?, receive?_of_next h]
  rfl

/-- What a receive finds says how much was unread, and at most one message stays unread. -/
theorem readAt_cases
    (h : n ≤ s.sent) :
    (n = s.sent ∧ s.readAt n = (.empty, s.sent)) ∨
      (n < s.sent ∧ s.readAt n = (.signal, s.sent)) ∨
        ∃ missed, n < s.sent ∧ s.readAt n = (.lagged missed, s.sent - 1) := by
  unfold readAt
  by_cases hempty : n = s.sent
  · exact Or.inl ⟨hempty, by simp [hempty]⟩
  by_cases hlast : n + 1 = s.sent
  · exact Or.inr (Or.inl ⟨by omega, by simp [hempty, hlast]⟩)
  · exact Or.inr (Or.inr ⟨s.sent - 1 - n, by omega, by simp [hempty, hlast]⟩)

theorem next?_set
    {next : Option Nat}
    (hlistens : s.next? id = some n) :
    ({ s with receivers := s.receivers.set id next } : StopSignal).next? other =
      if other = id then next else s.next? other := by
  have hlt := lt_length_of_next hlistens
  unfold next?
  rw [List.getElem?_set]
  by_cases hsame : other = id
  · subst hsame
    simp [hlt]
  · simp [hsame, Ne.symm hsame]

/-- A receive moves only the receiver that makes it. -/
theorem next?_receive
    (s : StopSignal) (other id : Nat) :
    (s.act (.receive other)).next? id =
      if id = other then (s.next? id).map fun n => (s.readAt n).2 else s.next? id := by
  rw [act]
  cases hother : s.next? other with
  | none =>
      rw [receive?_of_not_listening hother, Option.map_none, Option.getD_none]
      split
      · next hsame => rw [hsame, hother, Option.map_none]
      · rfl
  | some n =>
      rw [receive?_of_next hother, Option.map_some, Option.getD_some, next?_set hother]
      split
      · next hsame => rw [hsame, hother, Option.map_some]
      · rfl

theorem next?_drop
    (s : StopSignal) (other id : Nat) :
    (s.act (.drop other)).next? id = if id = other then none else s.next? id := by
  rw [act]
  cases hother : s.next? other with
  | none =>
      rw [drop?_of_not_listening hother, Option.getD_none]
      split
      · next hsame => rw [hsame, hother]
      · rfl
  | some n =>
      rw [drop?_of_next hother, Option.getD_some, next?_set hother]

/-- What a use means to one receiver, with the message that it reads next afterwards. -/
inductive Acted (s : StopSignal) (id : Nat) : Act → Nat → Prop
  | subscribed
      (hnew : id = s.receivers.length) :
      Acted s id .subscribe s.sent
  | triggered
      {n : Nat}
      (hnext : s.next? id = some n) :
      Acted s id .trigger n
  | received
      {n : Nat}
      (hnext : s.next? id = some n) :
      Acted s id (.receive id) (s.readAt n).2
  | untouched
      {a : Act} {n : Nat}
      (hnext : s.next? id = some n)
      (htrigger : a ≠ .trigger)
      (hreceive : a ≠ .receive id) :
      Acted s id a n

theorem acted_of_next
    (h : (s.act a).next? id = some n) :
    s.Acted id a n := by
  cases a with
  | subscribe =>
      rw [act, next?_subscribe] at h
      split at h
      · next hnew =>
        cases h
        exact .subscribed hnew
      · exact .untouched h (by simp) (by simp)
  | trigger =>
      rw [act, next?_trigger] at h
      exact .triggered h
  | receive other =>
      rw [next?_receive] at h
      split at h
      · next hsame =>
        subst hsame
        obtain ⟨m, hm, rfl⟩ := Option.map_eq_some_iff.1 h
        exact .received hm
      · next hother =>
        exact .untouched h (by simp) (by simp [Ne.symm hother])
  | drop other =>
      rw [next?_drop] at h
      split at h
      · cases h
      · exact .untouched h (by simp) (by simp)

/-- Only a subscription hands out a receiver, and nothing but a trigger sends. -/
theorem act_frame
    (s : StopSignal) (a : Act) :
    (s.act a).receivers.length = s.receivers.length + (if a = .subscribe then 1 else 0) ∧
      (a ≠ .trigger → (s.act a).sent = s.sent) := by
  cases a with
  | subscribe => simp [act, subscribe]
  | trigger =>
      have hsame : s.trigger.receivers = s.receivers := by
        unfold trigger
        split <;> rfl
      simp [act, hsame]
  | receive id =>
      cases hid : s.next? id with
      | none => simp [act, receive?_of_not_listening hid]
      | some n => simp [act, receive?_of_next hid]
  | drop id =>
      cases hid : s.next? id with
      | none => simp [act, drop?_of_not_listening hid]
      | some n => simp [act, drop?_of_next hid]

/-- A trigger sends as long as somebody listens. -/
theorem Acted.sent
    (h : s.Acted id a n) :
    (s.act a).sent = s.sent + if a = .trigger then 1 else 0 := by
  cases h with
  | triggered hnext =>
      rw [act, trigger, if_neg (listeners_ne_zero hnext)]
      rfl
  | subscribed => exact (act_frame s _).2 (by simp)
  | received => exact (act_frame s _).2 (by simp)
  | untouched _ htrigger =>
      rw [if_neg htrigger]
      exact (act_frame s _).2 htrigger

/-- A receiver listens until it is dropped. -/
theorem Listens.act
    (h : s.Listens id)
    (ha : a ≠ .drop id) :
    (s.act a).Listens id := by
  obtain ⟨n, hn⟩ := Option.isSome_iff_exists.1 h
  unfold Listens
  cases a with
  | subscribe =>
      rw [StopSignal.act, next?_subscribe, if_neg (Nat.ne_of_lt (lt_length_of_next hn))]
      exact h
  | trigger =>
      rw [StopSignal.act, next?_trigger]
      exact h
  | receive other =>
      rw [next?_receive, hn]
      split <;> rfl
  | drop other =>
      have hne : id ≠ other := fun heq => ha (by rw [heq])
      rw [next?_drop, if_neg hne]
      exact h

/-- A receive completes as long as something is unread. -/
theorem completes_iff_lt
    (h : s.next? id = some n)
    (hle : n ≤ s.sent) :
    s.Completes id ↔ n < s.sent := by
  unfold Completes
  rw [finds?_of_next h]
  rcases readAt_cases hle with ⟨heq, hread⟩ | ⟨hlt, hread⟩ | ⟨missed, hlt, hread⟩
  · rw [hread]
    simp [heq]
  · rw [hread]
    simp [hlt]
  · rw [hread]
    simp [hlt]

end Uses

section Histories

variable {id n : Nat} {acts : List Act} {a : Act}

theorem snoc_eq_append_cons_iff
    {α : Type} {l before rest : List α} {a b : α} :
    l ++ [a] = before ++ b :: rest
      ↔
    (rest = [] ∧ l = before ∧ a = b) ∨
      ∃ rest', rest = rest' ++ [a] ∧ l = before ++ b :: rest' := by
  rcases List.eq_nil_or_concat' rest with rfl | ⟨rest, c, rfl⟩
  · simp
  · have happend : before ++ b :: (rest ++ [c]) = (before ++ b :: rest) ++ [c] := by simp
    rw [happend]
    constructor
    · intro h
      obtain ⟨rfl, hlast⟩ := List.append_inj' h rfl
      cases hlast
      exact Or.inr ⟨rest, rfl, rfl⟩
    · rintro (⟨hnil, -⟩ | ⟨rest', hrest, rfl⟩)
      · simp at hnil
      · obtain ⟨rfl, hlast⟩ := List.append_inj' hrest rfl
        cases hlast
        rfl

theorem reached_snoc_trigger
    (h : id < handedOut acts) :
    Reached (acts ++ [.trigger]) id :=
  ⟨acts, [], rfl, h, by simp⟩

/-- A use that is no trigger reaches nobody, and only a receive may take the signal. -/
theorem reached_snoc_iff
    (ha : a ≠ .trigger) :
    Reached (acts ++ [a]) id
      ↔
    Reached acts id ∧ (a = .receive id → (after acts).finds? id ≠ some .signal) := by
  constructor
  · rintro ⟨before, rest, hacts, hid, hquiet⟩
    rcases snoc_eq_append_cons_iff.1 hacts with ⟨-, -, rfl⟩ | ⟨rest', rfl, rfl⟩
    · exact absurd rfl ha
    · refine ⟨⟨before, rest', rfl, hid, ?_⟩, ?_⟩
      · rintro early late rfl
        exact hquiet early (late ++ [a]) (by simp)
      · rintro rfl
        exact hquiet rest' [] rfl
  · rintro ⟨⟨before, rest, rfl, hid, hquiet⟩, hlast⟩
    refine ⟨before, rest ++ [a], by simp, hid, ?_⟩
    intro early late hrest
    rcases snoc_eq_append_cons_iff.1 hrest with ⟨-, rfl, rfl⟩ | ⟨late', -, rfl⟩
    · exact hlast rfl
    · exact hquiet early late' rfl

theorem lt_handedOut_of_reached
    (h : Reached acts id) :
    id < handedOut acts := by
  obtain ⟨before, rest, rfl, hid, -⟩ := h
  exact Nat.lt_of_lt_of_le hid ((List.sublist_append_left before _).count_le _)

/-- A history of uses, told by the messages that the receivers read next. -/
structure Told (acts : List Act) : Prop where
  length : (after acts).receivers.length = handedOut acts
  le_sent : ∀ {id n}, (after acts).next? id = some n → n ≤ (after acts).sent
  reached_iff :
    ∀ {id n}, (after acts).next? id = some n → (n < (after acts).sent ↔ Reached acts id)

theorem Told.snoc
    (h : Told acts) (a : Act) :
    Told (acts ++ [a]) where
  length := by
    rw [after_snoc, handedOut_snoc, (act_frame _ a).1, h.length]
  le_sent {id n} hn := by
    rw [after_snoc] at hn ⊢
    have hacted := acted_of_next hn
    rw [hacted.sent]
    cases hacted with
    | subscribed => simp
    | triggered hnext => exact Nat.le_succ_of_le (h.le_sent hnext)
    | received hnext =>
        rcases readAt_cases (h.le_sent hnext) with ⟨-, hread⟩ | ⟨-, hread⟩ | ⟨_, -, hread⟩ <;>
          rw [hread] <;>
          simp
    | untouched hnext => exact Nat.le_add_right_of_le (h.le_sent hnext)
  reached_iff {id n} hn := by
    rw [after_snoc] at hn ⊢
    have hacted := acted_of_next hn
    rw [hacted.sent]
    cases hacted with
    | subscribed hnew =>
        -- Nothing was sent yet that the new receiver could read.
        have hnot : ¬ Reached acts id := fun hreached =>
          Nat.lt_irrefl _ (hnew ▸ h.length ▸ lt_handedOut_of_reached hreached)
        simp [reached_snoc_iff, hnot]
    | triggered hnext =>
        have hlt := lt_length_of_next hnext
        have hle := h.le_sent hnext
        simp only [if_true, reached_snoc_trigger (h.length ▸ hlt), iff_true]
        omega
    | received hnext =>
        rw [reached_snoc_iff (by simp), ← h.reached_iff hnext, finds?_of_next hnext]
        rcases readAt_cases (h.le_sent hnext) with ⟨heq, hread⟩ | ⟨hlt, hread⟩ | ⟨_, hlt, hread⟩
        · rw [hread]
          simp [heq]
        · rw [hread]
          simp
        · rw [hread]
          simp
          omega
    | untouched hnext htrigger hreceive =>
        simp [reached_snoc_iff htrigger, hreceive, htrigger, h.reached_iff hnext]

theorem told
    (acts : List Act) :
    Told acts := by
  induction acts using List.reverseRecOn with
  | nil =>
      refine ⟨rfl, ?_, ?_⟩ <;> simp [after, next?]
  | append_singleton acts a ih => exact ih.snoc a

/-- Every receiver that was handed out and not dropped listens. -/
theorem listens_after
    (hid : id < handedOut acts)
    (hkept : .drop id ∉ acts) :
    (after acts).Listens id := by
  induction acts using List.reverseRecOn with
  | nil => simp [handedOut] at hid
  | append_singleton acts a ih =>
      rw [List.mem_append, List.mem_singleton, not_or] at hkept
      rw [after_snoc]
      by_cases hbefore : id < handedOut acts
      · exact (ih hbefore hkept.1).act (Ne.symm hkept.2)
      · rw [handedOut_snoc] at hid
        have ha : a = .subscribe := by
          by_contra hne
          rw [if_neg hne] at hid
          exact hbefore hid
        have hnew : id = (after acts).receivers.length := by
          rw [(told acts).length]
          rw [if_pos ha] at hid
          omega
        rw [ha, act, Listens, next?_subscribe, if_pos hnew]
        rfl

theorem completes_iff_reached
    (h : (after acts).Listens id) :
    (after acts).Completes id ↔ Reached acts id := by
  obtain ⟨n, hn⟩ := Option.isSome_iff_exists.1 h
  rw [completes_iff_lt hn ((told acts).le_sent hn), (told acts).reached_iff hn]

/-- A receiver that has never read is reached by every trigger since it subscribed. -/
theorem reached_iff_of_unread
    (hunread : .receive id ∉ acts) :
    Reached acts id
      ↔
    ∃ before rest, acts = before ++ .trigger :: rest ∧ id < handedOut before := by
  constructor
  · rintro ⟨before, rest, hacts, hid, -⟩
    exact ⟨before, rest, hacts, hid⟩
  · rintro ⟨before, rest, rfl, hid⟩
    refine ⟨before, rest, rfl, hid, ?_⟩
    rintro early late rfl
    simp at hunread

/-- What others do takes the signal from nobody. -/
theorem Reached.append
    (h : Reached acts id)
    {more : List Act}
    (hunread : .receive id ∉ more) :
    Reached (acts ++ more) id := by
  induction more using List.reverseRecOn with
  | nil => rwa [List.append_nil]
  | append_singleton more a ih =>
      rw [List.mem_append, List.mem_singleton, not_or] at hunread
      rw [← List.append_assoc]
      have hreached := ih hunread.1
      by_cases ha : a = .trigger
      · rw [ha]
        exact reached_snoc_trigger (lt_handedOut_of_reached hreached)
      · rw [reached_snoc_iff ha]
        exact ⟨hreached, fun hreceive => absurd hreceive.symm hunread.2⟩

end Histories

section Main

/-- What a receiver can rely on. -/
structure Hears (acts : List Act) (id : Nat) : Prop where
  completes_iff : (after acts).Completes id ↔ Reached acts id
  /-- The first receive, for which a task waits that is to be stopped. -/
  first_completes_iff :
    .receive id ∉ acts →
      ((after acts).Completes id
        ↔
      ∃ before rest, acts = before ++ .trigger :: rest ∧ id < handedOut before)
  /-- A receive that could complete still can when the task gets to it. -/
  kept :
    (after acts).Completes id → ∀ more, .receive id ∉ more → .drop id ∉ more →
      (after (acts ++ more)).Completes id

/--
The next receive of a receiver that was not dropped completes exactly when a
trigger came after it subscribed and it has not received the signal since.
-/
theorem hears_of_subscribed
    {acts : List Act} {id : Nat}
    (hid : id < handedOut acts)
    (hkept : .drop id ∉ acts) :
    Hears acts id := by
  have hreached := completes_iff_reached (listens_after hid hkept)
  refine ⟨hreached, ?_, ?_⟩
  · intro hunread
    rw [hreached, reached_iff_of_unread hunread]
  · intro hcompletes more hunread hdrop
    have hmore : Reached (acts ++ more) id := (hreached.1 hcompletes).append hunread
    refine (completes_iff_reached (listens_after (lt_handedOut_of_reached hmore) ?_)).2 hmore
    simp [hkept, hdrop]

/-- A receiver that missed one of two signals is told so and then receives the last one, although
another receiver was dropped in between; after that it waits again. -/
theorem hears_of_subscribed_lagging :
    let acts : List Act := [.subscribe, .subscribe, .trigger, .drop 0, .trigger, .receive 1]
    1 < handedOut acts ∧ .drop 1 ∉ acts ∧ Reached acts 1 ∧ ¬ Reached (acts ++ [.receive 1]) 1 :=
  ⟨by decide, by decide,
    (hears_of_subscribed (by decide) (by decide)).completes_iff.1 (by decide),
    mt (hears_of_subscribed (by decide) (by decide)).completes_iff.2 (by decide)⟩

/-- Whoever subscribes behind the last trigger waits for it in vain. -/
theorem not_completes_of_late :
    let acts : List Act := [.subscribe, .subscribe, .trigger, .subscribe]
    2 < handedOut acts ∧ .drop 2 ∉ acts ∧ .receive 2 ∉ acts ∧ .trigger ∈ acts ∧
      (after acts).finds? 2 = some .empty ∧ ¬ (after acts).Completes 2 := by
  decide

end Main

end StopSignal
end SidecarProxy
