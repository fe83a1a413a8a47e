import SidecarProxy.Dispatch.Reply
import SidecarProxy.Proofs.Exchange.HeaderBoundary
import SidecarProxy.Proofs.Transfer.Reported

/-!
# Records of exchanges

An exchange is recorded where it ends: at the failure, at the header of an answer
without a body, or behind the transfer of the body, long after the caller has got
its reply.  Main statement: every request to a URL that can be dialled is answered
exactly when there is room for what is sent and for what comes back, and then the
exchange is recorded once, with the status that the caller gets, and counts as one
request.
-/

namespace SidecarProxy
namespace Dispatch

open Exchange Message Route

section Records

/-- The series of requests that records count for. -/
def requestsCounted (records : List Record) : List Metrics.Series :=
  (records.flatMap Record.events).filterMap fun
    | .count (.requests direction method status) => some (.requests direction method status)
    | _ => none

/-- One record of an exchange, with the chain of ids that its target was sent. -/
structure RecordedOnce (records : List Record) (r : Request) (direction : Direction)
    (moduleId : String) (sent : Sent) (status : Nat) : Prop where
  record :
    ∃ chain outcome,
      records = [{ r.subject direction moduleId chain with status := status, outcome := outcome }] ∧
        sent.headers.valuesOf requestIdName = [chain]
  counted : requestsCounted records = [.requests direction r.method status]

/-- The records that were made when the transfer of the body has made some reports. -/
def recordsMade (x : Exchanged) (reports : List Transfer.Outcome) : List Record :=
  x.records ++ x.pending.toList.flatMap fun pending => reports.map pending.record

/-- The body of the answer, if there is one. -/
def bodyOf (x : Exchanged) : Option Transfer.State :=
  match x.result with
  | .answered a => a.body
  | .failed _ => none
  | .crashed => none

/-- The status that the caller is to get for what becomes of a request. -/
def statusFor (f : Forwarder) (target : Target) (sent : Sent) : Nat :=
  match (awaitWithin f.timeout (target sent)).1 with
  | .ok response => response.status
  | .error (.elapsed _) => 504
  | .error (.failed _) => 502

/-- How an exchange is recorded whose request was sent. -/
structure Settles (x : Exchanged) (r : Request) (direction : Direction) (moduleId : String)
    (sent : Sent) (status : Nat) : Prop where
  replied : (Reply.ofResult? x.result).map (·.status) = some status
  bodiless :
    bodyOf x = none →
      x.pending = none ∧ RecordedOnce x.records r direction moduleId sent status
  meanwhile :
    ∀ body, bodyOf x = some body →
      ∀ t, Transfer.Transcript.Leads { state := body } t →
        x.recordsAt t.state = recordsMade x t.reports ∧ (recordsMade x t.reports).length ≤ 1
  /-- Behind a body that was read to its end or abandoned the record is made in the end. -/
  settled :
    ∀ body, bodyOf x = some body →
      ∀ run : Transfer.Run, run.seen 0 = { state := body } → run.Attended ∨ run.Released →
        ∃ n, ∀ k, n ≤ k →
          RecordedOnce (recordsMade x (run.seen k).reports) r direction moduleId sent status
  /-- Every body may be read to its end, and every body may be abandoned. -/
  possible :
    ∀ body, bodyOf x = some body →
      (∃ run : Transfer.Run, run.seen 0 = { state := body } ∧ run.Attended) ∧
        ∃ run : Transfer.Run,
          run.seen 0 = { state := body } ∧ run.event 0 = .leave ∧ run.Released

/-- There is room for what is sent to a URL, and for the answer if one comes in time. -/
structure Holds (f : Forwarder) (target : Target) (r : Request) (direction : Direction)
    (chain : String) (uri : Uri) : Prop where
  fields : HasRoom direction chain r.headers
  body : (f.transfer? r.body).isSome = true
  back :
    ∀ body, f.transfer? r.body = some body →
      ∀ response,
        (awaitWithin f.timeout (target (f.sending chain direction r uri body))).1 = .ok response →
          response.headers.length ≤ Headers.mostNames ∧ (f.transfer? response.body).isSome = true

end Records

section Settled

variable {f : Forwarder} {target : Target} {r : Request} {direction : Direction}
variable {moduleId chain : String} {sent : Sent}

theorem recordedOnce_singleton
    (hchain : sent.headers.valuesOf requestIdName = [chain])
    (status : Nat) (outcome : Exchange.Outcome) :
    RecordedOnce
      [{ r.subject direction moduleId chain with status := status, outcome := outcome }]
      r direction moduleId sent status :=
  ⟨⟨chain, outcome, rfl, hchain⟩, rfl⟩

/-- An exchange that ended with its reply is recorded with its reply. -/
theorem settles_of_bodiless
    (outcome : Exchange.Outcome)
    {x : Exchanged} {status : Nat}
    (hchain : sent.headers.valuesOf requestIdName = [chain])
    (hreplied : (Reply.ofResult? x.result).map (·.status) = some status)
    (hbody : bodyOf x = none)
    (hpending : x.pending = none)
    (hrecords :
      x.records =
        [{ r.subject direction moduleId chain with status := status, outcome := outcome }]) :
    Settles x r direction moduleId sent status where
  replied := hreplied
  bodiless _ := ⟨hpending, hrecords ▸ recordedOnce_singleton hchain status outcome⟩
  meanwhile _ hsome := by simp [hbody] at hsome
  settled _ hsome := by simp [hbody] at hsome
  possible _ hsome := by simp [hbody] at hsome

/-- An exchange whose answer has a body is recorded at the end of the transfer of that body. -/
theorem settles_of_body
    {response : Response} {headers : Headers} {source : Transfer.Source} {body : Transfer.State}
    (hchain : sent.headers.valuesOf requestIdName = [chain])
    (hstart : Transfer.start? f.queueFrames (some f.timeout) source = some body) :
    Settles
      { result := .answered ⟨response.status, headers, some body⟩
        sent := [sent]
        pending := some { r.subject direction moduleId chain with status := response.status } }
      r direction moduleId sent response.status where
  replied := rfl
  bodiless hnone := by cases hnone
  meanwhile := by
    rintro _ ⟨⟩ t hleads
    have h := (Transfer.balanced_of_start? hstart).2 t hleads
    rw [Exchanged.recordsAt, recordsMade, h.reports]
    cases t.state.reported? <;> simp
  settled := by
    rintro _ ⟨⟩ run hfirst hends
    obtain ⟨n, outcome, hreports⟩ := Transfer.Run.reports_once hstart hfirst hends
    refine ⟨n, fun k hk => ?_⟩
    rw [hreports k hk]
    exact recordedOnce_singleton hchain response.status (.answered outcome)
  possible := by
    rintro _ ⟨⟩
    have hhere : body.consumerGone = false := by
      rw [(Transfer.balanced_of_start? hstart).1]
    exact ⟨Transfer.exists_attended hhere, Transfer.exists_abandoned hhere⟩

theorem start?_of_transfer?
    {body : Option Transfer.Source} {state : Transfer.State}
    (h : f.transfer? body = some (some state)) :
    ∃ source, Transfer.start? f.queueFrames (some f.timeout) source = some state := by
  cases body with
  | none =>
      cases h
  | some source =>
      obtain ⟨started, hstart, hsame⟩ := Option.map_eq_some_iff.1 h
      cases hsame
      exact ⟨source, hstart⟩

theorem settles_of_answer
    {response : Response} {headers : Headers} {body : Option Transfer.State}
    (hchain : sent.headers.valuesOf requestIdName = [chain])
    (hheaders : towardsCaller? response.headers = some headers)
    (hbody : f.transfer? response.body = some body) :
    Settles (f.answered (r.subject direction moduleId chain) sent response)
      r direction moduleId sent response.status := by
  simp only [Forwarder.answered, hheaders, hbody]
  cases body with
  | none =>
      exact settles_of_bodiless (.answered (.completed 0)) hchain rfl rfl rfl rfl
  | some body =>
      obtain ⟨source, hstart⟩ := start?_of_transfer? hbody
      exact settles_of_body hchain hstart

end Settled

section Returned

variable {f : Forwarder} {target : Target} {draw : Nat} {r : Request}
variable {destination : String} {uri : Uri} {direction : Direction} {moduleId : String}

/-- An answer is passed on exactly when there is room for its fields and its body. -/
theorem answered_ne_crashed_iff
    {subject : Subject} {sent : Sent} {response : Response} :
    (f.answered subject sent response).result ≠ .crashed
      ↔
    response.headers.length ≤ Headers.mostNames ∧ (f.transfer? response.body).isSome = true := by
  rw [Option.isSome_iff_exists]
  constructor
  · intro hreturned
    cases hresult : (f.answered subject sent response).result with
    | answered a =>
        obtain ⟨hlength, body, hbody, -⟩ := answered_result_iff.1 hresult
        exact ⟨hlength, body, hbody⟩
    | failed e =>
        unfold Forwarder.answered at hresult
        split at hresult
        · split at hresult <;> cases hresult
        · cases hresult
    | crashed =>
        exact absurd hresult hreturned
  · rintro ⟨hlength, body, hbody⟩ hcrashed
    have hanswered : (f.answered subject sent response).result =
        .answered ⟨response.status, crossing response.headers stopsBeforeCaller, body⟩ :=
      answered_result_iff.2 ⟨hlength, body, hbody, rfl⟩
    rw [hcrashed] at hanswered
    cases hanswered

/-- A request to a URL that can be dialled leads to a reply exactly when there is
room for all that is exchanged. -/
theorem forward_ne_crashed_iff
    (h : parseLocation destination = .ok uri) :
    (f.forward target draw r destination direction moduleId).result ≠ .crashed
      ↔
    Holds f target r direction (r.chain draw uri) uri := by
  by_cases hfits : HasRoom direction (r.chain draw uri) r.headers ∧ (f.transfer? r.body).isSome
  · obtain ⟨body, hbody⟩ := Option.isSome_iff_exists.1 hfits.2
    cases hawait :
        (awaitWithin f.timeout (target (f.sending (r.chain draw uri) direction r uri body))).1 with
    | ok response =>
        rw [forward_eq_of_answer h hfits.1 hbody rfl hawait, answered_ne_crashed_iff]
        refine ⟨fun hroom => ⟨hfits.1, hfits.2, fun other hother answer hanswer => ?_⟩,
          fun hholds => hholds.back body hbody response hawait⟩
        rw [hbody] at hother
        cases hother
        rw [hawait] at hanswer
        cases hanswer
        exact hroom
    | error e =>
        rw [(forward_of_failure h hfits.1 hbody rfl hawait).1]
        refine iff_of_true nofun ⟨hfits.1, hfits.2, fun other hother answer hanswer => ?_⟩
        rw [hbody] at hother
        cases hother
        rw [hawait] at hanswer
        cases hanswer
  · rw [forward_of_not_room h hfits]
    exact iff_of_false (fun hreturned => hreturned rfl) fun hholds =>
      hfits ⟨hholds.fields, hholds.body⟩

end Returned

section Main

/--
To a URL that cannot be dialled nothing is sent, and nothing is recorded.  A request
to any other URL is answered exactly when there is room for all that is exchanged.
Then its exchange is recorded once, as soon as its reply has come and the body of
the reply was read to its end or abandoned, with the status that the caller gets.
-/
theorem forward_recorded_once
    (f : Forwarder) (target : Target) (draw : Nat) (r : Request) (destination : String)
    (direction : Direction) (moduleId : String) :
    let x := f.forward target draw r destination direction moduleId
    (∀ why, parseLocation destination = .error why →
      x.result = .failed (.invalidDestination destination why.message) ∧
        x.sent = [] ∧ x.records = [] ∧ x.pending = none) ∧
    ∀ uri, parseLocation destination = .ok uri →
      (x.result ≠ .crashed ↔ Holds f target r direction (r.chain draw uri) uri) ∧
        (Holds f target r direction (r.chain draw uri) uri →
          ∃ sent, x.sent = [sent] ∧
            Settles x r direction moduleId sent (statusFor f target sent)) := by
  intro x
  refine ⟨fun why h => ?_, fun uri h => ⟨forward_ne_crashed_iff h, fun hholds => ?_⟩⟩
  · have hx : x = { result := .failed (.invalidDestination destination why.message) } :=
      forward_of_error h
    rw [hx]
    exact ⟨rfl, rfl, rfl, rfl⟩
  · obtain ⟨body, hbody⟩ := Option.isSome_iff_exists.1 hholds.body
    have hsent : x.sent = [_] := forward_sent h hholds.fields hbody
    have hchain := valuesOf_sending_requestIdName f (r.chain draw uri) direction r uri body
    refine ⟨_, hsent, ?_⟩
    unfold statusFor
    cases hawait :
        (awaitWithin f.timeout (target (f.sending (r.chain draw uri) direction r uri body))).1 with
    | ok response =>
        have hx : x = _ := forward_eq_of_answer h hholds.fields hbody rfl hawait
        obtain ⟨hlength, hback⟩ := hholds.back body hbody response hawait
        obtain ⟨received, hreceived⟩ := Option.isSome_iff_exists.1 hback
        rw [hx]
        exact settles_of_answer hchain (copied?_eq_some_iff.2 ⟨hlength, rfl⟩) hreceived
    | error e =>
        have hx : x = _ := forward_eq_of_failure h hholds.fields hbody rfl hawait
        rw [hx]
        cases e <;> exact settles_of_bodiless _ hchain rfl rfl rfl rfl

/-- A target that answers with a body that breaks off. -/
def brokenTarget : Target :=
  fun _ =>
    .afterPause (.ofMillis 5) (.ok ⟨200, [], some [.frame (.data "abc"), .fail "reset"]⟩)

/-- The exchange with a target whose body breaks off. -/
def brokenExchange : Exchanged :=
  signingForwarder.forward brokenTarget 7 (requestWith []) "http://mod-foo:8081/foo/1" .egress
    "mod-foo-1.0.0"

/-- The transfer of that body at its start. -/
def brokenBody : Transfer.State where
  capacity := 8
  idle := some (.ofMillis 60000)
  source := [.frame (.data "abc"), .fail "reset"]

/-- The caller may read the body or leave it, and the exchange is recorded once. -/
theorem forward_recorded_once_brokenTarget :
    Holds signingForwarder brokenTarget (requestWith []) .egress
        ((requestWith []).chain 7 modulePlace) modulePlace ∧
      brokenExchange.result ≠ .crashed ∧ brokenExchange.records = [] ∧
        ∃ body sent, bodyOf brokenExchange = some body ∧
          (∃ run : Transfer.Run, run.seen 0 = { state := body } ∧ run.Attended ∧
            ∃ n, ∀ k, n ≤ k →
              RecordedOnce (recordsMade brokenExchange (run.seen k).reports) (requestWith [])
                .egress "mod-foo-1.0.0" sent 200) ∧
            ∃ run : Transfer.Run, run.seen 0 = { state := body } ∧ run.event 0 = .leave ∧
              ∃ n, ∀ k, n ≤ k →
                RecordedOnce (recordsMade brokenExchange (run.seen k).reports) (requestWith [])
                  .egress "mod-foo-1.0.0" sent 200 := by
  have hholds : Holds signingForwarder brokenTarget (requestWith []) .egress
      ((requestWith []).chain 7 modulePlace) modulePlace := by
    refine ⟨hasRoom_of_length (by decide), rfl, fun body hbody response hresponse => ?_⟩
    cases hresponse
    exact ⟨by decide, rfl⟩
  obtain ⟨-, hdialled⟩ := forward_recorded_once signingForwarder brokenTarget 7 (requestWith [])
    "http://mod-foo:8081/foo/1" .egress "mod-foo-1.0.0"
  obtain ⟨hreturned, hrecorded⟩ := hdialled modulePlace parseLocation_modulePlace
  obtain ⟨sent, -, hsettles⟩ := hrecorded hholds
  have hbody : bodyOf brokenExchange = some brokenBody := by decide +kernel
  have hrecords : brokenExchange.records = [] := by decide +kernel
  obtain ⟨⟨reading, hreading, hattended⟩, leaving, hleaving, hleave, hreleased⟩ :=
    hsettles.possible brokenBody hbody
  have hread := hsettles.settled brokenBody hbody reading hreading (.inl hattended)
  have hleft := hsettles.settled brokenBody hbody leaving hleaving (.inr hreleased)
  exact ⟨hholds, hreturned.2 hholds, hrecords, brokenBody, sent, hbody,
    ⟨reading, hreading, hattended, hread⟩, leaving, hleaving, hleave, hleft⟩

end Main

end Dispatch
end SidecarProxy
