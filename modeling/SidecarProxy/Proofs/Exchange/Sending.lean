import SidecarProxy.Exchange.Forwarder
import SidecarProxy.Proofs.Message.Crossing
import SidecarProxy.Proofs.Message.Hops
import SidecarProxy.Proofs.Uri.Location
import SidecarProxy.Proofs.Uri.Target

/-!
# What is sent to a target

A request to a location is sent once, unless there is no room for its header
fields or its body.  Main statements: the chain of ids can always be put into the
header, the exact room that the header fields need, and the exchange that follows
when there is room and when there is none.
-/

namespace SidecarProxy
namespace Exchange

open Message Route

section Fields

variable {direction : Direction} {chain : String} {hs : Headers}

/-- The fields of a request that cross, with its chain of ids. -/
def chainedFields (chain : String) (hs : Headers) : Headers :=
  (crossing hs stopsBeforeTarget).put requestIdName chain

/-- The fields that a target is sent. -/
def sentFields (signature : Signature) (chain : String) (hs : Headers) : Direction → Headers
  | .ingress => chainedFields chain hs
  | .egress => (chainedFields chain hs).put signatureName signature.value

theorem signatureName_ne_requestIdName :
    signatureName ≠ requestIdName := by
  decide

/-- The chain of ids is the only value of its name. -/
theorem valuesOf_sentFields_requestIdName
    (signature : Signature) (chain : String) (hs : Headers) (direction : Direction) :
    (sentFields signature chain hs direction).valuesOf requestIdName = [chain] := by
  have hchain : (chainedFields chain hs).valuesOf requestIdName = [chain] :=
    valuesOf_put_self _ _ _
  cases direction with
  | ingress =>
      exact hchain
  | egress =>
      rw [sentFields, valuesOf_put_of_ne _ _ signatureName_ne_requestIdName.symm]
      exact hchain

/--
Whether there is room for the fields of a request: for as many names as there are
fields at first, and for one name more whenever a value is put in.  The fields that
come over a connection are never that many.
-/
structure HasRoom (direction : Direction) (chain : String) (hs : Headers) : Prop where
  copy : hs.length ≤ Headers.mostNames
  chain_room : (crossing hs stopsBeforeTarget).names.length < Headers.mostNames
  signature_room :
    direction = .egress → (chainedFields chain hs).names.length < Headers.mostNames

/-- Fewer fields than the most names, by two, have room. -/
theorem hasRoom_of_length
    (hlength : hs.length + 1 < Headers.mostNames) :
    HasRoom direction chain hs := by
  have hcrossing := length_crossing_le hs stopsBeforeTarget
  have hnames := length_names_le (crossing hs stopsBeforeTarget)
  have hchained := length_names_le (chainedFields chain hs)
  have hput : (chainedFields chain hs).length ≤ (crossing hs stopsBeforeTarget).length + 1 :=
    length_put_le _ _ _
  refine ⟨by omega, by omega, fun _ => by omega⟩

theorem put?_eq_some_iff
    {hs out : Headers} {name value : String} :
    hs.put? name value = some out
      ↔
    hs.names.length < Headers.mostNames ∧ hs.put name value = out := by
  unfold Headers.put?
  split
  · next hroom => simp [hroom]
  · next hroom => simp [hroom]

theorem sentHeaders?_eq_some_iff
    (signature : Signature) (direction : Direction) (hs : Headers)
    (hchain : isFieldValue chain = true)
    {out : Headers} :
    sentHeaders? signature direction chain hs = some out
      ↔
    HasRoom direction chain hs ∧ sentFields signature chain hs direction = out := by
  simp only [sentHeaders?, towardsTarget?, Option.bind_eq_bind, Option.bind_eq_some_iff,
    copied?_eq_some_iff, putChain?, hchain, if_true, put?_eq_some_iff]
  constructor
  · rintro ⟨_, ⟨hcopy, rfl⟩, _, ⟨hroom, rfl⟩, hsign⟩
    cases direction with
    | ingress =>
        exact ⟨⟨hcopy, hroom, nofun⟩, Option.some.inj hsign⟩
    | egress =>
        obtain ⟨hsigned, rfl⟩ := put?_eq_some_iff.1 hsign
        exact ⟨⟨hcopy, hroom, fun _ => hsigned⟩, rfl⟩
  · rintro ⟨⟨hcopy, hroom, hsigned⟩, rfl⟩
    refine ⟨_, ⟨hcopy, rfl⟩, _, ⟨hroom, rfl⟩, ?_⟩
    cases direction with
    | ingress =>
        rfl
    | egress =>
        exact put?_eq_some_iff.2 ⟨hsigned rfl, rfl⟩

end Fields

section Forward

variable {f : Forwarder} {target : Target} {draw : Nat} {r : Request}
variable {destination : String} {uri : Uri} {direction : Direction} {moduleId : String}

/-- The chain of ids that is sent to a location can be the value of a field. -/
theorem isFieldValue_chain
    (h : parseLocation destination = .ok uri)
    (r : Request) (draw : Nat) :
    isFieldValue (r.chain draw uri) = true :=
  isFieldValue_chainRequestId
    (fun _ => isReadable_of_text?_eq_some)
    draw
    (Uri.legal_of_parse ((Uri.parseLocation_eq_ok_iff destination uri).1 h).1).path_legal

theorem sentHeaders?_of_room
    (h : parseLocation destination = .ok uri)
    (hroom : HasRoom direction (r.chain draw uri) r.headers)
    (signature : Signature) :
    sentHeaders? signature direction (r.chain draw uri) r.headers =
      some (sentFields signature (r.chain draw uri) r.headers direction) :=
  (sentHeaders?_eq_some_iff signature direction r.headers (isFieldValue_chain h r draw)).2
    ⟨hroom, rfl⟩

/-- The request that is sent to a location. -/
def Forwarder.sending (f : Forwarder) (chain : String) (direction : Direction) (r : Request)
    (uri : Uri) (body : Option Transfer.State) : Sent :=
  ⟨r.method, uri, sentFields f.signature chain r.headers direction, body⟩

theorem valuesOf_sending_requestIdName
    (f : Forwarder) (chain : String) (direction : Direction) (r : Request) (uri : Uri)
    (body : Option Transfer.State) :
    (f.sending chain direction r uri body).headers.valuesOf requestIdName = [chain] :=
  valuesOf_sentFields_requestIdName f.signature chain r.headers direction

/-- To a URL that cannot be dialled, nothing is sent. -/
theorem forward_of_error
    {why : LocationError}
    (h : parseLocation destination = .error why) :
    f.forward target draw r destination direction moduleId =
      { result := .failed (.invalidDestination destination why.message) } := by
  rw [Forwarder.forward, h]

/-- Without room for the fields or the body, nothing is sent. -/
theorem forward_of_not_room
    (h : parseLocation destination = .ok uri)
    (hno : ¬(HasRoom direction (r.chain draw uri) r.headers ∧ (f.transfer? r.body).isSome)) :
    f.forward target draw r destination direction moduleId = { result := .crashed } := by
  have hlegal := isFieldValue_chain h r draw
  simp only [Forwarder.forward, h]
  split
  · next headers body hheaders hbody =>
      have hroom := ((sentHeaders?_eq_some_iff _ _ _ hlegal).1 hheaders).1
      exact absurd ⟨hroom, Option.isSome_of_eq_some hbody⟩ hno
  · rfl

variable {body : Option Transfer.State} {sent : Sent}

theorem answered_sent
    {subject : Subject} {response : Response} :
    (f.answered subject sent response).sent = [sent] := by
  unfold Forwarder.answered
  split
  · split <;> rfl
  · rfl

/-- Who exchanges what with whom when a request is sent. -/
def Request.subject (r : Request) (direction : Direction) (moduleId chain : String) : Subject :=
  ⟨direction, r.method, r.uri.path, moduleId, chain⟩

theorem forward_eq_of_answer
    (h : parseLocation destination = .ok uri)
    (hroom : HasRoom direction (r.chain draw uri) r.headers)
    (hbody : f.transfer? r.body = some body)
    (hsent : sent = f.sending (r.chain draw uri) direction r uri body)
    {response : Response}
    (hanswer : (awaitWithin f.timeout (target sent)).1 = .ok response) :
    f.forward target draw r destination direction moduleId =
      f.answered (r.subject direction moduleId (r.chain draw uri)) sent response := by
  have hheaders := sentHeaders?_of_room h hroom f.signature
  subst hsent
  rw [Forwarder.sending] at hanswer
  simp only [Forwarder.forward, h, hheaders, hbody, hanswer, Forwarder.sending, Request.subject]

/-- With room, a request that is answered leads to what the answer leads to. -/
theorem forward_of_answer
    (h : parseLocation destination = .ok uri)
    (hroom : HasRoom direction (r.chain draw uri) r.headers)
    (hbody : f.transfer? r.body = some body)
    (hsent : sent = f.sending (r.chain draw uri) direction r uri body)
    {response : Response}
    (hanswer : (awaitWithin f.timeout (target sent)).1 = .ok response) :
    ∃ subject,
      f.forward target draw r destination direction moduleId =
        f.answered subject sent response :=
  ⟨_, forward_eq_of_answer h hroom hbody hsent hanswer⟩

theorem forward_eq_of_failure
    (h : parseLocation destination = .ok uri)
    (hroom : HasRoom direction (r.chain draw uri) r.headers)
    (hbody : f.transfer? r.body = some body)
    (hsent : sent = f.sending (r.chain draw uri) direction r uri body)
    {e : DeadlineError String}
    (hfailure : (awaitWithin f.timeout (target sent)).1 = .error e) :
    f.forward target draw r destination direction moduleId =
      { result := .failed (f.unanswered destination e).1
        sent := [sent]
        records :=
          [{ r.subject direction moduleId (r.chain draw uri) with
              status := (f.unanswered destination e).2.1
              outcome := (f.unanswered destination e).2.2 }] } := by
  have hheaders := sentHeaders?_of_room h hroom f.signature
  subst hsent
  rw [Forwarder.sending] at hfailure
  simp only [Forwarder.forward, h, hheaders, hbody, hfailure, Forwarder.sending, Request.subject]

/-- With room, a request that is not answered leads to a failure. -/
theorem forward_of_failure
    (h : parseLocation destination = .ok uri)
    (hroom : HasRoom direction (r.chain draw uri) r.headers)
    (hbody : f.transfer? r.body = some body)
    (hsent : sent = f.sending (r.chain draw uri) direction r uri body)
    {e : DeadlineError String}
    (hfailure : (awaitWithin f.timeout (target sent)).1 = .error e) :
    (f.forward target draw r destination direction moduleId).result =
        .failed (f.unanswered destination e).1 ∧
      (f.forward target draw r destination direction moduleId).sent = [sent] := by
  rw [forward_eq_of_failure h hroom hbody hsent hfailure]
  exact ⟨rfl, rfl⟩

/-- With room, the one request is sent, whatever becomes of it. -/
theorem forward_sent
    (h : parseLocation destination = .ok uri)
    (hroom : HasRoom direction (r.chain draw uri) r.headers)
    (hbody : f.transfer? r.body = some body) :
    (f.forward target draw r destination direction moduleId).sent =
      [f.sending (r.chain draw uri) direction r uri body] := by
  cases hawait :
      (awaitWithin f.timeout (target (f.sending (r.chain draw uri) direction r uri body))).1 with
  | ok response =>
      obtain ⟨subject, hx⟩ := forward_of_answer h hroom hbody rfl hawait
      rw [hx]
      exact answered_sent
  | error e =>
      exact (forward_of_failure h hroom hbody rfl hawait).2

/-- What is sent is the one request to the location. -/
theorem eq_sending_of_mem
    (h : parseLocation destination = .ok uri)
    (hsent : sent ∈ (f.forward target draw r destination direction moduleId).sent) :
    ∃ body, f.transfer? r.body = some body ∧
      sent = f.sending (r.chain draw uri) direction r uri body := by
  by_cases hfits : HasRoom direction (r.chain draw uri) r.headers ∧ (f.transfer? r.body).isSome
  · obtain ⟨body, hbody⟩ := Option.isSome_iff_exists.1 hfits.2
    rw [forward_sent h hfits.1 hbody] at hsent
    exact ⟨body, hbody, List.mem_singleton.1 hsent⟩
  · rw [forward_of_not_room h hfits] at hsent
    cases hsent

end Forward

end Exchange
end SidecarProxy
