import SidecarProxy.Proofs.Exchange.Sending

/-!
# The header boundary of an exchange

Which header fields come out on the other side of an exchange.  Main statements:
what a target is sent and what a caller gets back holds the values of a field in
their order or none of them, the chain of ids and the signature of the sidecar
are the only ones of their names, and no signature of another party gets through.
All of this holds of whatever is sent; the exact condition under which something
is sent is that there is room for it.
-/

namespace SidecarProxy
namespace Exchange

open Message Route

section Crossing

/-- Which values the header of a request has behind the proxy. -/
structure CrossesToTarget (signature : Signature) (direction : Direction) (chain : String)
    (inbound sent : Headers) : Prop where
  values_eq :
    ∀ name, name ≠ requestIdName → name ≠ signatureName →
      sent.valuesOf name =
        if BoundToConnection inbound name ∨ name = "user-agent" ∨ name = "host" then []
        else inbound.valuesOf name
  chain_eq : sent.valuesOf requestIdName = [chain]
  unsigned : direction = .ingress → sent.valuesOf signatureName = []
  signed : direction = .egress → sent.valuesOf signatureName = [signature.value]
  /-- The sidecar knows the request when it comes back. -/
  recognised : direction = .egress → signature.signed sent = true

/-- Which values the header of an answer has behind the proxy. -/
structure CrossesToCaller (received returned : Headers) : Prop where
  values_eq :
    ∀ name, name ≠ signatureName →
      returned.valuesOf name =
        if BoundToConnection received name then [] else received.valuesOf name
  unsigned : returned.valuesOf signatureName = []

theorem valuesOf_chainedFields
    {chain name : String} {hs : Headers}
    (hname : name ≠ requestIdName) :
    (chainedFields chain hs).valuesOf name =
      if BoundToConnection hs name ∨ stopsBeforeTarget name = true then []
      else hs.valuesOf name := by
  rw [chainedFields, valuesOf_put_of_ne _ _ hname, valuesOf_crossing]

theorem stopsBeforeTarget_iff
    {name : String}
    (hname : name ≠ signatureName) :
    stopsBeforeTarget name = true ↔ name = "user-agent" ∨ name = "host" := by
  simp [stopsBeforeTarget, hname]

theorem crossesToTarget_sentFields
    (signature : Signature) (direction : Direction) (chain : String) (inbound : Headers) :
    CrossesToTarget signature direction chain inbound
      (sentFields signature chain inbound direction) := by
  have hvalues : ∀ name, name ≠ requestIdName → name ≠ signatureName →
      (chainedFields chain inbound).valuesOf name =
        if BoundToConnection inbound name ∨ name = "user-agent" ∨ name = "host" then []
        else inbound.valuesOf name := by
    intro name hchain hsignature
    rw [valuesOf_chainedFields hchain]
    simp only [stopsBeforeTarget_iff hsignature]
  have hunsigned : (chainedFields chain inbound).valuesOf signatureName = [] := by
    rw [valuesOf_chainedFields signatureName_ne_requestIdName]
    exact if_pos (Or.inr rfl)
  have hchain := valuesOf_sentFields_requestIdName signature chain inbound direction
  cases direction with
  | ingress =>
      exact ⟨hvalues, hchain, fun _ => hunsigned, nofun, nofun⟩
  | egress =>
      have hsigned :
          (sentFields signature chain inbound .egress).valuesOf signatureName =
            [signature.value] :=
        valuesOf_put_self _ _ _
      refine ⟨?_, hchain, nofun, fun _ => hsigned, fun _ => ?_⟩
      · intro name hrequest hsignature
        rw [sentFields, valuesOf_put_of_ne _ _ hsignature]
        exact hvalues name hrequest hsignature
      · simp [Signature.signed, hsigned]

theorem crossesToCaller_crossing
    (received : Headers) :
    CrossesToCaller received (crossing received stopsBeforeCaller) where
  values_eq := by
    intro name hname
    have hstops : stopsBeforeCaller name = false := beq_eq_false_iff_ne.2 hname
    simp only [valuesOf_crossing, hstops, Bool.false_eq_true, or_false]
  unsigned := by
    rw [valuesOf_crossing]
    exact if_pos (Or.inr rfl)

end Crossing

section Answered

variable {f : Forwarder} {subject : Subject} {sent : Sent} {response : Response}

/-- The caller gets the fields of the answer that cross, as long as there is room for them. -/
theorem answered_result_iff
    {a : Answer} :
    (f.answered subject sent response).result = .answered a
      ↔
    response.headers.length ≤ Headers.mostNames ∧
      ∃ body, f.transfer? response.body = some body ∧
        a = ⟨response.status, crossing response.headers stopsBeforeCaller, body⟩ := by
  unfold Forwarder.answered towardsCaller?
  split
  · next headers body hheaders hbody =>
      obtain ⟨hroom, rfl⟩ := copied?_eq_some_iff.1 hheaders
      cases body with
      | none => simp [hroom, hbody, eq_comm]
      | some body => simp [hroom, hbody, eq_comm]
  · next hno =>
      refine iff_of_false nofun ?_
      rintro ⟨hroom, body, hbody, -⟩
      exact hno _ _ (copied?_eq_some_iff.2 ⟨hroom, rfl⟩) hbody

end Answered

section Guarded

/--
What an exchange with a target does to header fields.  The bodies are transferred as
they are, with the trailers that they may hold.
-/
structure Guarded (f : Forwarder) (target : Target) (direction : Direction) (chain : String)
    (r : Request) (x : Exchanged) : Prop where
  legal : isFieldValue chain = true
  sends_iff :
    (∃ sent, x.sent = [sent])
      ↔
    HasRoom direction chain r.headers ∧ (f.transfer? r.body).isSome
  crashes :
    ¬(HasRoom direction chain r.headers ∧ (f.transfer? r.body).isSome) →
      x.sent = [] ∧ x.result = .crashed
  outward :
    ∀ sent ∈ x.sent,
      CrossesToTarget f.signature direction chain r.headers sent.headers ∧
        f.transfer? r.body = some sent.body
  back :
    ∀ a, x.result = .answered a →
      ∃ sent ∈ x.sent, ∃ response,
        (awaitWithin f.timeout (target sent)).1 = .ok response ∧
          CrossesToCaller response.headers a.headers ∧
            f.transfer? response.body = some a.body
  answers_iff :
    ∀ sent ∈ x.sent, ∀ response,
      (awaitWithin f.timeout (target sent)).1 = .ok response →
        ((∃ a, x.result = .answered a)
          ↔
        response.headers.length ≤ Headers.mostNames ∧ (f.transfer? response.body).isSome)

variable {f : Forwarder} {target : Target} {draw : Nat} {r : Request}
variable {destination : String} {uri : Uri} {direction : Direction} {moduleId : String}

theorem guarded_of_not_room
    (h : parseLocation destination = .ok uri)
    (hno : ¬(HasRoom direction (r.chain draw uri) r.headers ∧ (f.transfer? r.body).isSome)) :
    Guarded f target direction (r.chain draw uri) r { result := .crashed } where
  legal := isFieldValue_chain h r draw
  sends_iff := iff_of_false nofun hno
  crashes := fun _ => ⟨rfl, rfl⟩
  outward := List.forall_mem_nil _
  back := nofun
  answers_iff := List.forall_mem_nil _

/-- What a caller gets is made from the answer of the target, when there is one. -/
def AnsweredBy (f : Forwarder) (target : Target) (sent : Sent) (result : Result) : Prop :=
  ∀ a, result = .answered a ↔
    ∃ response, (awaitWithin f.timeout (target sent)).1 = .ok response ∧
      response.headers.length ≤ Headers.mostNames ∧
        ∃ body, f.transfer? response.body = some body ∧
          a = ⟨response.status, crossing response.headers stopsBeforeCaller, body⟩

theorem guarded_of_sent
    (h : parseLocation destination = .ok uri)
    (hroom : HasRoom direction (r.chain draw uri) r.headers)
    {body : Option Transfer.State}
    (hbody : f.transfer? r.body = some body)
    {sent : Sent}
    (hsending : sent = f.sending (r.chain draw uri) direction r uri body)
    {x : Exchanged}
    (hsent : x.sent = [sent])
    (hanswered : AnsweredBy f target sent x.result) :
    Guarded f target direction (r.chain draw uri) r x where
  legal := isFieldValue_chain h r draw
  sends_iff := iff_of_true ⟨sent, hsent⟩ ⟨hroom, Option.isSome_of_eq_some hbody⟩
  crashes := fun hno => absurd ⟨hroom, Option.isSome_of_eq_some hbody⟩ hno
  outward := by
    rw [hsent, List.forall_mem_singleton, hsending]
    exact ⟨crossesToTarget_sentFields _ _ _ _, hbody⟩
  back := by
    intro a ha
    obtain ⟨response, hresponse, -, received, hreceived, rfl⟩ := (hanswered a).1 ha
    refine ⟨sent, by simp [hsent], response, hresponse, ?_, hreceived⟩
    exact crossesToCaller_crossing response.headers
  answers_iff := by
    rw [hsent, List.forall_mem_singleton]
    intro response hresponse
    constructor
    · rintro ⟨a, ha⟩
      obtain ⟨other, hother, hlength, received, hreceived, -⟩ := (hanswered a).1 ha
      rw [hresponse] at hother
      cases hother
      exact ⟨hlength, Option.isSome_of_eq_some hreceived⟩
    · rintro ⟨hlength, hsome⟩
      obtain ⟨received, hreceived⟩ := Option.isSome_iff_exists.1 hsome
      exact ⟨_, (hanswered _).2 ⟨response, hresponse, hlength, received, hreceived, rfl⟩⟩

/-- Every exchange with a location keeps the header boundary. -/
theorem forward_guarded
    (h : parseLocation destination = .ok uri) :
    Guarded f target direction (r.chain draw uri) r
      (f.forward target draw r destination direction moduleId) := by
  by_cases hfits : HasRoom direction (r.chain draw uri) r.headers ∧ (f.transfer? r.body).isSome
  · obtain ⟨body, hbody⟩ := Option.isSome_iff_exists.1 hfits.2
    obtain ⟨sent, hsending⟩ : ∃ sent, sent = f.sending (r.chain draw uri) direction r uri body :=
      ⟨_, rfl⟩
    cases hawait : (awaitWithin f.timeout (target sent)).1 with
    | ok response =>
        obtain ⟨subject, hx⟩ := forward_of_answer h hfits.1 hbody hsending hawait
        rw [hx]
        refine guarded_of_sent h hfits.1 hbody hsending answered_sent fun a => ?_
        rw [answered_result_iff, hawait]
        simp
    | error e =>
        obtain ⟨hresult, hsent⟩ := forward_of_failure h hfits.1 hbody hsending hawait
        refine guarded_of_sent h hfits.1 hbody hsending hsent fun a => ?_
        rw [hresult, hawait]
        simp
  · rw [forward_of_not_room h hfits]
    exact guarded_of_not_room h hfits

/-- A forwarder with a signature. -/
def signingForwarder : Forwarder :=
  ⟨.ofMillis 60000, 8, ⟨"mine"⟩⟩

/-- The place of a module. -/
def modulePlace : Uri where
  scheme := some "http"
  authority := "mod-foo:8081"
  writtenPath := "/foo/1"
  query := none

theorem parseLocation_modulePlace :
    parseLocation "http://mod-foo:8081/foo/1" = .ok modulePlace := by
  decide

/-- A target that answers with a signature and with a field of the connection. -/
def foreignTarget : Target :=
  fun _ =>
    .afterPause (.ofMillis 5)
      (.ok ⟨200, [("connection", "x-hop"), ("x-hop", "1"), (signatureName, "theirs")], none⟩)

/-- A request for another module. -/
def requestWith (headers : Headers) : Request where
  method := "GET"
  uri := { scheme := none, authority := "", writtenPath := "/foo/1", query := none }
  headers := headers

/-- The exchange that a request for another module leads to. -/
def exchangeWith (headers : Headers) : Exchanged :=
  signingForwarder.forward foreignTarget 7 (requestWith headers) "http://mod-foo:8081/foo/1"
    .egress "mod-foo-1.0.0"

/-- Fields with the signature of another party and with fields of the connection. -/
def foreignFields : Headers :=
  [("connection", "close, X-Debug"), ("x-debug", "1"), (signatureName, "theirs"),
    ("accept", "text/plain"), (requestIdName, "111111/bar"), ("accept", "text/html")]

theorem forward_guarded_foreignFields :
    parseLocation "http://mod-foo:8081/foo/1" = .ok modulePlace ∧
      Guarded signingForwarder foreignTarget .egress
        ((requestWith foreignFields).chain 7 modulePlace) (requestWith foreignFields)
        (exchangeWith foreignFields) ∧
        ∃ sent, (exchangeWith foreignFields).sent = [sent] := by
  have hguarded :
      Guarded signingForwarder foreignTarget .egress
        ((requestWith foreignFields).chain 7 modulePlace) (requestWith foreignFields)
        (exchangeWith foreignFields) :=
    forward_guarded parseLocation_modulePlace
  exact ⟨parseLocation_modulePlace, hguarded,
    hguarded.sends_iff.2 ⟨hasRoom_of_length (by decide), rfl⟩⟩

end Guarded

end Exchange
end SidecarProxy
