import SidecarProxy.Dispatch.Reply
import SidecarProxy.Proofs.Catalog.Documents
import SidecarProxy.Proofs.Text.Cut

/-!
# What a reply tells about a failure

A failure is described by what the caller knows anyway, such as the URL that a
request goes to, and by details that only concern those whom the sidecar works
with.  Two failures are alike when they agree on all but these details.

Main statement: the replies to failures that are alike always have the same
status, and the details stay hidden exactly behind failed exchanges.  A reply to
a search that failed tells its details apart.
-/

namespace SidecarProxy

open Text

section Alike

/-- Failures of an exchange that agree on all but reasons and causes. -/
def Exchange.Failure.Alike : Exchange.Failure → Exchange.Failure → Prop
  | .invalidDestination url _, .invalidDestination url' _ => url = url'
  | .unreachable url _, .unreachable url' _ => url = url'
  | .timeout url after, .timeout url' after' => url = url' ∧ after = after'
  | .locationUnknown moduleId, .locationUnknown moduleId' => moduleId = moduleId'
  | _, _ => False

/-- The module whose document was rejected, and why; the rest concerns the control plane alone. -/
def ControlPlane.Failure.rejection? : ControlPlane.Failure → Option (String × String)
  | .invalidModule moduleId reason => some (moduleId, reason)
  | .invalidUrl _ => none
  | .transport _ => none
  | .unsuccessful _ _ => none

/-- Failures of a search that agree on all but what the control plane and others answered. -/
def Resolve.Failure.Alike : Resolve.Failure → Resolve.Failure → Prop
  | .blankHint, .blankHint => True
  | .unknownName name tenant, .unknownName name' tenant' => name = name' ∧ tenant = tenant'
  | .controlPlane f, .controlPlane g => f.rejection? = g.rejection?
  | .entitlements f, .entitlements g => f.tenant = g.tenant
  | _, _ => False

/-- Why the sidecar answers a request itself. -/
inductive Cause where
  | exchange (failure : Exchange.Failure)
  | search (failure : Resolve.Failure)
  deriving DecidableEq

namespace Cause

def Alike : Cause → Cause → Prop
  | .exchange f, .exchange g => f.Alike g
  | .search f, .search g => f.Alike g
  | _, _ => False

def refusal : Cause → Refusal
  | .exchange f => .ofExchange f
  | .search f => .ofResolve f

/-- The reply to a request that ended this way. -/
def reply (f : Cause) : Dispatch.Reply :=
  .ofRefusal f.refusal

/-- The body of the reply as it is written. -/
def body (f : Cause) : String :=
  Json.write f.refusal.body

def isExchange : Cause → Bool
  | .exchange _ => true
  | .search _ => false

end Cause

end Alike

section Messages

/-- A number in front of a text that does not begin with a digit is told apart from the text. -/
theorem number_append_inj
    {m n : Nat} {s t : List Char}
    (hs : ∀ c, s.head? = some c → c.isDigit = false)
    (ht : ∀ c, t.head? = some c → c.isDigit = false)
    (h : (toString m).toList ++ s = (toString n).toList ++ t) :
    m = n ∧ s = t := by
  have hdigits : ∀ k : Nat, ∀ c ∈ (toString k).toList, c.isDigit = true := by
    intro k c hc
    rw [Nat.toString_eq_ofList_toDigits, String.toList_ofList] at hc
    exact Nat.isDigit_of_mem_toDigits (by omega) (by omega) hc
  have hfront := congrArg (List.takeWhile Char.isDigit) h
  rw [takeWhile_append_eq (hdigits m) hs, takeWhile_append_eq (hdigits n) ht] at hfront
  have hvalue := congrArg (fun digits => Nat.ofDigitChars 10 digits 0) hfront
  rw [hfront] at h
  exact ⟨by simpa [Nat.toString_eq_ofList_toDigits] using hvalue, List.append_cancel_left h⟩

theorem message_invalidUrl
    (url : String) :
    (ControlPlane.Failure.invalidUrl url).message = "Invalid control plane URL '" ++ url ++ "'" :=
  rfl

theorem message_transport
    (detail : String) :
    (ControlPlane.Failure.transport detail).message = "Control plane request failed: " ++ detail :=
  rfl

theorem message_unsuccessful
    (url : String) (status : Nat) :
    (ControlPlane.Failure.unsuccessful url status).message =
      "Control plane returned " ++ toString status ++ " for " ++ url :=
  rfl

theorem message_invalidModule
    (moduleId reason : String) :
    (ControlPlane.Failure.invalidModule moduleId reason).message =
      "Invalid module configuration for '" ++ moduleId ++ "': " ++ reason :=
  rfl

theorem message_entitlements
    (f : Resolve.EntitlementFailure) :
    f.message = "Entitlement lookup failed for tenant '" ++ f.tenant ++ "': " ++ f.reason :=
  rfl

/-- The kinds of failures of the control plane. -/
inductive ControlPlane.Kind where
  | invalidUrl
  | transport
  | unsuccessful
  | invalidModule
  deriving DecidableEq

def ControlPlane.Failure.kind : ControlPlane.Failure → ControlPlane.Kind
  | .invalidUrl _ => .invalidUrl
  | .transport _ => .transport
  | .unsuccessful _ _ => .unsuccessful
  | .invalidModule _ _ => .invalidModule

/-- The seventeenth character in the wording of a failure, by which its kind is told. -/
def ControlPlane.Kind.mark : ControlPlane.Kind → Char
  | .invalidUrl => 'p'
  | .transport => 'q'
  | .unsuccessful => 't'
  | .invalidModule => 'o'

theorem mark_inj
    {k k' : ControlPlane.Kind}
    (h : k.mark = k'.mark) :
    k = k' := by
  revert h
  cases k <;> cases k' <;> decide

theorem mark_message
    (f : ControlPlane.Failure) :
    f.message.toList[16]? = some f.kind.mark := by
  cases f with
  | invalidUrl url =>
      rw [message_invalidUrl, String.append_assoc, String.toList_append]
      rfl
  | transport detail =>
      rw [message_transport, String.toList_append]
      rfl
  | unsuccessful url status =>
      rw [message_unsuccessful, String.append_assoc, String.append_assoc, String.toList_append]
      rfl
  | invalidModule moduleId reason =>
      rw [message_invalidModule, String.append_assoc, String.append_assoc, String.toList_append]
      rfl

/-- What the control plane answered is told apart by its wording. -/
theorem controlPlane_message_inj
    {f g : ControlPlane.Failure}
    (halike : f.rejection? = g.rejection?)
    (h : f.message = g.message) :
    f = g := by
  have hkind : f.kind = g.kind := by
    refine mark_inj (Option.some.inj ?_)
    rw [← mark_message, h, mark_message]
  cases f with
  | invalidUrl url =>
      cases g with
      | invalidUrl url' =>
          rw [message_invalidUrl, message_invalidUrl, String.append_left_inj,
            String.append_right_inj] at h
          rw [h]
      | _ =>
          cases hkind
  | transport detail =>
      cases g with
      | transport detail' =>
          rw [message_transport, message_transport, String.append_right_inj] at h
          rw [h]
      | _ =>
          cases hkind
  | unsuccessful url status =>
      cases g with
      | unsuccessful url' status' =>
          rw [message_unsuccessful, message_unsuccessful, String.append_assoc, String.append_assoc,
            String.append_assoc, String.append_assoc, String.append_right_inj] at h
          have htext := congrArg String.toList h
          rw [String.toList_append, @String.toList_append (toString status')] at htext
          have hblank : ∀ url : String, ∀ c, (" for " ++ url).toList.head? = some c →
              c.isDigit = false := by
            intro url c hc
            rw [String.toList_append] at hc
            cases hc
            rfl
          obtain ⟨rfl, hurl⟩ := number_append_inj (hblank url) (hblank url') htext
          rw [(String.append_right_inj " for ").1 (String.toList_injective hurl)]
      | _ =>
          cases hkind
  | invalidModule moduleId reason =>
      cases g with
      | invalidModule moduleId' reason' =>
          cases halike
          rfl
      | _ =>
          cases hkind

theorem entitlement_message_inj
    {f g : Resolve.EntitlementFailure}
    (htenant : f.tenant = g.tenant)
    (h : f.message = g.message) :
    f = g := by
  obtain ⟨tenant, reason⟩ := f
  obtain ⟨tenant', reason'⟩ := g
  cases htenant
  rw [message_entitlements, message_entitlements, String.append_right_inj] at h
  cases h
  rfl

end Messages

section Bodies

theorem writable_body
    (r : Refusal) :
    r.body.Writable := by
  refine Catalog.writable_ofMembers ?_
  simp only [List.mem_cons, List.not_mem_nil, or_false, forall_eq_or_imp, forall_eq]
  refine ⟨.array ?_, .integer 1⟩
  simp only [List.mem_singleton, forall_eq]
  refine Catalog.writable_ofMembers ?_
  simp only [List.mem_cons, List.not_mem_nil, or_false, forall_eq_or_imp, forall_eq]
  exact ⟨.string _, .string _, .string _⟩

/-- A refusal that is written has the same body as another one only with the same words. -/
theorem write_body_inj
    {r r' : Refusal}
    (h : Json.write r.body = Json.write r'.body) :
    r.type = r'.type ∧ r.code = r'.code ∧ r.message = r'.message := by
  have hparsed := congrArg Json.parse h
  rw [Json.parse_write (writable_body r), Json.parse_write (writable_body r')] at hparsed
  have hbody := Option.some.inj hparsed
  simp only [Refusal.body, Json.Value.ofMembers, Json.Value.ofText, List.map_cons, List.map_nil,
    Json.Value.object.injEq, Json.Value.array.injEq, Json.Value.string.injEq, List.cons.injEq,
    Prod.mk.injEq, Option.some.injEq, true_and, and_true] at hbody
  exact hbody

end Bodies

section Main

/-- Exchanges that failed alike are refused in the same words. -/
theorem ofExchange_eq_of_alike
    {f g : Exchange.Failure}
    (h : f.Alike g) :
    Refusal.ofExchange f = Refusal.ofExchange g := by
  cases f with
  | invalidDestination url reason =>
      cases g with
      | invalidDestination url' reason' =>
          cases h
          rfl
      | _ => cases h
  | unreachable url cause =>
      cases g with
      | unreachable url' cause' =>
          cases h
          rfl
      | _ => cases h
  | timeout url after =>
      cases g with
      | timeout url' after' =>
          obtain ⟨rfl, rfl⟩ := h
          rfl
      | _ => cases h
  | locationUnknown moduleId =>
      cases g with
      | locationUnknown moduleId' =>
          cases h
          rfl
      | _ => cases h

/-- Searches that failed alike are refused with the same status, but not in the same words. -/
theorem ofResolve_of_alike
    {f g : Resolve.Failure}
    (h : f.Alike g) :
    (Refusal.ofResolve f).status = (Refusal.ofResolve g).status ∧
      ((Refusal.ofResolve f).message = (Refusal.ofResolve g).message → f = g) := by
  cases f with
  | blankHint =>
      cases g with
      | blankHint => exact ⟨rfl, fun _ => rfl⟩
      | _ => cases h
  | unknownName name tenant =>
      cases g with
      | unknownName name' tenant' =>
          obtain ⟨rfl, rfl⟩ := h
          exact ⟨rfl, fun _ => rfl⟩
      | _ => cases h
  | controlPlane f =>
      cases g with
      | controlPlane g =>
          refine ⟨rfl, fun hmessage => ?_⟩
          rw [controlPlane_message_inj h hmessage]
      | _ => cases h
  | entitlements f =>
      cases g with
      | entitlements g =>
          refine ⟨rfl, fun hmessage => ?_⟩
          rw [entitlement_message_inj h hmessage]
      | _ => cases h

/--
Replies to failures that are alike have the same status and the same fields.
They have the same body exactly when an exchange failed, or when the failures
do not differ in their details either.
-/
theorem reply_of_alike
    {f g : Cause}
    (h : f.Alike g) :
    f.reply.status = g.reply.status ∧ f.reply.headers = g.reply.headers ∧
      (f.body = g.body ↔ f.isExchange = true ∨ f = g) := by
  cases f with
  | exchange f =>
      cases g with
      | exchange g =>
          have hsame := ofExchange_eq_of_alike h
          have hrefusal : (Cause.exchange f).refusal = (Cause.exchange g).refusal := hsame
          rw [Cause.reply, Cause.reply, Cause.body, Cause.body, hrefusal]
          exact ⟨rfl, rfl, iff_of_true rfl (Or.inl rfl)⟩
      | search g =>
          cases h
  | search f =>
      cases g with
      | exchange g =>
          cases h
      | search g =>
          obtain ⟨hstatus, hmessage⟩ := ofResolve_of_alike h
          refine ⟨hstatus, rfl, ?_⟩
          constructor
          · intro hbody
            rw [hmessage (write_body_inj hbody).2.2]
            exact Or.inr rfl
          · rintro (hexchange | hsame)
            · cases hexchange
            · rw [hsame]

/-- The control plane has answered with a status that is no success. -/
def peerAnswered (status : Nat) : ControlPlane.Failure :=
  .unsuccessful "http://control-plane/modules/mod-peer-1.0.0/discovery" status

def busyPeer : Cause :=
  .search (.controlPlane (peerAnswered 503))

def missingPeer : Cause :=
  .search (.controlPlane (peerAnswered 404))

theorem reply_of_alike_busyPeer :
    busyPeer.Alike missingPeer ∧ busyPeer.reply.status = missingPeer.reply.status ∧
      busyPeer.body ≠ missingPeer.body := by
  have halike : busyPeer.Alike missingPeer := rfl
  obtain ⟨hstatus, -, hbody⟩ := reply_of_alike halike
  refine ⟨halike, hstatus, ?_⟩
  rw [ne_eq, hbody]
  decide

theorem not_hidden_of_busyPeer :
    ¬∀ f g : Cause, f.Alike g → f.reply.status = g.reply.status ∧ f.body = g.body := by
  intro h
  have hsame := (h busyPeer missingPeer rfl).2
  have hfailure : peerAnswered 503 = peerAnswered 404 :=
    controlPlane_message_inj rfl (write_body_inj hsame).2.2
  simp [peerAnswered] at hfailure

end Main

end SidecarProxy
