import SidecarProxy.Proofs.Exchange.HeaderBoundary

/-!
# Correlation ids behind the proxy

What a target finds in the chain of ids of a request.  Main statement: the chain
is the one value of its name, it goes on from the hops of the first value, and it
has all the received hops and a new one behind them exactly when that value can
be read, no other value has hops, and the first segment of the path holds no
semicolon.
-/

namespace SidecarProxy
namespace Exchange

open Message Route Text

section Correlation

/-- What a target finds in the chain of ids of a request that came with some fields. -/
structure Correlated (inbound : Headers) (path chain : String) (sent : Headers) : Prop where
  chain_eq : sent.valuesOf requestIdName = [chain]
  /-- The chain goes on from the hops of the first value, if that can be read. -/
  goes_on :
    ∃ fresh, FreshHop path fresh ∧ split ';' chain = readHops inbound ++ split ';' fresh
  /-- All hops are kept just in case the other values have none and the new one stays whole. -/
  keepsHops_iff :
    KeepsHops inbound path chain
      ↔
    OnlyFirstSpeaks (inbound.valuesOf requestIdName) ∧ ';' ∉ firstSegment path.toList

variable {f : Forwarder} {target : Target} {draw : Nat} {r : Request}
variable {destination : String} {uri : Uri} {direction : Direction} {moduleId : String}

/-- Every request that there is room for is sent with such a chain. -/
theorem forward_correlated
    (h : parseLocation destination = .ok uri) :
    (HasRoom direction (r.chain draw uri) r.headers ∧ (f.transfer? r.body).isSome →
        (f.forward target draw r destination direction moduleId).sent ≠ []) ∧
      ∀ sent ∈ (f.forward target draw r destination direction moduleId).sent,
        Correlated r.headers uri.path (r.chain draw uri) sent.headers := by
  constructor
  · rintro ⟨hroom, hsome⟩
    obtain ⟨body, hbody⟩ := Option.isSome_iff_exists.1 hsome
    rw [forward_sent h hroom hbody]
    exact List.cons_ne_nil _ _
  · intro sent hsent
    obtain ⟨body, -, rfl⟩ := eq_sending_of_mem h hsent
    exact {
      chain_eq := valuesOf_sending_requestIdName _ _ _ _ _ _
      goes_on :=
        ⟨newRequestId draw uri.path, freshHop_newRequestId draw uri.path,
          split_chainRequestId _ _ _⟩
      keepsHops_iff := keepsHops_iff r.headers draw uri.path }

/-- Fields with a chain of two hops and a blank value. -/
def chainedFieldsOfTwo : Headers :=
  [(requestIdName, "111111/a;222222/b"), ("accept", "text/html"), (requestIdName, " ")]

theorem forward_correlated_chainedFieldsOfTwo :
    parseLocation "http://mod-foo:8081/foo/1" = .ok modulePlace ∧
      (exchangeWith chainedFieldsOfTwo).sent ≠ [] ∧
        ∀ sent ∈ (exchangeWith chainedFieldsOfTwo).sent,
          ∃ chain,
            Correlated chainedFieldsOfTwo "/foo/1" chain sent.headers ∧
              KeepsHops chainedFieldsOfTwo "/foo/1" chain := by
  refine ⟨parseLocation_modulePlace, ?_, ?_⟩
  · exact (forward_correlated parseLocation_modulePlace).1 ⟨hasRoom_of_length (by decide), rfl⟩
  · intro sent hsent
    have hcorrelated :
        Correlated chainedFieldsOfTwo "/foo/1"
          ((requestWith chainedFieldsOfTwo).chain 7 modulePlace) sent.headers :=
      (forward_correlated parseLocation_modulePlace).2 sent hsent
    refine ⟨_, hcorrelated, hcorrelated.keepsHops_iff.2 ⟨⟨Or.inl (by decide), ?_⟩, by decide⟩⟩
    exact List.forall_mem_singleton.2 (by decide)

/-- Two values with one hop each. -/
def fieldsOfTwoChains : Headers :=
  [(requestIdName, "111111/a"), (requestIdName, "222222/b")]

/-- Of two values, the second is lost with its hop. -/
theorem not_keepsHops_of_fieldsOfTwoChains :
    receivedHops fieldsOfTwoChains = ["111111/a", "222222/b"] ∧
      (exchangeWith fieldsOfTwoChains).sent ≠ [] ∧
        ∀ sent ∈ (exchangeWith fieldsOfTwoChains).sent,
          ∃ chain,
            sent.headers.valuesOf requestIdName = [chain] ∧
              ¬KeepsHops fieldsOfTwoChains "/foo/1" chain := by
  have hroom :
      HasRoom .egress ((requestWith fieldsOfTwoChains).chain 7 modulePlace) fieldsOfTwoChains :=
    hasRoom_of_length (by decide)
  refine ⟨by decide, ?_, ?_⟩
  · rw [exchangeWith, forward_sent parseLocation_modulePlace hroom rfl]
    exact List.cons_ne_nil _ _
  · intro sent hsent
    obtain ⟨body, -, rfl⟩ := eq_sending_of_mem parseLocation_modulePlace hsent
    refine ⟨_, valuesOf_sending_requestIdName _ _ _ _ _ _, ?_⟩
    intro hkeeps
    have hfirst := (keepsHops_iff fieldsOfTwoChains 7 "/foo/1").1 hkeeps
    exact absurd (hfirst.1.2 "222222/b" (by decide)) (by decide)

end Correlation

end Exchange
end SidecarProxy
