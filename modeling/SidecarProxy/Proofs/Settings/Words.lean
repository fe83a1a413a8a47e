import SidecarProxy.Proofs.Except
import SidecarProxy.Proofs.Retry.Clock
import SidecarProxy.Settings.Load

/-!
# Numbers in words

The numbers among the settings are words of 32 and 64 bits.  Main statement:
settings that were loaded from a document are in words, those that it does not
mention included.
-/

namespace SidecarProxy

open Json Json.Record

structure RetrySettings.InWords (s : RetrySettings) : Prop where
  maxAttempts : s.maxAttempts < UInt32.size
  baseDelayMillis : s.baseDelayMillis < UInt64.size
  maxDelayMillis : s.maxDelayMillis < UInt64.size
  maxElapsedSecs : s.maxElapsedSecs < UInt64.size

structure ControlPlaneSettings.InWords (s : ControlPlaneSettings) : Prop where
  requestTimeoutSecs : s.requestTimeoutSecs < UInt64.size
  refreshIntervalSecs : s.refreshIntervalSecs < UInt64.size
  retry : s.retry.InWords

structure CacheSettings.InWords (s : CacheSettings) : Prop where
  maxEntries : s.maxEntries < UInt64.size
  ttlSecs : s.ttlSecs < UInt64.size

structure ProxySettings.InWords (s : ProxySettings) : Prop where
  requestTimeoutMillis : s.requestTimeoutMillis < UInt64.size
  writeQueueFrames : s.writeQueueFrames < UInt64.size

/-- All numbers are in words. -/
structure Settings.InWords (s : Settings) : Prop where
  controlPlane : s.controlPlane.InWords
  cache : s.routing.cache.InWords
  proxy : s.proxy.InWords

/-- No delay is too long for the clock. -/
theorem RetrySettings.InWords.policy
    {s : RetrySettings}
    (h : s.InWords) :
    s.policy.InWords := by
  have hmillis := h.maxDelayMillis
  simp only [UInt64.size, Retry.Policy.InWords, RetrySettings.policy, Span.ofMillis] at hmillis ⊢
  omega

namespace Settings

section Decoded

/-- What is known of the default and of all that can be read is known of a member. -/
theorem of_member
    {α : Type} {P : α → Prop}
    {ms : Members} {name : String} {read : Value → Option α} {default a : α}
    (hdefault : P default)
    (hread : ∀ v b, read v = some b → P b)
    (h : member ms name read default = some a) :
    P a := by
  unfold member at h
  split at h
  · cases h
    exact hdefault
  · exact hread _ a h

theorem lt_of_unsigned
    {bits n : Nat} {v : Value}
    (h : unsigned bits v = some n) :
    n < Nat.pow 2 bits := by
  unfold unsigned at h
  split at h
  · next i =>
    split at h
    · next hbounds =>
      cases h
      simp only [Bool.and_eq_true, decide_eq_true_eq] at hbounds
      have hlt : i < (Nat.pow 2 bits : Nat) := hbounds.2
      omega
    · cases h
  · cases h

theorem lt_of_member
    {ms : Members} {name : String} {bits default n : Nat}
    (hdefault : default < Nat.pow 2 bits)
    (h : member ms name (unsigned bits) default = some n) :
    n < Nat.pow 2 bits :=
  of_member (P := (· < Nat.pow 2 bits)) hdefault (fun _ _ => lt_of_unsigned) h

variable {surplus : Surplus} {v : Value}

theorem inWords_of_retry
    {s : RetrySettings}
    (h : Decode.retry surplus v = some s) :
    s.InWords := by
  simp only [Decode.retry, Option.bind_eq_bind, Option.bind_eq_some_iff] at h
  obtain ⟨ms, -, attempts, hattempts, base, hbase, longest, hlongest, elapsed, helapsed, h⟩ := h
  cases h
  exact
    { maxAttempts := lt_of_member (by decide) hattempts
      baseDelayMillis := lt_of_member (by decide) hbase
      maxDelayMillis := lt_of_member (by decide) hlongest
      maxElapsedSecs := lt_of_member (by decide) helapsed }

theorem inWords_of_controlPlane
    {s : ControlPlaneSettings}
    (h : Decode.controlPlane surplus v = some s) :
    s.InWords := by
  simp only [Decode.controlPlane, Option.bind_eq_bind, Option.bind_eq_some_iff] at h
  obtain ⟨ms, -, url, -, timeout, htimeout, interval, hinterval, retry, hretry, h⟩ := h
  cases h
  exact
    { requestTimeoutSecs := lt_of_member (by decide) htimeout
      refreshIntervalSecs := lt_of_member (by decide) hinterval
      retry := of_member ⟨by decide, by decide, by decide, by decide⟩
        (fun _ _ => inWords_of_retry) hretry }

theorem inWords_of_cache
    {s : CacheSettings}
    (h : Decode.cache surplus v = some s) :
    s.InWords := by
  simp only [Decode.cache, Option.bind_eq_bind, Option.bind_eq_some_iff] at h
  obtain ⟨ms, -, entries, hentries, ttl, httl, h⟩ := h
  cases h
  exact ⟨lt_of_member (by decide) hentries, lt_of_member (by decide) httl⟩

theorem inWords_of_routing
    {s : RoutingSettings}
    (h : Decode.routing surplus v = some s) :
    s.cache.InWords := by
  simp only [Decode.routing, Option.bind_eq_bind, Option.bind_eq_some_iff] at h
  obtain ⟨ms, -, unknown, -, gateway, -, dynamic, -, cache, hcache, entitlements, -, h⟩ := h
  cases h
  exact of_member ⟨by decide, by decide⟩ (fun _ _ => inWords_of_cache) hcache

theorem inWords_of_proxy
    {s : ProxySettings}
    (h : Decode.proxy surplus v = some s) :
    s.InWords := by
  simp only [Decode.proxy, Option.bind_eq_bind, Option.bind_eq_some_iff] at h
  obtain ⟨ms, -, timeout, htimeout, frames, hframes, h⟩ := h
  cases h
  exact ⟨lt_of_member (by decide) htimeout, lt_of_member (by decide) hframes⟩

theorem inWords_default :
    ({} : Settings).InWords where
  controlPlane := ⟨by decide, by decide, by decide, by decide, by decide, by decide⟩
  cache := ⟨by decide, by decide⟩
  proxy := ⟨by decide, by decide⟩

theorem inWords_of_decode
    {s : Settings}
    (h : Decode.settings surplus v = some s) :
    s.InWords := by
  simp only [Decode.settings, Option.bind_eq_bind, Option.bind_eq_some_iff] at h
  obtain ⟨ms, -, _, -, _, -, plane, hplane, routing, hrouting, proxy, hproxy, _, -, h⟩ := h
  cases h
  exact
    { controlPlane := of_member inWords_default.controlPlane
        (fun _ _ => inWords_of_controlPlane) hplane
      cache := of_member (P := fun s : RoutingSettings => s.cache.InWords) inWords_default.cache
        (fun _ _ => inWords_of_routing) hrouting
      proxy := of_member inWords_default.proxy (fun _ _ => inWords_of_proxy) hproxy }

/-- Settings that were loaded are in words, and no check found a problem in them. -/
theorem inWords_of_ofText
    {text : String} {s : Settings}
    (h : ofText text = .ok s) :
    s.InWords ∧ s.validate = .ok s := by
  unfold ofText at h
  split at h
  · cases h
  · next read hread =>
    have hvalid := eq_ok_of_mapError h
    have hsame : read = s := by
      unfold validate at hvalid
      split at hvalid
      · cases hvalid
        rfl
      · cases hvalid
    subst hsame
    obtain ⟨v, -, hv⟩ := Option.bind_eq_some_iff.1 hread
    exact ⟨inWords_of_decode hv, hvalid⟩

end Decoded

end Settings
end SidecarProxy
