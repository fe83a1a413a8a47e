import SidecarProxy.Span

/-!
# Delays between attempts

The delay doubles with each attempt up to a longest delay, and up to a tenth of
it is added at random, in whole milliseconds.
-/

namespace SidecarProxy
namespace Retry

/-- The factor of an attempt: a power of two that stops at the largest 32-bit word. -/
def factor (attempt : Nat) : Nat :=
  if attempt ≤ 32 then Nat.pow 2 (attempt - 1) else 4294967295

/-- The delay of an attempt before anything is added to it. -/
def cappedDelay (attempt : Nat) (base longest : Span) : Span :=
  ⟨min (min (base.nanos * factor attempt) Span.longest.nanos) longest.nanos⟩

/-- The number of milliseconds that may be added, in 64-bit words. -/
def jitterRange (capped : Span) : Nat :=
  capped.millis % 18446744073709551616 / 10

/-- The milliseconds that a random draw adds. -/
def jitter (capped : Span) (draw : Nat) : Span :=
  if jitterRange capped = 0 then .zero else .ofMillis (draw % jitterRange capped)

/-- The delay after a failed attempt; nothing when no clock can hold it. -/
def delay? (attempt : Nat) (base longest : Span) (draw : Nat) : Option Span :=
  if attempt = 0 then some .zero
  else
    let capped := cappedDelay attempt base longest
    capped.add? (jitter capped draw)

end Retry
end SidecarProxy
