/-!
# Spans of time

A span is a whole number of nanoseconds.  A span that a clock can hold is below
`2 ^ 64` seconds, and sums of spans are checked against that limit.  A pause
lasts at most thirty years, however long the span it is made for.
-/

namespace SidecarProxy

/-- A length of time. -/
structure Span where
  nanos : Nat
  deriving DecidableEq, Repr, Inhabited

namespace Span

/-- The empty span. -/
def zero : Span := ⟨0⟩

/-- A span of whole milliseconds. -/
def ofMillis (n : Nat) : Span := ⟨n * 1000000⟩

/-- A span of whole seconds. -/
def ofSecs (n : Nat) : Span := ⟨n * 1000000000⟩

/-- The whole milliseconds in a span. -/
def millis (s : Span) : Nat := s.nanos / 1000000

/-- The first whole millisecond at which a timer of this span fires. -/
def timerMillis (s : Span) : Nat := (s.nanos + 999999) / 1000000

/-- The longest pause: thirty years of 365 days. -/
def longestPause : Span := .ofSecs 946080000

/-- The milliseconds that a pause of this span takes. -/
def pauseMillis (s : Span) : Nat := min s.timerMillis longestPause.millis

/-- The longest span that a clock can hold. -/
def longest : Span := ⟨18446744073709551616 * 1000000000 - 1⟩

/-- The sum of two spans, unless it is longer than a clock can hold. -/
def add? (a b : Span) : Option Span :=
  if a.nanos + b.nanos ≤ longest.nanos then some ⟨a.nanos + b.nanos⟩ else none

/-- The latest time that a clock can show: its seconds are counted in 63 bits. -/
def latest : Span := ⟨9223372036854775808 * 1000000000 - 1⟩

/-- The time after a span, unless a clock cannot show it. -/
def after? (time delay : Span) : Option Span :=
  if time.nanos + delay.nanos ≤ latest.nanos then some ⟨time.nanos + delay.nanos⟩ else none

/-- A number as decimal digits, with zeros in front up to a width. -/
def padded (width n : Nat) : List Char :=
  let digits := Nat.toDigits 10 n
  List.replicate (width - digits.length) '0' ++ digits

/-- `part` out of `10 ^ width`, as the digits after a point without zeros at the end. -/
def decimals (width part : Nat) : List Char :=
  match ((padded width part).reverse.dropWhile (· == '0')).reverse with
  | [] => []
  | digits => '.' :: digits

/-- A count of units with the decimals of a part of a unit. -/
def inUnits (whole width part : Nat) (unit : String) : String :=
  String.ofList (Nat.toDigits 10 whole ++ decimals width part) ++ unit

/-- A span in writing: in the largest unit of which it holds at least one. -/
def render (s : Span) : String :=
  let n := s.nanos
  if n ≥ 1000000000 then inUnits (n / 1000000000) 9 (n % 1000000000) "s"
  else if n ≥ 1000000 then inUnits (n / 1000000) 6 (n % 1000000) "ms"
  else if n ≥ 1000 then inUnits (n / 1000) 3 (n % 1000) "µs"
  else inUnits n 0 0 "ns"

end Span
end SidecarProxy
