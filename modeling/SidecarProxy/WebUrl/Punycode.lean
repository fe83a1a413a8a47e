/-!
# Names in ASCII letters

A name with other characters is written as its ASCII characters, followed by the
places and numbers of the others.  The others are sorted by number; the distance
from one to the next is written with digits to base 36 whose thresholds adapt to
the distances seen so far.
-/

namespace SidecarProxy
namespace Punycode

/-- The base of the digits. -/
def base : Nat := 36

/-- The first number outside ASCII. -/
def firstWide : Nat := 0x80

/-- The thresholds at the beginning. -/
def firstBias : Nat := 72

/-- Distances and weights are below this number. -/
def wordLimit : Nat := 4294967296

/-- The letter or digit of a value below the base. -/
def digit (value : Nat) : Char :=
  if value < 26 then Char.ofNat ('a'.toNat + value) else Char.ofNat ('0'.toNat + (value - 26))

/-- The value of a letter or digit. -/
def value? (c : Char) : Option Nat :=
  if 'a' ≤ c && c ≤ 'z' then some (c.toNat - 'a'.toNat)
  else if 'A' ≤ c && c ≤ 'Z' then some (c.toNat - 'A'.toNat)
  else if '0' ≤ c && c ≤ '9' then some (c.toNat - '0'.toNat + 26)
  else none

/-- The threshold of the digit at a place: between one and 26. -/
def threshold (place bias : Nat) : Nat :=
  max 1 (min 26 (place - bias))

theorem threshold_pos (place bias : Nat) : 1 ≤ threshold place bias := by
  unfold threshold
  omega

/-- Divides a distance by 35 until it is small, counting in steps of the base. -/
def shrink (distance steps : Nat) : Nat × Nat :=
  if 455 < distance then shrink (distance / 35) (steps + base) else (distance, steps)
termination_by distance
decreasing_by exact Nat.div_lt_self (by omega) (by omega)

/-- The thresholds after a distance, given how many characters there are now. -/
def adapt (distance count : Nat) (first : Bool) : Nat :=
  let halved := if first then distance / 700 else distance / 2
  let (small, steps) := shrink (halved + halved / count) 0
  steps + 36 * small / (small + 38)

/-- The digits of a distance, from the given place on. -/
def digits (bias place distance : Nat) : List Char :=
  let t := threshold place bias
  if distance < t then [digit distance]
  else
    digit (t + (distance - t) % (base - t)) ::
      digits bias (place + base) ((distance - t) / (base - t))
termination_by distance
decreasing_by
  have := threshold_pos place bias
  have := Nat.div_le_self (distance - threshold place bias) (base - threshold place bias)
  omega

/-- A name that has been written in part. -/
structure Written where
  out : List Char
  distance : Nat := 0
  bias : Nat := firstBias
  /-- The characters of the name that are written. -/
  count : Nat

/-- Goes over one character of the name while those of number `n` are written. -/
def Written.visit (basic n : Nat) (w : Written) (c : Char) : Written :=
  if c.toNat < n then { w with distance := w.distance + 1 }
  else if c.toNat = n then
    { out := w.out ++ digits w.bias base w.distance
      distance := 0
      bias := adapt w.distance (w.count + 1) (w.count = basic)
      count := w.count + 1 }
  else w

/-- Writes the characters of the given numbers, which are sorted; those below `n` are written. -/
def writeWide (name : List Char) (basic : Nat) : List Nat → Nat → Written → Written
  | [], _, w => w
  | m :: rest, n, w =>
    let w := { w with distance := w.distance + (m - n) * (w.count + 1) }
    let w := name.foldl (Written.visit basic m) w
    writeWide name basic rest (m + 1) { w with distance := w.distance + 1 }

/-- A name in ASCII letters, digits and hyphens. -/
def encode (name : List Char) : List Char :=
  let plain := name.filter (·.toNat < firstWide)
  let wide := ((name.filter (firstWide ≤ ·.toNat)).map Char.toNat).mergeSort.eraseDups
  let front := if plain.isEmpty then [] else plain ++ ['-']
  (writeWide name plain.length wide firstWide { out := front, count := plain.length }).out

/-- A name that has been read in part. -/
structure Reading where
  out : List Char
  /-- The number of the next character. -/
  number : Nat := firstWide
  /-- Where the next character goes. -/
  index : Nat := 0
  bias : Nat := firstBias
  /-- The place before the distance that is being read. -/
  start : Nat := 0
  weight : Nat := 1
  place : Nat := base

/-- Puts the character whose distance has been read into the name. -/
def Reading.insert? (r : Reading) (index : Nat) : Option Reading :=
  let count := r.out.length + 1
  let number := r.number + index / count
  let index' := index % count
  if number.isValidChar then
    some {
      out := r.out.take index' ++ Char.ofNat number :: r.out.drop index'
      number := number
      index := index' + 1
      bias := adapt (index - r.start) count (r.start = 0)
      start := index' + 1 }
  else none

/-- Reads a digit. -/
def Reading.step? (r : Reading) (c : Char) : Option Reading := do
  let d ← value? c
  let index := r.index + d * r.weight
  let t := threshold r.place r.bias
  let weight := r.weight * (base - t)
  if wordLimit ≤ index then none
  else if d < t then r.insert? index
  else if wordLimit ≤ weight then none
  else some { r with index := index, weight := weight, place := r.place + base }

/-- The name that ASCII characters write; a hyphen behind its ASCII characters has some in front. -/
def decode? (cs : List Char) : Option (List Char) := do
  let back := cs.reverse.takeWhile (· != '-')
  let front := cs.dropLast.take (cs.length - back.length - 1)
  let wide := back.reverse
  if back.length + 1 = cs.length || front.any (firstWide ≤ ·.toNat) then none
  let r ← wide.foldlM Reading.step? ({ out := front } : Reading)
  if r.place = base then some r.out else none

end Punycode
end SidecarProxy
