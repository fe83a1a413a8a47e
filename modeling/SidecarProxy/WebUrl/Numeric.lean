import SidecarProxy.Text.Fields
import SidecarProxy.Text.Letters
import SidecarProxy.WebUrl.Basic

/-!
# Hosts that are numbers

A host whose last part is a number is an address of up to four numbers, each
written to base ten, eight or sixteen, the last one filling the bytes that are
left.  A host in brackets is an address of eight groups.
-/

namespace SidecarProxy
namespace WebUrl

open Text

/-- The number that digits of a base write, when all of them are digits. -/
def numberIn? (base : Nat) (cs : List Char) : Option Nat :=
  cs.foldlM (fun n c => ((hexValue? c).filter (· < base)).map (base * n + ·)) 0

/-- The number that a part of a host writes. -/
def hostNumber? : List Char → Option Nat
  | [] => none
  | '0' :: 'x' :: rest | '0' :: 'X' :: rest => numberIn? 16 rest
  | '0' :: c :: rest => numberIn? 8 (c :: rest)
  | cs => numberIn? 10 cs

/-- The parts of a host between dots, an empty one at the end apart. -/
def hostParts (cs : List Char) : List (List Char) :=
  let parts := fields '.' cs
  if 1 < parts.length && parts.getLast? = some [] then parts.dropLast else parts

/-- Whether the last part of a host is a number. -/
def endsInNumber (cs : List Char) : Bool :=
  match (hostParts cs).getLast? with
  | none | some [] => false
  | some last => last.all Char.isDigit || (hostNumber? last).isSome

/-- The address that numbers stand for, the last one filling the bytes that are left. -/
def combine? (numbers : List Nat) : Option Nat :=
  match numbers.getLast? with
  | none => none
  | some last =>
    let bytes := numbers.dropLast
    if bytes.any (255 < ·) || Nat.pow 256 (4 - bytes.length) ≤ last then none
    else some (bytes.zipIdx.foldl (fun n (b, i) => n + b * Nat.pow 256 (3 - i)) last)

/-- Reads a host that ends in a number. -/
def parseIpv4? (cs : List Char) : Option Nat := do
  let parts := hostParts cs
  if 4 < parts.length then none
  else combine? (← parts.mapM hostNumber?)

/-- Reads up to four hexadecimal digits: their number, how many there were, and what is left. -/
def hexGroup (cs : List Char) : Nat × Nat × List Char :=
  let ds := (cs.take 4).takeWhile fun c => (hexValue? c).isSome
  (ds.foldl (fun n c => 16 * n + (hexValue? c).getD 0) 0, ds.length, cs.drop ds.length)

/-- A byte in decimal digits, without a zero in front. -/
def decimalByte? (cs : List Char) : Option Nat :=
  if 1 < cs.length && cs.head? = some '0' then none
  else (decimal? cs).filter (· < 256)

/-- The two groups that four bytes in decimal digits write. -/
def dottedGroups? (cs : List Char) : Option (List Nat) := do
  let bytes ← (fields '.' cs).mapM decimalByte?
  match bytes with
  | [a, b, c, d] => some [a * 256 + b, c * 256 + d]
  | _ => none

/-- The groups read so far and where `::` stood among them. -/
structure GroupScan where
  groups : List Nat := []
  gap : Option Nat := none

/-- Reads groups up to the end of an address, in at most so many steps. -/
def scanGroups : Nat → GroupScan → List Char → Option GroupScan
  | 0, _, _ => none
  | _ + 1, s, [] => some s
  | n + 1, s, cs =>
    if s.groups.length = 8 then none
    else
      match cs with
      | ':' :: rest =>
        if s.gap.isSome then none else scanGroups n { s with gap := some s.groups.length } rest
      | _ =>
        let (value, length, rest) := hexGroup cs
        match rest with
        | '.' :: _ =>
          if length = 0 || 6 < s.groups.length then none
          else (dottedGroups? cs).map fun gs => { s with groups := s.groups ++ gs }
        | ':' :: [] => none
        | ':' :: rest => scanGroups n { s with groups := s.groups ++ [value] } rest
        | [] => some { s with groups := s.groups ++ [value] }
        | _ => none

/-- Fills the gap with zeros; without a gap there have to be eight groups. -/
def GroupScan.finish? (s : GroupScan) : Option (List Nat) :=
  match s.gap with
  | some place =>
    if 8 ≤ s.groups.length then none
    else some (s.groups.take place ++ List.replicate (8 - s.groups.length) 0 ++ s.groups.drop place)
  | none => if s.groups.length = 8 then some s.groups else none

/-- Reads the address between brackets. -/
def parseIpv6? (cs : List Char) : Option (List Nat) :=
  let scan := match cs with
    | ':' :: ':' :: rest => scanGroups (rest.length + 1) { gap := some 0 } rest
    | ':' :: _ => none
    | _ => scanGroups (cs.length + 1) {} cs
  scan.bind GroupScan.finish?

end WebUrl
end SidecarProxy
