import SidecarProxy.Text.Letters

/-!
# Socket addresses

An address of the network followed by a number below 65536: four decimal numbers
between dots, or up to eight hexadecimal groups between colons inside brackets,
where `::` stands for one or more groups of zero and the last two groups may be
written as four decimal numbers.

Every reader gives what it has read and the characters that are left.
-/

namespace SidecarProxy
namespace SocketAddress

open Text

/-- The digits of a base in front, as numbers, and what is left. -/
def leadingDigits (base : Nat) : List Char → List Nat × List Char
  | [] => ([], [])
  | c :: rest =>
    match (hexValue? c).filter (· < base) with
    | some d =>
      let (ds, rest) := leadingDigits base rest
      (d :: ds, rest)
    | none => ([], c :: rest)

/-- Reads a number below a limit, of at most so many digits; a zero in front may be refused. -/
def number (base limit maxDigits : Nat) (zeroInFront : Bool) (cs : List Char) :
    Option (Nat × List Char) :=
  let (ds, rest) := leadingDigits base cs
  let n := ds.foldl (fun n d => base * n + d) 0
  if ds.isEmpty || maxDigits < ds.length || limit ≤ n then none
  else if !zeroInFront && ds.head? = some 0 && 1 < ds.length then none
  else some (n, rest)

/-- Reads one of the numbers of an address with dots. -/
def octet (cs : List Char) : Option (Nat × List Char) :=
  number 10 256 3 false cs

/-- Reads an expected character. -/
def expect (c : Char) : List Char → Option (List Char)
  | d :: rest => if c = d then some rest else none
  | [] => none

/-- Reads four numbers between dots. -/
def dotted (cs : List Char) : Option (List Nat × List Char) := do
  let (a, cs) ← octet cs
  let (b, cs) ← octet (← expect '.' cs)
  let (c, cs) ← octet (← expect '.' cs)
  let (d, cs) ← octet (← expect '.' cs)
  return ([a, b, c, d], cs)

/-- Reads what a separator comes before, unless it comes first. -/
def separated {α : Type} (first : Bool) (read : List Char → Option α) (cs : List Char) :
    Option α :=
  if first then read cs else (expect ':' cs).bind read

/-- What a run of groups is. -/
structure Groups where
  groups : List Nat
  /-- Whether the last two groups were written as decimal numbers. -/
  dottedEnd : Bool
  rest : List Char

/-- Reads at most so many groups. -/
def groups : Nat → Bool → List Char → Groups
  | 0, _, cs => ⟨[], false, cs⟩
  | limit + 1, first, cs =>
    match if 0 < limit then separated first dotted cs else none with
    | some (ns, rest) =>
      ⟨[ns.getD 0 0 * 256 + ns.getD 1 0, ns.getD 2 0 * 256 + ns.getD 3 0], true, rest⟩
    | none =>
      match separated first (number 16 65536 4 true) cs with
      | some (g, rest) =>
        let more := groups limit false rest
        { more with groups := g :: more.groups }
      | none => ⟨[], false, cs⟩

/-- Reads the groups of an address. -/
def grouped (cs : List Char) : Option (List Nat × List Char) :=
  let front := groups 8 true cs
  if front.groups.length = 8 then some (front.groups, front.rest)
  else if front.dottedEnd then none
  else do
    let cs ← expect ':' (← expect ':' front.rest)
    let back := groups (7 - front.groups.length) true cs
    let zeros := 8 - front.groups.length - back.groups.length
    return (front.groups ++ List.replicate zeros 0 ++ back.groups, back.rest)

/-- Reads the number of a zone, if there is one. -/
def zone : List Char → Option (List Char)
  | '%' :: rest => (number 10 4294967296 rest.length true rest).map (·.2)
  | cs => some cs

/-- Reads the number after the last colon, up to the end of the text. -/
def lastNumber (cs : List Char) : Option Nat := do
  let cs ← expect ':' cs
  let (n, rest) ← number 10 65536 cs.length true cs
  if rest.isEmpty then some n else none

end SocketAddress

/-- A socket address: the parts of the network address, four or eight of them, and the number. -/
structure SocketAddress where
  parts : List Nat
  portNumber : Nat
  deriving DecidableEq, Repr

namespace SocketAddress

/-- Reads an address with dots. -/
def ofDotted? (cs : List Char) : Option SocketAddress := do
  let (parts, cs) ← dotted cs
  return ⟨parts, ← lastNumber cs⟩

/-- Reads an address in brackets. -/
def ofBracketed? (cs : List Char) : Option SocketAddress := do
  let (parts, cs) ← grouped (← expect '[' cs)
  let cs ← expect ']' (← zone cs)
  return ⟨parts, ← lastNumber cs⟩

/-- Reads a socket address. -/
def parse? (text : String) : Option SocketAddress :=
  (ofDotted? text.toList).or (ofBracketed? text.toList)

end SocketAddress
end SidecarProxy
