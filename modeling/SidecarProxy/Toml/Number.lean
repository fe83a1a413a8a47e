import SidecarProxy.Json.Basic
import SidecarProxy.Toml.Text

/-!
# Numbers and times of TOML

Digits may be grouped by underscores, each of which stands between two digits.
An integer is held in 64 bits with a sign.  A date or a time is a record with one
member.
-/

namespace SidecarProxy
namespace Toml

open Text

/-- The digits after the first, with underscores taken out, and what is left. -/
def moreDigits (isDigit : Char → Bool) : List Char → List Char × List Char
  | '_' :: c :: rest =>
    if isDigit c then
      let (ds, rest) := moreDigits isDigit rest
      (c :: ds, rest)
    else ([], '_' :: c :: rest)
  | c :: rest =>
    if isDigit c then
      let (ds, rest) := moreDigits isDigit rest
      (c :: ds, rest)
    else ([], c :: rest)
  | [] => ([], [])

/-- Reads digits with underscores between them. -/
def digits (isDigit : Char → Bool) : List Char → Option (List Char × List Char)
  | c :: rest =>
    if isDigit c then
      let (ds, rest) := moreDigits isDigit rest
      some (c :: ds, rest)
    else none
  | [] => none

/-- Reads decimal digits; a zero in front stands alone. -/
def wholeDigits : List Char → Option (List Char × List Char)
  | '0' :: rest => some (['0'], rest)
  | cs => digits Char.isDigit cs

/-- Reads a sign, if there is one; true for minus. -/
def sign : List Char → Bool × List Char
  | '-' :: rest => (true, rest)
  | '+' :: rest => (false, rest)
  | cs => (false, cs)

/-- The number that digits of a base write. -/
def numberOf (base : Nat) (ds : List Char) : Nat :=
  ds.foldl (fun n c => base * n + (hexValue? c).getD 0) 0

/-- An integer, if it fits. -/
def integerValue (n : Int) : Option Json.Value :=
  if -9223372036854775808 ≤ n && n < 9223372036854775808 then some (.integer n) else none

/-- Whether a character is a digit of a base up to sixteen. -/
def isDigitOf (base : Nat) (c : Char) : Bool :=
  match hexValue? c with
  | some v => v < base
  | none => false

/-- Reads an integer after the mark of its base. -/
def basedInteger (base : Nat) (cs : List Char) : Option (Json.Value × List Char) := do
  let (ds, rest) ← digits (isDigitOf base) cs
  return (← integerValue (numberOf base ds), rest)

/-- Reads an integer. -/
def integer : List Char → Option (Json.Value × List Char)
  | '0' :: 'x' :: rest => basedInteger 16 rest
  | '0' :: 'o' :: rest => basedInteger 8 rest
  | '0' :: 'b' :: rest => basedInteger 2 rest
  | cs => do
    let (negative, cs) := sign cs
    let (ds, rest) ← wholeDigits cs
    let n : Int := numberOf 10 ds
    return (← integerValue (if negative then -n else n), rest)

/-- Reads the digits after a point. -/
def fractionPart : List Char → Option (List Char × List Char)
  | '.' :: rest => digits Char.isDigit rest
  | _ => none

/-- Reads an exponent. -/
def exponentPart : List Char → Option (Int × List Char)
  | c :: rest =>
    if c == 'e' || c == 'E' then do
      let (negative, rest) := sign rest
      let (ds, rest) ← digits Char.isDigit rest
      let n : Int := numberOf 10 ds
      return (if negative then -n else n, rest)
    else none
  | [] => none

/-- The first number above every number with a fraction that can be held. -/
def fractionLimit : Nat := Nat.pow 2 1024 - Nat.pow 2 970

/-- Whether digits times a power of ten are too large to be held. -/
def tooLarge (ds : List Char) (exponent : Int) : Bool :=
  let significant := ds.dropWhile (· == '0')
  let size : Int := significant.length + exponent
  if significant.isEmpty || size < 300 then false
  else if 320 < size then true
  else
    let n := numberOf 10 significant
    if 0 ≤ exponent then fractionLimit ≤ n * Nat.pow 10 exponent.toNat
    else fractionLimit * Nat.pow 10 (-exponent).toNat ≤ n

/-- Reads a number with a fraction, an exponent or both. -/
def fraction (cs : List Char) : Option (Json.Value × List Char) := do
  let (negative, cs) := sign cs
  let (whole, cs) ← wholeDigits cs
  let (decimals, afterPoint) ← match cs with
    | '.' :: _ => fractionPart cs
    | _ => some ([], cs)
  let (exponent, rest) ← match exponentPart afterPoint with
    | some read => some read
    | none => if decimals.isEmpty then none else some (0, afterPoint)
  if !negative && tooLarge (whole ++ decimals) (exponent - decimals.length) then none
  else some (.fraction (String.ofList whole), rest)

/-- Reads infinity or no number, without a sign. -/
def special : List Char → Option (Json.Value × List Char)
  | 'i' :: 'n' :: 'f' :: rest => some (.fraction "inf", rest)
  | 'n' :: 'a' :: 'n' :: rest => some (.fraction "nan", rest)
  | _ => none

/-- Reads so many digits as a number. -/
def fixedDigits (count : Nat) (cs : List Char) : Option (Nat × List Char) :=
  let ds := cs.take count
  if ds.length = count && ds.all Char.isDigit then some (numberOf 10 ds, cs.drop count) else none

/-- Reads a character. -/
def mark (c : Char) : List Char → Option (List Char)
  | d :: rest => if c == d then some rest else none
  | [] => none

/-- Whether a year has a day more. -/
def isLeapYear (year : Nat) : Bool :=
  year % 4 = 0 && (year % 100 != 0 || year % 400 = 0)

/-- The days of a month. -/
def daysIn (year month : Nat) : Nat :=
  if month = 2 then (if isLeapYear year then 29 else 28)
  else if month = 4 || month = 6 || month = 9 || month = 11 then 30
  else 31

/-- Reads a date and gives what is left. -/
def date (cs : List Char) : Option (List Char) := do
  let (year, cs) ← fixedDigits 4 cs
  let cs ← mark '-' cs
  let (month, cs) ← fixedDigits 2 cs
  let cs ← mark '-' cs
  let (day, cs) ← fixedDigits 2 cs
  if 1 ≤ month && month ≤ 12 && 1 ≤ day && day ≤ daysIn year month then some cs else none

/-- The text after decimals of a second, if there are any. -/
def afterDecimals : List Char → List Char
  | '.' :: c :: rest => if c.isDigit then rest.dropWhile Char.isDigit else '.' :: c :: rest
  | cs => cs

/-- Reads a time of day and gives what is left. -/
def clockTime (cs : List Char) : Option (List Char) := do
  let (hour, cs) ← fixedDigits 2 cs
  let cs ← mark ':' cs
  let (minute, cs) ← fixedDigits 2 cs
  let cs ← mark ':' cs
  let (second, cs) ← fixedDigits 2 cs
  if hour ≤ 23 && minute ≤ 59 && second ≤ 60 then some (afterDecimals cs) else none

/-- Reads the distance from universal time, if there is one; nothing when it is malformed. -/
def offset : List Char → Option (List Char)
  | 'Z' :: rest | 'z' :: rest => some rest
  | c :: rest =>
    if c == '+' || c == '-' then do
      let (hour, rest) ← fixedDigits 2 rest
      let rest ← mark ':' rest
      let (minute, rest) ← fixedDigits 2 rest
      if hour ≤ 23 && minute ≤ 59 then some rest else none
    else some (c :: rest)
  | [] => some []

/-- Reads a time after a date, if there is one; nothing when its distance is malformed. -/
def timeAfterDate (cs : List Char) : Option (List Char) :=
  match cs with
  | c :: rest =>
    if c == 'T' || c == 't' || c == ' ' then
      match clockTime rest with
      | some rest => offset rest
      | none => some cs
    else some cs
  | [] => some []

/-- Reads a date, a time or both. -/
def dateTime (cs : List Char) : Option (Json.Value × List Char) :=
  let rest := match date cs with
    | some rest => timeAfterDate rest
    | none => clockTime cs
  rest.map fun rest =>
    (.ofMembers [("datetime", .ofText (String.ofList (cs.take (cs.length - rest.length))))], rest)

/-- Reads a number, a date or a time. -/
def number (cs : List Char) : Option (Json.Value × List Char) :=
  (dateTime cs).or ((fraction cs).or ((special (sign cs).2).or (integer cs)))

end Toml
end SidecarProxy
