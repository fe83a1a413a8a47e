import SidecarProxy.Text.Letters

/-!
# Tables of characters

What is known of characters is written as rows of hexadecimal numbers, with
commas between the numbers of a row and blanks between the rows.  Most rows
speak of a stretch of neighbouring characters.
-/

namespace SidecarProxy
namespace Unicode

open Text

/-- A table that has been read in part. -/
structure TableReading where
  rows : Array (List Nat) := #[]
  /-- The numbers of the row that is being read, the last one in front. -/
  row : List Nat := []

/-- Ends the row that is being read. -/
def TableReading.endRow (t : TableReading) : TableReading :=
  if t.row.isEmpty then t else { rows := t.rows.push t.row.reverse, row := [] }

/-- Reads a character of a table. -/
def TableReading.step (t : TableReading) (c : Char) : TableReading :=
  match hexValue? c, t.row with
  | some d, [] => { t with row := [d] }
  | some d, n :: more => { t with row := (16 * n + d) :: more }
  | none, row => if c == ',' then { t with row := 0 :: row } else t.endRow

/-- The rows of a table. -/
def rows (text : String) : Array (List Nat) :=
  (text.toList.foldl TableReading.step {}).endRow.rows

/-- Neighbouring characters, by the numbers of the first and the last one. -/
structure Stretch where
  first : Nat
  last : Nat
  /-- A number that goes with the characters. -/
  value : Nat := 0
  deriving DecidableEq, Repr

/-- Whether a character belongs to a stretch. -/
def Stretch.holds (s : Stretch) (c : Char) : Bool :=
  s.first ≤ c.toNat && c.toNat ≤ s.last

/-- The stretches in rows with a first and a last number; one number is both. -/
def stretches (text : String) : Array Stretch :=
  (rows text).filterMap fun row =>
    match row with
    | [only] => some { first := only, last := only }
    | [first, last] => some { first := first, last := last }
    | _ => none

/-- The stretches in rows that have a further number at the end. -/
def valuedStretches (text : String) : Array Stretch :=
  (rows text).filterMap fun row =>
    match row with
    | [only, value] => some { first := only, last := only, value := value }
    | [first, last, value] => some { first := first, last := last, value := value }
    | _ => none

/-- Whether a character belongs to one of some stretches. -/
def isIn (table : Array Stretch) (c : Char) : Bool :=
  table.any (·.holds c)

/-- The stretch to which a character belongs. -/
def stretchOf? (table : Array Stretch) (c : Char) : Option Stretch :=
  table.find? (·.holds c)

end Unicode
end SidecarProxy
