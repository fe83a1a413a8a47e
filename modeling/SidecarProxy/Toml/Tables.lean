import SidecarProxy.Json.Basic

/-!
# Tables of TOML

The lines of a document build a tree of tables.  A table comes into being under
its own header, on the way to another header, or through a key with dots; that
decides how it may be added to later.  Nothing may be defined twice.
-/

namespace SidecarProxy
namespace Toml

/-- How a table came into being. -/
inductive Origin where
  /-- Under a header of its own. -/
  | header
  /-- On the way to the header of a table inside it. -/
  | path
  /-- Through a key with dots. -/
  | dotted
  deriving DecidableEq, Repr

/-- What stands under a key. -/
inductive Item where
  | value (v : Json.Value)
  | table (origin : Origin) (entries : List (String × Item))
  /-- A list of tables; the last one may still grow. -/
  | tables (earlier : List (List (String × Item))) (last : List (String × Item))
  deriving Inhabited

/-- The keys of a table with what stands under them. -/
abbrev Entries := List (String × Item)

namespace Entries

/-- Puts an item in place of the one under a key. -/
def replace (key : String) (item : Item) (es : Entries) : Entries :=
  es.map fun e => if e.1 = key then (key, item) else e

/--
Sets the value of a key that is reached through dots.  `mayTake` tells whether the
table itself may take the key.
-/
def set (key : String) (v : Json.Value) : List String → Bool → Entries → Option Entries
  | [], mayTake, es =>
    if mayTake && (es.lookup key).isNone then some (es ++ [(key, .value v)]) else none
  | p :: path, _, es =>
    match es.lookup p with
    | none => (set key v path true []).map fun inner => es ++ [(p, .table .dotted inner)]
    | some (.value _) => none
    | some (.table origin inner) =>
      if origin = .header then none
      else (set key v path (origin = .dotted) inner).map fun inner =>
        replace p (.table origin inner) es
    | some (.tables earlier last) =>
      (set key v path false last).map fun last => replace p (.tables earlier last) es

/-- Changes the table that a path of headers leads to; tables on the way come into being. -/
def modify (f : Entries → Option Entries) : List String → Entries → Option Entries
  | [], es => f es
  | p :: path, es =>
    match es.lookup p with
    | none => (modify f path []).map fun inner => es ++ [(p, .table .path inner)]
    | some (.value _) => none
    | some (.table origin inner) =>
      (modify f path inner).map fun inner => replace p (.table origin inner) es
    | some (.tables earlier last) =>
      (modify f path last).map fun last => replace p (.tables earlier last) es

/-- Opens the table of a header. -/
def openTable (key : String) (es : Entries) : Option Entries :=
  match es.lookup key with
  | none => some (es ++ [(key, .table .header [])])
  | some (.table .path inner) => some (replace key (.table .header inner) es)
  | some _ => none

/-- Opens a further table of a list of tables. -/
def openNext (key : String) (es : Entries) : Option Entries :=
  match es.lookup key with
  | none => some (es ++ [(key, .tables [] [])])
  | some (.tables earlier last) => some (replace key (.tables (earlier ++ [last]) []) es)
  | some _ => none

end Entries

mutual

/-- An item as a value. -/
def Item.toValue : Item → Json.Value
  | .value v => v
  | .table _ entries => .object (membersOf entries)
  | .tables earlier last => .array (tableValues earlier ++ [.object (membersOf last)])

/-- The members of a table. -/
def membersOf : List (String × Item) → List (Option String × Json.Value)
  | [] => []
  | (key, item) :: rest => (some key, item.toValue) :: membersOf rest

/-- The values of tables. -/
def tableValues : List (List (String × Item)) → List Json.Value
  | [] => []
  | entries :: rest => .object (membersOf entries) :: tableValues rest

end

/-- A table as a value. -/
def Entries.toValue (es : Entries) : Json.Value :=
  .object (membersOf es)

end Toml
end SidecarProxy
