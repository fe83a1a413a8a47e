import SidecarProxy.ControlPlane.Failure
import SidecarProxy.Metrics
import SidecarProxy.ModuleCache.Slots

/-!
# Calls to the module cache

Any number of calls ask for the tables of modules at the same time.  A call
first takes a slot, then looks into the cell of the slot.  An empty cell is
loaded by one call at a time; the others stand in line.  A load that succeeds
fills the cell for everybody in line; after one that fails or is given up, the
next in line loads.

Every move below is one step that no other move interrupts, and any order of
moves is a possible run.
-/

namespace SidecarProxy
namespace ModuleCache

open Catalog Route

/-- A table in a cell. -/
structure Loaded where
  table : Table
  /-- The number of the fetch that brought the document of the table. -/
  fetch : Nat
  deriving DecidableEq, Repr

/-- A place for a table that is filled once. -/
structure Cell where
  content : Option Loaded := none
  /-- The call that loads. -/
  loader : Option Nat := none
  /-- The calls in line, the next one first. -/
  line : List Nat := []
  deriving DecidableEq, Repr, Inhabited

/-- How far a call has come. -/
inductive Phase where
  /-- Holds a slot and has not looked into its cell. -/
  | entered
  /-- Stands in line at an empty cell. -/
  | waiting
  /-- Loads with the fetch of this number. -/
  | loading (fetch : Nat)
  | returned (loaded : Loaded)
  | failed (failure : ControlPlane.Failure)
  /-- Given up by its caller. -/
  | abandoned
  deriving DecidableEq, Repr

/-- A call for the table of a module. -/
structure Call where
  key : String
  cell : Nat
  /-- When the call began. -/
  since : Nat
  phase : Phase := .entered
  deriving DecidableEq, Repr

/-- A request for the description of a module. -/
structure Fetch where
  key : String
  /-- The call that asks. -/
  call : Nat
  /-- When it began. -/
  since : Nat
  /-- The description, once it came. -/
  document : Option ModuleDescription := none
  /-- Whether an answer is still awaited. -/
  pending : Bool := true
  deriving DecidableEq, Repr

/-- The cache, with everything that was ever asked of it. -/
structure Cache where
  limits : Limits
  now : Nat := 0
  slots : Slots := []
  cells : List Cell := []
  calls : List Call := []
  fetches : List Fetch := []
  events : List Metrics.Event := []
  deriving DecidableEq, Repr

/-- What can happen. -/
inductive Move where
  /-- Time passes. -/
  | pass (nanos : Nat)
  /-- A new call takes the slot of a key. -/
  | enter (key : String)
  /-- A call looks into its cell. -/
  | look (call : Nat)
  /-- The next call in line begins to load. -/
  | begin (call : Nat)
  /-- The control plane answers the call that loads. -/
  | answer (call : Nat) (document : Except ControlPlane.Failure ModuleDescription)
  /-- A call in line finds its cell filled. -/
  | receive (call : Nat)
  /-- A caller gives up. -/
  | abandon (call : Nat)
  /-- The slot of a key is dropped. -/
  | invalidate (key : String)
  deriving Repr

namespace Cache

/-- The measurement of a lookup. -/
def counted (r : Metrics.LookupResult) : Metrics.Event :=
  .count (.cacheLookups r)

/-- The cell of a number. -/
def cell (c : Cache) (n : Nat) : Cell :=
  c.cells.getD n {}

/-- Changes the phase of a call. -/
def setPhase (c : Cache) (call : Nat) (phase : Phase) : Cache :=
  { c with calls := c.calls.modify call fun k => { k with phase := phase } }

/-- Changes a cell. -/
def setCell (c : Cache) (n : Nat) (cell : Cell) : Cache :=
  { c with cells := c.cells.set n cell }

/-- Notes a measurement. -/
def count (c : Cache) (r : Metrics.LookupResult) : Cache :=
  { c with events := c.events ++ [counted r] }

/-- A new call takes the slot of a key. -/
def enter (c : Cache) (key : String) : Cache :=
  let (slot, slots) := c.slots.slotFor c.limits c.now c.cells.length key
  { c with
    slots := slots
    cells := if slot.cell = c.cells.length then c.cells ++ [{}] else c.cells
    calls := c.calls ++ [{ key := key, cell := slot.cell, since := c.now }] }

/-- A call looks into its cell: it returns what is there, or stands in line. -/
def look (c : Cache) (n : Nat) (call : Call) : Cache :=
  let cell := c.cell call.cell
  match cell.content with
  | some loaded => (c.setPhase n (.returned loaded)).count .hit
  | none => (c.setPhase n .waiting).setCell call.cell { cell with line := cell.line ++ [n] }

/-- A call sends a fetch. -/
def openFetch (c : Cache) (n : Nat) (call : Call) : Cache :=
  { c with fetches := c.fetches ++ [{ key := call.key, call := n, since := c.now }] }

/-- A call begins to load its cell. -/
def load (c : Cache) (n : Nat) (call : Call) (cell : Cell) : Cache :=
  (((c.setPhase n (.loading c.fetches.length)).setCell call.cell
    { cell with loader := some n, line := cell.line.erase n }).openFetch n call).count .miss

/-- The compiled table of an answer. -/
def compile (document : Except ControlPlane.Failure ModuleDescription) :
    Except ControlPlane.Failure Table :=
  match document with
  | .error e => .error e
  | .ok d => (Table.ofModule d none).mapError .ofRejection

/-- A fetch comes to its end. -/
def closeFetch (c : Cache) (fetch : Nat) (document : Option ModuleDescription) : Cache :=
  { c with
    fetches := c.fetches.modify fetch fun f =>
      { f with document := document, pending := false } }

/-- The answer to a fetch fills the cell, or fails the call that loads. -/
def finish (c : Cache) (n : Nat) (call : Call) (fetch : Nat)
    (document : Except ControlPlane.Failure ModuleDescription) : Cache :=
  let cell := c.cell call.cell
  match compile document with
  | .error e =>
    (((c.setPhase n (.failed e)).setCell call.cell { cell with loader := none }).closeFetch
      fetch document.toOption).count .error
  | .ok table =>
    let loaded : Loaded := ⟨table, fetch⟩
    ((c.setPhase n (.returned loaded)).setCell call.cell
      { cell with loader := none, content := some loaded }).closeFetch fetch document.toOption

/-- A caller gives up: its call leaves the line, or its load ends without an answer. -/
def giveUp (c : Cache) (n : Nat) (call : Call) : Cache :=
  let cell := c.cell call.cell
  match call.phase with
  | .loading fetch =>
    ((c.setPhase n .abandoned).setCell call.cell { cell with loader := none }).closeFetch
      fetch none
  | .waiting =>
    (c.setPhase n .abandoned).setCell call.cell { cell with line := cell.line.erase n }
  | _ => c.setPhase n .abandoned

/-- Whether a call has not ended. -/
def isOpen (call : Call) : Bool :=
  match call.phase with
  | .entered | .waiting | .loading _ => true
  | .returned _ | .failed _ | .abandoned => false

/-- The cache after a move, if the move is possible. -/
def move? (c : Cache) : Move → Option Cache
  | .pass nanos => some { c with now := c.now + nanos }
  | .enter key => some (c.enter key)
  | .look n => do
    let call ← c.calls[n]?
    if call.phase = .entered then some (c.look n call) else none
  | .begin n => do
    let call ← c.calls[n]?
    let cell := c.cell call.cell
    if call.phase = .waiting && cell.content.isNone && cell.loader.isNone
        && cell.line.head? = some n then
      some (c.load n call cell)
    else none
  | .answer n document => do
    let call ← c.calls[n]?
    match call.phase with
    | .loading fetch => some (c.finish n call fetch document)
    | _ => none
  | .receive n => do
    let call ← c.calls[n]?
    let cell := c.cell call.cell
    match call.phase, cell.content with
    | .waiting, some loaded =>
      some ((c.setPhase n (.returned loaded)).setCell call.cell
        { cell with line := cell.line.erase n })
    | _, _ => none
  | .abandon n => do
    let call ← c.calls[n]?
    if isOpen call then some (c.giveUp n call) else none
  | .invalidate key => some { c with slots := c.slots.remove key }

/-- The number of slots. -/
def size (c : Cache) : Nat :=
  c.slots.length

end Cache
end ModuleCache
end SidecarProxy
