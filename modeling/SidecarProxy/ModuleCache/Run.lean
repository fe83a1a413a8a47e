import SidecarProxy.ModuleCache.Calls

/-!
# Runs of the module cache

A batch of calls is started in order, each one running until it has to wait.
Then the control plane answers one fetch after the other, in the order in which
they were sent, and every call goes on as soon as it can.
-/

namespace SidecarProxy
namespace ModuleCache

open Catalog Route

/-- Whoever is asked for descriptions: the answer to the next request for an id, and what it
answers afterwards. -/
abbrev Source (σ : Type) := String → σ → Except ControlPlane.Failure ModuleDescription × σ

/-- A cache with the fetches that wait for an answer. -/
structure Running (σ : Type) where
  cache : Cache
  source : σ
  /-- The calls whose fetches are not answered, with their answers, in order. -/
  awaited : List (Nat × Except ControlPlane.Failure ModuleDescription) := []

namespace Running

variable {σ : Type}

/-- Makes a move that is possible, and no other. -/
def move (r : Running σ) (m : Move) : Running σ :=
  { r with cache := (r.cache.move? m).getD r.cache }

/-- Lets a call load if it is its turn. -/
def tryBegin (ask : Source σ) (n : Nat) (r : Running σ) : Running σ :=
  match r.cache.calls[n]?, r.cache.move? (.begin n) with
  | some call, some cache =>
    let (document, source) := ask call.key r.source
    ⟨cache, source, r.awaited ++ [(n, document)]⟩
  | _, _ => r

/-- Starts a call, which runs until it has to wait. -/
def start (ask : Source σ) (key : String) (r : Running σ) : Running σ :=
  let n := r.cache.calls.length
  ((r.move (.enter key)).move (.look n)).tryBegin ask n

/-- Lets the calls in line at a cell go on after its load has ended. -/
def wake (ask : Source σ) (cell : Nat) (r : Running σ) : Running σ :=
  match (r.cache.cell cell).content, (r.cache.cell cell).line with
  | some _, line => line.foldl (fun r n => r.move (.receive n)) r
  | none, next :: _ => r.tryBegin ask next
  | none, [] => r

/-- Delivers the answer to the first fetch that waits for one. -/
def deliver (ask : Source σ) (r : Running σ) : Running σ :=
  match r.awaited with
  | [] => r
  | (n, document) :: rest =>
    let cell := (r.cache.calls[n]?.map (·.cell)).getD 0
    ({ r with awaited := rest }.move (.answer n document)).wake ask cell

/-- Delivers so many answers. -/
def deliverAll (ask : Source σ) : Nat → Running σ → Running σ
  | 0, r => r
  | k + 1, r => deliverAll ask k (r.deliver ask)

end Running

/-- The result of a call that has ended with one. -/
def resultOf (c : Cache) (n : Nat) : Option (Except ControlPlane.Failure Table) :=
  match c.calls[n]? with
  | some { phase := .returned loaded, .. } => some (.ok loaded.table)
  | some { phase := .failed e, .. } => some (.error e)
  | _ => none

namespace Cache

variable {σ : Type}

/-- Calls for several tables at the same time; the results stand in the order of the calls. -/
def getAll (c : Cache) (ask : Source σ) (keys : List String) (s : σ) :
    List (Except ControlPlane.Failure Table) × Cache × σ :=
  let first := c.calls.length
  let started := keys.foldl (fun r key => r.start ask key) (⟨c, s, []⟩ : Running σ)
  let r := started.deliverAll ask keys.length
  ((List.range keys.length).filterMap fun i => resultOf r.cache (first + i), r.cache, r.source)

/-- Calls for one table. -/
def get (c : Cache) (ask : Source σ) (key : String) (s : σ) :
    Except ControlPlane.Failure Table × Cache × σ :=
  let (results, c, s) := c.getAll ask [key] s
  (results.headD (.error (.transport "")), c, s)

/-- Starts a call and gives it up as soon as it has to wait; tells whether it had to. -/
def getAbandoned (c : Cache) (ask : Source σ) (key : String) (s : σ) : Bool × Cache × σ :=
  let n := c.calls.length
  let r := (⟨c, s, []⟩ : Running σ).start ask key
  match r.cache.move? (.abandon n) with
  | some cache => (true, cache, r.source)
  | none => (false, r.cache, r.source)

end Cache
end ModuleCache
end SidecarProxy
