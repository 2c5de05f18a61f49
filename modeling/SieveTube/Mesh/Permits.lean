import SieveTube.Library.KeyedMap
import SieveTube.Library.Run
import SieveTube.Library.Semaphore
import SieveTube.Library.Tasks

/-!
# Stream budgets of the mesh

A `PermitTable` keeps one semaphore for each peer and for each tenant that is
in use.  Calls of `tenant_and_peer`, the release of their permits and `sweep`
interleave at every operation on a map entry, a semaphore or a reference
count.
-/

namespace SieveTube

namespace Mesh

inductive Budget where
  | tenant
  | peer
deriving DecidableEq

structure MeshLimits where
  maxStreamsPerPeer : Nat
  maxStreamsPerTenant : Nat

def MeshLimits.limit (limits : MeshLimits) : Budget → Nat
  | .tenant => limits.maxStreamsPerTenant
  | .peer => limits.maxStreamsPerPeer

/-- An allocation behind an `Arc`, with the number of references to it. -/
structure ArcSemaphore where
  strong : Nat
  semaphore : Semaphore Nat

/-- The maps name semaphores by allocation.  Waiters are named by the index
of their call. -/
structure PermitTable where
  maps : Budget → AList fun _ : String => Nat
  semaphores : Nat → ArcSemaphore
  allocated : Nat

/-- The part of a call that concerns one of the two budgets.  `returned` has
given its permit back, but still refers to the semaphore. -/
inductive PermitSlot where
  | absent
  | cloned (id : Nat)
  | waiting (id : Nat)
  | held (id : Nat)
  | returned (id : Nat)
deriving DecidableEq

namespace PermitSlot

/-- The semaphore a slot refers to. -/
def ref : PermitSlot → Option Nat
  | .absent => none
  | .cloned id | .waiting id | .held id | .returned id => some id

def isHeld : PermitSlot → Bool
  | .held _ => true
  | _ => false

end PermitSlot

namespace PermitTable

variable (limits : MeshLimits) (table : PermitTable)

def empty : PermitTable :=
  { maps := fun _ => ∅
    semaphores := fun _ => ⟨0, .new 0⟩
    allocated := 0 }

def put (id : Nat) (semaphore : Semaphore Nat) : PermitTable :=
  { table with
    semaphores := Function.update table.semaphores id
      { table.semaphores id with semaphore } }

def retain (id : Nat) : PermitTable :=
  { table with
    semaphores := Function.update table.semaphores id
      { table.semaphores id with strong := (table.semaphores id).strong + 1 } }

def release (id : Nat) : PermitTable :=
  { table with
    semaphores := Function.update table.semaphores id
      { table.semaphores id with strong := (table.semaphores id).strong - 1 } }

/-- The semaphore of a key, which is created on demand, with a new reference
to it. -/
def entry (budget : Budget) (key : String) : Nat × PermitTable :=
  match (table.maps budget).lookup key with
  | some id => (id, table.retain id)
  | none =>
    (table.allocated,
      { maps := Function.update table.maps budget
          ((table.maps budget).insert key table.allocated)
        semaphores := Function.update table.semaphores table.allocated
          ⟨2, .new (limits.limit budget)⟩
        allocated := table.allocated + 1 })

/-- The next step of `acquire` for one budget. -/
def acquire (index : Nat) (budget : Budget) (key : String) :
    PermitSlot → PermitSlot × PermitTable
  | .absent =>
    let (id, table) := table.entry limits budget key
    (.cloned id, table)
  | .cloned id =>
    let (taken, semaphore) := (table.semaphores id).semaphore.enter index
    (if taken then .held id else .waiting id, table.put id semaphore)
  | .waiting id =>
    let (taken, semaphore) := (table.semaphores id).semaphore.wake index
    (if taken then .held id else .waiting id, table.put id semaphore)
  | slot => (slot, table)

/-- The next step of dropping what a call has for one budget. -/
def drop (index : Nat) : PermitSlot → PermitSlot × PermitTable
  | .absent => (.absent, table)
  | .cloned id | .returned id => (.absent, table.release id)
  | .waiting id =>
    (.returned id, table.put id ((table.semaphores id).semaphore.leave index))
  | .held id =>
    (.returned id, table.put id (table.semaphores id).semaphore.addPermit)

/-- What `sweep` does with one entry. -/
def sweep (budget : Budget) (key : String) : PermitTable :=
  match (table.maps budget).lookup key with
  | none => table
  | some id =>
    if 1 < (table.semaphores id).strong ∨
        (table.semaphores id).semaphore.permits < limits.limit budget then
      table
    else
      { table.release id with
        maps := Function.update table.maps budget
          ((table.maps budget).erase key) }

end PermitTable

/-- `ending` drops what is left for the budgets of a list, one after the
other.  The message is that of a failed call. -/
inductive CallPhase where
  | acquiring
  | granted
  | ending (left : List Budget) (failure : Option String)
  | ended (failure : Option String)
deriving DecidableEq

/-- A call of `tenant_and_peer` and the life of its permits. -/
structure PermitCall where
  tenant : String
  peer : String
  slots : Budget → PermitSlot
  phase : CallPhase

namespace PermitCall

def key (call : PermitCall) : Budget → String
  | .tenant => call.tenant
  | .peer => call.peer

def setSlot (call : PermitCall) (budget : Budget) (slot : PermitSlot) :
    PermitCall :=
  { call with slots := Function.update call.slots budget slot }

/-- The budget that a call is to take a slot of. -/
def pending (call : PermitCall) : Option Budget :=
  if (call.slots .tenant).isHeld = false then some .tenant
  else if (call.slots .peer).isHeld = false then some .peer
  else none

def timeoutMessage : Budget → String
  | .tenant => "no stream slot for tenant"
  | .peer => "no stream slot for edge"

/-- The next step of a call. -/
def proceed (limits : MeshLimits) (table : PermitTable) (index : Nat)
    (call : PermitCall) : PermitCall × PermitTable :=
  match call.phase with
  | .acquiring =>
    match call.pending with
    | none => ({ call with phase := .granted }, table)
    | some budget =>
      let (slot, table) :=
        table.acquire limits index budget (call.key budget) (call.slots budget)
      (call.setSlot budget slot, table)
  | .ending (budget :: left) failure =>
    if call.slots budget = .absent then
      ({ call with phase := .ending left failure }, table)
    else
      let (slot, table) := table.drop index (call.slots budget)
      (call.setSlot budget slot, table)
  | .ending [] failure => ({ call with phase := .ended failure }, table)
  | .granted | .ended _ => (call, table)

/-- The wait for a slot times out.  The futures and permits of a call that
fails are dropped in the reverse order of their creation. -/
def timeOut (call : PermitCall) : PermitCall :=
  match call.phase, call.pending with
  | .acquiring, some budget =>
    match call.slots budget with
    | .waiting _ =>
      { call with
        phase := .ending [.peer, .tenant] (some (timeoutMessage budget)) }
    | _ => call
  | _, _ => call

def cancel (call : PermitCall) : PermitCall :=
  match call.phase with
  | .acquiring => { call with phase := .ending [.peer, .tenant] none }
  | _ => call

/-- The owner of the permits drops them. -/
def release (call : PermitCall) : PermitCall :=
  match call.phase with
  | .granted => { call with phase := .ending [.tenant, .peer] none }
  | _ => call

end PermitCall

inductive PermitEvent where
  | call (tenant peer : String)
  | proceed (index : Nat)
  | timeOut (index : Nat)
  | cancel (index : Nat)
  | release (index : Nat)
  | sweep (budget : Budget) (key : String)
deriving DecidableEq

structure PermitState extends PermitTable where
  calls : List PermitCall

namespace PermitState

def start : PermitState := { toPermitTable := .empty, calls := [] }

/-- One call takes a step. -/
def turn (state : PermitState) (index : Nat)
    (move : PermitCall → PermitCall × PermitTable) : PermitState :=
  match state.calls[index]? with
  | none => state
  | some call =>
    let (call, table) := move call
    { toPermitTable := table, calls := state.calls.set index call }

def step (limits : MeshLimits) (state : PermitState) : PermitEvent → PermitState
  | .call tenant peer =>
    let call := { tenant, peer, slots := fun _ => .absent, phase := .acquiring }
    { state with calls := state.calls ++ [call] }
  | .proceed index =>
    state.turn index (PermitCall.proceed limits state.toPermitTable index)
  | .timeOut index =>
    state.turn index fun call => (call.timeOut, state.toPermitTable)
  | .cancel index =>
    state.turn index fun call => (call.cancel, state.toPermitTable)
  | .release index =>
    state.turn index fun call => (call.release, state.toPermitTable)
  | .sweep budget key =>
    { state with
      toPermitTable := state.toPermitTable.sweep limits budget key }

def run (limits : MeshLimits) (events : List PermitEvent) : PermitState :=
  Run.after (step limits) start events

end PermitState

end Mesh

end SieveTube
