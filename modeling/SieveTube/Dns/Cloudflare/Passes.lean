import SieveTube.Dns.Cloudflare.Rejection
import SieveTube.Dns.Requests

/-!
# Passes against the service

A reconciliation pass reads and changes records through the adapter.  It may
be cut off between any two of its calls, and each of its changes between any
two calls of the API; the state file stays for the next pass.
-/

namespace SieveTube.Dns.Cloudflare

/-- The state file, the records of each name and type, and the answer to the
last change. -/
structure PassWorld where
  file : ProviderState
  zones : String → RecordType → Zone
  answer : Except DnsError ChangeTicket

/-- The choices of a call of a pass.  A file that could not be written may
have been, `api` treats the calls of a read or a change one by one, and `cut`
says after how many of them a change is cut off. -/
structure PassFate where
  failure : Option String
  written : Bool
  generation : Nat
  lease : Except String (Option Nat)
  now : Int
  synced : Except DnsError Bool
  timers : Nat
  api : Nat → Fate
  cut : Option Nat

/-- A pass that runs to its end or is cut off after some calls. -/
structure Turn where
  fates : Nat → PassFate
  stop : Option Nat

namespace PassWorld

def setZone (world : PassWorld) (name : String) (recordType : RecordType)
    (zone : Zone) : PassWorld :=
  { world with
    zones := fun other otherType =>
      if other = name ∧ otherType = recordType then zone
      else world.zones other otherType }

def zoneWorld (world : PassWorld) (name : String) (recordType : RecordType) :
    World :=
  { zone := world.zones name recordType, writes := [] }

/-- A change that is cut off is not answered; whoever still waits for it
gives up. -/
def change (service : Service) (world : PassWorld) (request : Request)
    (fate : PassFate) : PassWorld :=
  let program := replace request.name request.recordType request.expected
    request.desired
  let start := world.zoneWorld request.name request.recordType
  match fate.cut with
  | none =>
    let result := Program.run
      (Cloudflare.perform service) program fate.api start
    { world.setZone request.name request.recordType result.2.zone with
      answer := result.1 }
  | some calls =>
    { world.setZone request.name request.recordType
        (Program.cutOff (Cloudflare.perform service) program fate.api calls
          start).zone with
      answer := .error .timeout }

def perform (service : Service) :
    (op : Op) → PassFate → PassWorld → Answer op × PassWorld
  | .loadState, fate, world =>
    (match fate.failure with
      | none => .ok world.file
      | some failure => .error failure, world)
  | .writerGeneration _, fate, world => (fate.generation, world)
  | .acquireLease _, fate, world => (fate.lease, world)
  | .renewLease _, fate, world => (fate.lease, world)
  | .nowUnix, fate, world => (fate.now, world)
  | .changeSynced _, fate, world => (fate.synced, world)
  | .get name recordType, fate, world =>
    ((Program.run (Cloudflare.perform service) (get name recordType)
      fate.api (world.zoneWorld name recordType)).1, world)
  | .considered _, _, world => ((), world)
  | .saveState state, fate, world =>
    match fate.failure with
    | none => (.ok (), { world with file := state })
    | some failure =>
      (.error failure,
        if fate.written then { world with file := state } else world)
  | .replace request, fate, world => (0, world.change service request fate)
  | .timers, fate, world => (fate.timers, world)
  | .outcome _, _, world => (world.answer, world)

/-- The world after a pass. -/
def take (service : Service) (reconciler : Reconciler)
    (compiled : CompiledDns) (world : PassWorld) (turn : Turn) : PassWorld :=
  let program := reconciler.reconcileProvider compiled
  match turn.stop with
  | none => (Program.run (perform service) program turn.fates world).2
  | some calls =>
    Program.cutOff (perform service) program turn.fates calls world

/-- What a pass that runs to its end reports. -/
def outcomes (service : Service) (reconciler : Reconciler)
    (compiled : CompiledDns) (world : PassWorld) (turn : Turn) :
    List RecordOutcome :=
  (Program.run (perform service)
    (reconciler.reconcileProvider compiled) turn.fates world).1

theorem zones_setZone (world : PassWorld) (name : String)
    (recordType : RecordType) (zone : Zone) (other : String)
    (otherType : RecordType) :
    (world.setZone name recordType zone).zones other otherType =
      if other = name ∧ otherType = recordType then zone
      else world.zones other otherType :=
  rfl

end PassWorld

end SieveTube.Dns.Cloudflare
