import SieveTube.Library.Run
import SieveTube.Library.Tasks
import SieveTube.Library.InetAddr
import SieveTube.Policy.Http

/-!
# Admission of raw TCP connections

A connection passes the blocked networks and the connection rate, and then
takes a slot of its listener and one of its listener and address.  Each
operation on a counter is atomic; admissions, dropped permits and reloads
interleave between them.
-/

namespace SieveTube

open Inet

/-- A limit of the configuration must not be zero. -/
def positive (field : String) (value : Option Nat) :
    Except String (Option ℕ+) :=
  match value with
  | none => .ok none
  | some value =>
    if nonzero : 0 < value then .ok (some ⟨value, nonzero⟩)
    else .error (field ++ " must be greater than 0")

structure CompiledTcp where
  connectionRate : Option RateLimit
  maxConcurrentPerIp : Option ℕ+
  maxConcurrentPerListener : Option ℕ+

/-- The policy with the limits of raw TCP connections. -/
structure TransportPolicy extends CompiledPolicy where
  tcp : CompiledTcp

/-- The two things connections are counted for. -/
inductive SlotKind where
  | listener
  | ip
deriving DecidableEq

def CompiledTcp.limit (tcp : CompiledTcp) : SlotKind → Option ℕ+
  | .listener => tcp.maxConcurrentPerListener
  | .ip => tcp.maxConcurrentPerIp

/-- Active connections by the hash of what they are counted for. -/
abbrev SlotCounts := AList fun _ : UInt64 => Nat

namespace SlotCounts

def count (counts : SlotCounts) (key : UInt64) : Nat :=
  (counts.lookup key).getD 0

/-- The entry of a key is created before its count is compared. -/
def acquire (counts : SlotCounts) (key : UInt64)
    (limit : Nat) : Bool × SlotCounts :=
  let entered := counts.insert key (counts.count key)
  if limit ≤ counts.count key then (false, entered)
  else (true, entered.insert key (counts.count key + 1))

def release (counts : SlotCounts) (key : UInt64) : SlotCounts :=
  match counts.lookup key with
  | none => counts
  | some count =>
    if count - 1 = 0 then counts.erase key
    else counts.insert key (count - 1)

end SlotCounts

/-- A slot that was taken, with the limit in force at that time.  The limit
only serves to state properties. -/
structure TcpSlot where
  key : UInt64
  limit : ℕ+

/-- The slots a connection has taken. -/
structure TcpPermit where
  ip : Option TcpSlot
  listener : Option TcpSlot

namespace TcpPermit

def empty : TcpPermit := { ip := none, listener := none }

def slot (permit : TcpPermit) : SlotKind → Option TcpSlot
  | .listener => permit.listener
  | .ip => permit.ip

end TcpPermit

structure TcpConnection where
  listener : String
  clientIp : IpAddr

/-- The keyed hashes of the bucket table and of the two counters. -/
structure TcpHasher where
  bucket : String → IpAddr → UInt64
  listener : String → UInt64
  ip : String → IpAddr → UInt64

def TcpHasher.slotKey (hasher : TcpHasher) (connection : TcpConnection) :
    SlotKind → UInt64
  | .listener => hasher.listener connection.listener
  | .ip => hasher.ip connection.listener connection.clientIp.toCanonical

/-- How far a call of `admit_tcp` is, and then the life of its permit.
Until the slot of the address is taken, and once it is given back, the permit
has the slot of the listener only. -/
inductive TcpTask where
  | entered (connection : TcpConnection)
  | loaded (connection : TcpConnection) (policy : TransportPolicy)
  | passed (connection : TcpConnection) (policy : TransportPolicy)
  | listenerTaken (connection : TcpConnection) (policy : TransportPolicy)
      (listener : Option TcpSlot)
  | undoing (policy : TransportPolicy) (listener : Option TcpSlot)
  | rejected (verdict : Verdict)
  | unlimited (verdict : Verdict)
  | admitted (verdict : Verdict) (permit : TcpPermit)
  | dropping (listener : Option TcpSlot)
  | closed

/-- What all admissions share. -/
structure TcpCounters where
  compiled : TransportPolicy
  buckets : BucketTable
  active : SlotKind → SlotCounts

structure TcpAdmission extends TcpCounters where
  tasks : List TcpTask

/-- `proceed` takes the next step of a call or of a drop at a clock
reading. -/
inductive TcpEvent where
  | reload (policy : TransportPolicy)
  | arrive (connection : TcpConnection)
  | proceed (index : Nat) (now : ℚ≥0)
  | drop (index : Nat)

namespace TcpCounters

variable (hasher : TcpHasher) (shared : TcpCounters)

/-- The rules that come before the concurrency limits. -/
def decideTcp (policy : TransportPolicy) (connection : TcpConnection)
    (now : ℚ≥0) : Decision × TcpCounters :=
  let clientIp := connection.clientIp.toCanonical
  if containsIp policy.blocked clientIp then (.deny .blockedCidr, shared)
  else
    match policy.tcp.connectionRate with
    | none => (.allow, shared)
    | some limit =>
      match shared.buckets.take
          (hasher.bucket connection.listener clientIp) limit 1 now
        policy.maxEntries policy.idleTtl with
      | (.ok _, buckets) => (.allow, { shared with buckets })
      | (.error error, buckets) => (limited error, { shared with buckets })

/-- Take the slot of one kind, if their number is limited.  `none` means
that no slot is free. -/
def acquireSlot (kind : SlotKind) (policy : TransportPolicy)
    (connection : TcpConnection) :
    Option (Option TcpSlot) × TcpCounters :=
  match policy.tcp.limit kind with
  | none => (some none, shared)
  | some limit =>
    let key := hasher.slotKey connection kind
    let (acquired, counts) := (shared.active kind).acquire key limit
    (if acquired then some (some { key, limit }) else none,
      { shared with active := Function.update shared.active kind counts })

/-- Give back the slot of one kind, if it was taken. -/
def releaseSlot (kind : SlotKind) (slot : Option TcpSlot) : TcpCounters :=
  match slot with
  | none => shared
  | some slot =>
    { shared with
      active := Function.update shared.active kind
        ((shared.active kind).release slot.key) }

def verdict (policy : TransportPolicy) (decision : Decision) : Verdict :=
  { decision, enforced := policy.mode = .enforce }

/-- The next step of a call of `admit_tcp` or of a drop. -/
def proceed (now : ℚ≥0) : TcpTask → TcpTask × TcpCounters
  | .entered connection =>
    if shared.compiled.enabled then
      (.loaded connection shared.compiled, shared)
    else (.unlimited .allow, shared)
  | .loaded connection policy =>
    match shared.decideTcp hasher policy connection now with
    | (.allow, shared) => (.passed connection policy, shared)
    | (decision, shared) => (.rejected (verdict policy decision), shared)
  | .passed connection policy =>
    match shared.acquireSlot hasher .listener policy connection with
    | (some listener, shared) =>
      (.listenerTaken connection policy listener, shared)
    | (none, shared) =>
      (.rejected (verdict policy (.deny .concurrencyLimit)), shared)
  | .listenerTaken connection policy listener =>
    match shared.acquireSlot hasher .ip policy connection with
    | (some ip, shared) =>
      (.admitted (verdict policy .allow) { ip, listener }, shared)
    | (none, shared) => (.undoing policy listener, shared)
  | .undoing policy listener =>
    (.rejected (verdict policy (.deny .concurrencyLimit)),
      shared.releaseSlot .listener listener)
  | .dropping listener => (.closed, shared.releaseSlot .listener listener)
  | task => (task, shared)

/-- A permit is dropped; the slot of the address is given back first. -/
def drop : TcpTask → TcpTask × TcpCounters
  | .admitted _ permit =>
    (.dropping permit.listener, shared.releaseSlot .ip permit.ip)
  | task => (task, shared)

end TcpCounters

namespace TcpAdmission

def start (compiled : TransportPolicy) : TcpAdmission :=
  { compiled, buckets := .new, active := fun _ => ∅, tasks := [] }

/-- One task takes a step. -/
def turn (state : TcpAdmission) (index : Nat)
    (move : TcpTask → TcpTask × TcpCounters) : TcpAdmission :=
  match state.tasks[index]? with
  | none => state
  | some task =>
    let (task, shared) := move task
    { toTcpCounters := shared, tasks := state.tasks.set index task }

def step (hasher : TcpHasher) (state : TcpAdmission) : TcpEvent → TcpAdmission
  | .reload policy => { state with compiled := policy }
  | .arrive connection =>
    { state with tasks := state.tasks ++ [.entered connection] }
  | .proceed index now =>
    state.turn index (state.toTcpCounters.proceed hasher now)
  | .drop index => state.turn index state.toTcpCounters.drop

def run (hasher : TcpHasher) (compiled : TransportPolicy)
    (events : List TcpEvent) : TcpAdmission :=
  Run.after (step hasher) (start compiled) events

end TcpAdmission

end SieveTube
