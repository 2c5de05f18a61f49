import SieveTube.Certificate.Acme
import SieveTube.Certificate.Resolver

/-!
# The renewal loops

The certificate managers of several Edges over one certificate store: each
polls the store, decides from the certificate it has installed whether the
domain is due, and runs a coordinated attempt, which reads the store and
decides once more when it has the lease.  The order itself starts after that:
the account of the CA is fetched first.
-/

namespace SieveTube.Acme

open Certificate Valkey

/-- `DomainState`. -/
structure DomainState where
  failures : Nat
  nextAttempt : Int

/-- What an Edge can read of the store when it polls it. -/
structure Reading where
  pointer : Bool
  listing : Bool
  unreadable : List Nat

def Reading.complete (reading : Reading) : Bool :=
  reading.pointer && reading.listing && reading.unreadable.isEmpty

/-- The manager of an Edge, as far as it concerns one domain. -/
structure Manager (SigningKey : Type) where
  resolver : CertResolver SigningKey
  state : Option DomainState

section Loop

variable {SigningKey : Type} (crypto : Crypto SigningKey)
variable (remainingAtRenewal : Int → Int) (domain : String)

/-- The files of a generation as a certificate for the domain. -/
def acmeEntry (certPem keyPem : List UInt8) (now : Int) :
    Except String (CertEntry SigningKey) :=
  parseAndValidate crypto certPem keyPem domain .acme now

def isExpired (entry : CertEntry SigningKey) (now : Int) : Bool :=
  entry.notAfter ≤ now

def lifetimeSecs (entry : CertEntry SigningKey) : Int :=
  max (entry.notAfter - entry.notBefore) 0

/-- `remainingAtRenewal` takes the configured fraction of a lifetime. -/
def renewalDueAt (entry : CertEntry SigningKey) : Int :=
  entry.notAfter - remainingAtRenewal (lifetimeSecs entry)

/-- `load_current` as far as the generations can be read. -/
def loadReadable (reading : Reading) (directory : Directory) (now : Int) :
    Option (Nat × CertEntry SigningKey) := do
  let current ← directory.current
  (directory.newestFirst.filter (· ≤ current)).findSome? fun generation =>
    if generation ∈ reading.unreadable then none
    else (loadGeneration (acmeEntry crypto domain) directory generation now).map
      (generation, ·)

namespace Manager

/-- A process that just started. -/
def restarted (status : Option DomainState) : Manager SigningKey :=
  { resolver := .start {domain}, state := status }

def installedGeneration (manager : Manager SigningKey) : Option Nat :=
  ((manager.resolver.get domain).filter fun entry => entry.source = .acme).bind
    (·.generation)

def install (manager : Manager SigningKey) (generation : Nat)
    (entry : CertEntry SigningKey) : Manager SigningKey :=
  { manager with
    resolver := (manager.resolver.install
      { entry with generation := some generation }).2 }

def refreshFromStore (reading : Reading) (directory : Directory) (now : Int)
    (manager : Manager SigningKey) : Manager SigningKey :=
  if reading.pointer then
    match directory.current with
    | none => manager
    | some current =>
      if some current = manager.installedGeneration domain then manager
      else if reading.listing then
        match loadReadable crypto domain reading directory now with
        | none => manager
        | some (generation, entry) =>
          if some generation = manager.installedGeneration domain then
            manager
          else manager.install generation entry
      else manager
  else manager

def dueAt (manager : Manager SigningKey) (now : Int) : Int :=
  let certificateDue :=
    (((manager.resolver.get domain).filter fun entry =>
      entry.source = .acme && !isExpired entry now).map
        (renewalDueAt remainingAtRenewal)).getD now
  max certificateDue ((manager.state.map (·.nextAttempt)).getD 0)

/-- After an attempt that failed.  The delay is drawn at random. -/
def failed (manager : Manager SigningKey) (now : Int) (delay : Nat) :
    Manager SigningKey :=
  { manager with
    state := some
      { failures := (manager.state.map (·.failures)).getD 0 + 1
        nextAttempt := now + max delay 1 } }

def succeeded (manager : Manager SigningKey) (generation : Nat)
    (entry : CertEntry SigningKey) : Manager SigningKey :=
  { manager.install generation entry with state := none }

end Manager

/-- What an Edge did last: before it asks for the lease and again when it has
it, it reads the store and finds the domain due. -/
inductive Turn where
  | waiting
  | refreshed
  | due
  | ordered
deriving DecidableEq

structure Fleet (SigningKey : Type) where
  cluster : Cluster
  time : Int
  managers : String → Manager SigningKey
  turns : String → Turn

/-- The steps of the loops.  An attempt that fails draws a delay. -/
inductive Renewal where
  | tick (seconds : Nat)
  | refresh (edge : String) (reading : Reading)
  | consider (edge : String)
  | plan (edge : String) (readable : Bool)
  | acquire (edge : String) (reach : Reach)
  | order (edge : String)
  | fail (edge : String) (delay : Nat)
  | check (edge : String) (reach : Reach) (delay : Nat)
  | store (edge : String) (call : StoreCall) (delay : Nat)
  | release (edge : String) (reach : Reach)
  | crash (edge : String) (status : Option DomainState)
  | elsewhere (call : Call)

/-- The store call of an attempt at the time it is made. -/
def atTime (call : StoreCall) (now : Int) : StoreCall :=
  { call with request := { call.request with now } }

namespace Fleet

def start (time : Int) : Fleet SigningKey :=
  { cluster := .start
    time
    managers := fun _ => .restarted domain none
    turns := fun _ => .waiting }

/-- One step of an Edge: its part of the cluster, its manager, its turn. -/
def advance (fleet : Fleet SigningKey) (edge : String) (cluster : Cluster)
    (manager : Manager SigningKey) (turn : Turn) : Fleet SigningKey :=
  { fleet with
    cluster
    managers := Function.update fleet.managers edge manager
    turns := Function.update fleet.turns edge turn }

/-- The Edge is about to send the order. -/
def ordering (fleet : Fleet SigningKey) (edge : String) : Bool :=
  match fleet.cluster.phases edge, fleet.turns edge with
  | .leased _ _, .due => true
  | _, _ => false

/-- Whether the lease of the Edge's attempt is still its own. -/
def holdsLease (fleet : Fleet SigningKey) (edge : String) : Bool :=
  match fleet.cluster.phases edge with
  | .leased _ generation =>
    checkLease edge (leaseResource domain) generation fleet.cluster.server.store
  | _ => false

/-- Whether the Edge may read the store now. -/
def polling (fleet : Fleet SigningKey) (edge : String) : Bool :=
  match fleet.cluster.phases edge, fleet.turns edge with
  | .idle, .waiting => true
  | .leased _ _, .waiting => true
  | _, _ => false

/-- What the store call of an attempt makes of its manager. -/
def stored (fleet : Fleet SigningKey) (edge : String) (call : StoreCall)
    (delay : Nat) : Manager SigningKey :=
  let manager := fleet.managers edge
  if call.cutOff.isSome then .restarted domain manager.state
  else
    match call.result (acmeEntry crypto domain) fleet.cluster.directory with
    | .ok (generation, entry) => manager.succeeded generation entry
    | .error _ => manager.failed fleet.time delay

def step (fleet : Fleet SigningKey) : Renewal → Fleet SigningKey
  | .tick seconds => { fleet with time := fleet.time + seconds }
  | .refresh edge reading =>
    if fleet.polling edge then
      fleet.advance edge fleet.cluster
        ((fleet.managers edge).refreshFromStore crypto domain reading
          fleet.cluster.directory fleet.time) .refreshed
    else fleet
  | .consider edge =>
    if fleet.turns edge = .refreshed then
      if (fleet.managers edge).dueAt remainingAtRenewal domain fleet.time ≤
          fleet.time then
        fleet.advance edge fleet.cluster (fleet.managers edge) .due
      else
        fleet.advance edge (fleet.cluster.step (acmeEntry crypto domain)
          domain (.giveUp edge)) (fleet.managers edge) .waiting
    else fleet
  | .plan edge readable =>
    if fleet.cluster.phases edge = .idle ∧ fleet.turns edge = .due then
      fleet.advance edge (fleet.cluster.step (acmeEntry crypto domain)
        domain (.plan edge readable)) (fleet.managers edge) .waiting
    else fleet
  | .acquire edge reach =>
    if fleet.turns edge = .waiting then
      fleet.advance edge (fleet.cluster.step (acmeEntry crypto domain)
        domain (.acquire edge reach)) (fleet.managers edge) .waiting
    else fleet
  | .order edge =>
    if fleet.ordering edge then
      fleet.advance edge fleet.cluster (fleet.managers edge) .ordered
    else fleet
  | .fail edge delay =>
    if fleet.ordering edge ∨ fleet.turns edge = .ordered then
      fleet.advance edge (fleet.cluster.step (acmeEntry crypto domain) domain
        (.giveUp edge)) ((fleet.managers edge).failed fleet.time delay) .waiting
    else fleet
  | .check edge reach delay =>
    if fleet.turns edge = .ordered then
      let cluster := fleet.cluster.step (acmeEntry crypto domain) domain
        (.check edge reach)
      match cluster.phases edge with
      | .checked _ _ =>
        fleet.advance edge cluster (fleet.managers edge) .waiting
      | _ =>
        fleet.advance edge cluster
          ((fleet.managers edge).failed fleet.time delay) .waiting
    else fleet
  | .store edge call delay =>
    match fleet.cluster.phases edge with
    | .checked _ generation =>
      let call := atTime call fleet.time
      fleet.advance edge (fleet.cluster.step (acmeEntry crypto domain) domain
        (.store edge call))
        (fleet.stored crypto domain edge (withGeneration call generation) delay)
          .waiting
    | _ => fleet
  | .release edge reach =>
    if fleet.turns edge = .waiting then
      fleet.advance edge (fleet.cluster.step (acmeEntry crypto domain)
        domain (.release edge reach)) (fleet.managers edge) .waiting
    else fleet
  | .crash edge status =>
    fleet.advance edge (fleet.cluster.step (acmeEntry crypto domain)
      domain (.crash edge)) (.restarted domain status) .waiting
  | .elsewhere call =>
    { fleet with
      cluster := fleet.cluster.step (acmeEntry crypto domain) domain
        (.elsewhere call) }

/-- The fleet after a sequence of steps. -/
def run (time : Int) (events : List Renewal) : Fleet SigningKey :=
  Run.after (step crypto remainingAtRenewal domain) (start domain time) events

end Fleet

/-- A lease that was checked does not expire before the store call. -/
def leaseKept (fleet : Fleet SigningKey) : Renewal → Bool
  | .store edge _ _ =>
    match fleet.cluster.phases edge with
    | .checked _ generation =>
      checkLease edge (leaseResource domain) generation
        fleet.cluster.server.store
    | _ => true
  | _ => true

/-- The Edges can read the store. -/
def Renewal.reads : Renewal → Bool
  | .refresh _ reading => reading.complete
  | _ => true

/-- The certificate that is active in the store, if it is valid. -/
def activeEntry (directory : Directory) (now : Int) :
    Option (CertEntry SigningKey) := do
  let current ← directory.current
  loadGeneration (acmeEntry crypto domain) directory current now

/-- The active certificate is missing, not valid or due for renewal. -/
def Renewable (directory : Directory) (now : Int) : Prop :=
  ∀ entry, activeEntry crypto domain directory now = some entry →
    renewalDueAt remainingAtRenewal entry ≤ now

end Loop

end SieveTube.Acme
