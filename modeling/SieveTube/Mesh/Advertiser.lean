import SieveTube.Mesh.Routes
import SieveTube.Valkey.Scripts

/-!
# Advertising the routes of an Edge

A publish replaces all routes of the Edge by those of a registry snapshot.
Connection tasks, the refresh ticker and the final `stop` interleave at every
atomic operation; a snapshot reads the tenants one by one.
-/

namespace SieveTube

open Valkey (Reach)

namespace Mesh

/-- The routes of one registration. -/
def adsFor (hostnames : List String)
    (supports : String → Protocol → Bool) (tenantId edgeId : String)
    (generation : Nat) : List RouteAd :=
  hostnames.flatMap fun hostname =>
    ([.http, .tcp, .udp].filter (supports hostname)).map fun protocol =>
      { hostname, protocol, tenantId, edgeId, generation }

def handleAds (edgeId : String) (handle : ConnectorHandle) : List RouteAd :=
  adsFor handle.hostnames handle.supports handle.tenantId edgeId
    handle.generation

/-- The tenants that a snapshot in progress has read. -/
abbrev Seen := AList fun _ : String => Option ConnectorHandle

/-- What a snapshot finds that reads the remaining tenants now. -/
def snapshot (registry : ConnectorRegistry) (seen : Seen) :
    List ConnectorHandle :=
  seen.entries.filterMap (·.2) ++
    ((registry.byTenant.entries.filter fun entry =>
      (seen.lookup entry.1).isNone).map (·.2))

def adsOf (edgeId : String) (handles : List ConnectorHandle) :
    List RouteAd :=
  handles.flatMap (handleAds edgeId)

/-- The routes this Edge serves, if the registry does not change while it is
read. -/
def localAds (registry : ConnectorRegistry) (edgeId : String) :
    List RouteAd :=
  adsOf edgeId (snapshot registry ∅)

/-- A call of `advertise_now` with the number of its request.  The
registrations made before the call are those with a generation up to
`before`, which only serves to state properties. -/
structure AdvertiseCall where
  request : Nat
  before : Nat
deriving DecidableEq

/-- How far `advertise_now` is under the lock.  Of what it has read, `upTo`
is the last generation at the time it read the number of requests; it only
serves to state properties. -/
inductive Publishing where
  | checking
  | loaded (covered upTo : Nat)
  | reading (covered upTo : Nat) (seen : Seen)
  | publishing (covered upTo : Nat) (ads : List RouteAd)

inductive Stopping where
  | reading (seen : Seen)
  | withdrawing (ads : List RouteAd)
  | removingInfo

/-- What the holder of the lock does. -/
inductive Work where
  | advertise (call : AdvertiseCall) (stage : Publishing)
  | withdraw (handle : ConnectorHandle)
  | stop (stage : Stopping)

/-- The task of a connection, once it is registered. -/
inductive ConnectorTask where
  | registered (handle : ConnectorHandle)
  | requested (handle : ConnectorHandle) (call : AdvertiseCall)
  | advertising (handle : ConnectorHandle) (call : AdvertiseCall)
  | serving (handle : ConnectorHandle)
  | removed (handle : ConnectorHandle)
  | withdrawing (handle : ConnectorHandle)
  | ended

/-- The loop of `RouteAdvertiser::run`. -/
inductive Ticker where
  | idle
  | ticked
  | requested (call : AdvertiseCall)
  | advertising (call : AdvertiseCall)
  | shuttingDown
  | stopping
  | finished
deriving DecidableEq

inductive Owner where
  | connector (index : Nat)
  | ticker
deriving DecidableEq

/-- The settings of a `RouteAdvertiser`. -/
structure AdvertiserSettings where
  edgeId : String
  info : EdgeInfo

/-- The state tasks share, with what is published for this Edge.  The last
three fields only serve to state properties: the generations up to `reach`
are covered by a publish, and `registered` and `replaced` record what
`register` returned. -/
structure Advertiser where
  registry : ConnectorRegistry
  advertiseRequests : Nat
  covered : Nat
  stopped : Bool
  published : List RouteAd
  edgeInfo : Option EdgeInfo
  reach : Nat
  registered : List ConnectorHandle
  replaced : List (ConnectorHandle × ConnectorHandle)

structure AdvertiserState extends Advertiser where
  lock : Option (Owner × Work)
  tasks : List ConnectorTask
  ticker : Ticker

/-- `connect` is a Connector that is authenticated, `close` the end of a
connection or its announcement; `read` is a step of the snapshot in
progress. -/
inductive AdvertiserEvent where
  | connect (registration : Registration)
  | close (index : Nat)
  | proceed (owner : Owner) (reach : Reach)
  | read (tenantId : String)
  | tick
  | shutdown

namespace Advertiser

variable (settings : AdvertiserSettings) (shared : Advertiser)

def publishRoutes (ads : List RouteAd) : Advertiser :=
  { shared with published := ads }

def withdrawRoutes (ads : List RouteAd) : Advertiser :=
  { shared with published := shared.published.filter (· ∉ ads) }

def setEdgeInfo (edgeInfo : Option EdgeInfo) : Advertiser :=
  { shared with edgeInfo }

/-- A call of the control plane, which may have had its effect although it
fails. -/
def call (reach : Reach)
    (effect : Advertiser → Advertiser) : Bool × Advertiser :=
  match reach with
  | .answered => (true, effect shared)
  | .answerLost => (false, effect shared)
  | .unreachable => (false, shared)

/-- The next step under the lock; without more work the lock is released. -/
def advance (reach : Reach) : Work → Option Work × Advertiser
  | .advertise call .checking =>
    if shared.stopped || call.request ≤ shared.covered then (none, shared)
    else
      (some (.advertise call (.loaded shared.advertiseRequests
        shared.registry.nextGeneration)), shared)
  | .advertise call (.loaded covered upTo) =>
    match shared.call reach (·.setEdgeInfo (some settings.info)) with
    | (true, shared) =>
      (some (.advertise call (.reading covered upTo ∅)), shared)
    | (false, shared) => (none, shared)
  | .advertise call (.reading covered upTo seen) =>
    let ads := adsOf settings.edgeId (snapshot shared.registry seen)
    (some (.advertise call (.publishing covered upTo ads)), shared)
  | .advertise _ (.publishing covered upTo ads) =>
    match shared.call reach (·.publishRoutes ads) with
    | (true, shared) => (none, { shared with covered, reach := upTo })
    | (false, shared) => (none, shared)
  | .withdraw handle =>
    (none, (shared.call reach
      (·.withdrawRoutes (handleAds settings.edgeId handle))).2)
  | .stop (.reading seen) =>
    let ads := adsOf settings.edgeId (snapshot shared.registry seen)
    (some (.stop (.withdrawing ads)), shared)
  | .stop (.withdrawing ads) =>
    (some (.stop .removingInfo), (shared.call reach (·.withdrawRoutes ads)).2)
  | .stop .removingInfo => (none, (shared.call reach (·.setEdgeInfo none)).2)

end Advertiser

/-- What a task goes on with after the call that needed the lock. -/
def ConnectorTask.return : ConnectorTask → ConnectorTask
  | .advertising handle _ => .serving handle
  | .withdrawing _ => .ended
  | task => task

def Ticker.return : Ticker → Ticker
  | .advertising _ => .idle
  | .stopping => .finished
  | ticker => ticker

/-- A snapshot in progress reads one tenant. -/
def Seen.read (seen : Seen) (registry : ConnectorRegistry)
    (tenantId : String) : Seen :=
  match seen.lookup tenantId with
  | some _ => seen
  | none => seen.insert tenantId (registry.byTenant.lookup tenantId)

def Work.read (registry : ConnectorRegistry) (tenantId : String) : Work → Work
  | .advertise call (.reading covered upTo seen) =>
    .advertise call (.reading covered upTo (seen.read registry tenantId))
  | .stop (.reading seen) => .stop (.reading (seen.read registry tenantId))
  | work => work

namespace AdvertiserState

variable (settings : AdvertiserSettings) (state : AdvertiserState)

def start : AdvertiserState :=
  { registry := .new, advertiseRequests := 0, covered := 0, stopped := false
    published := [], edgeInfo := none, reach := 0, registered := []
    replaced := [], lock := none, tasks := [], ticker := .idle }

/-- The call of `advertise_now` that is made now. -/
def newCall : AdvertiseCall :=
  { request := state.advertiseRequests + 1
    before := state.registry.nextGeneration }

def returned : Owner → AdvertiserState
  | .connector index =>
    { state with
      lock := none
      tasks := state.tasks.modify index ConnectorTask.return }
  | .ticker => { state with lock := none, ticker := state.ticker.return }

/-- The next step of the holder of the lock. -/
def proceedLocked (owner : Owner) (work : Work) (reach : Reach) :
    AdvertiserState :=
  match state.toAdvertiser.advance settings reach work with
  | (some work, shared) =>
    { state with toAdvertiser := shared, lock := some (owner, work) }
  | (none, shared) =>
    { state with toAdvertiser := shared }.returned owner

/-- The next step of a connection task outside the lock. -/
def proceedConnector (index : Nat) : AdvertiserState :=
  match state.tasks[index]? with
  | some (.registered handle) =>
    { state with
      advertiseRequests := state.advertiseRequests + 1
      tasks := state.tasks.set index (.requested handle state.newCall) }
  | some (.requested handle call) =>
    match state.lock with
    | none =>
      { state with
        lock := some (.connector index, .advertise call .checking)
        tasks := state.tasks.set index (.advertising handle call) }
    | some _ => state
  | some (.removed handle) =>
    match state.lock with
    | none =>
      { state with
        lock := some (.connector index, .withdraw handle)
        tasks := state.tasks.set index (.withdrawing handle) }
    | some _ => state
  | _ => state

def proceedTicker : AdvertiserState :=
  match state.ticker with
  | .ticked =>
    { state with
      advertiseRequests := state.advertiseRequests + 1
      ticker := .requested state.newCall }
  | .requested call =>
    match state.lock with
    | none =>
      { state with
        lock := some (.ticker, .advertise call .checking)
        ticker := .advertising call }
    | some _ => state
  | .shuttingDown =>
    match state.lock with
    | none =>
      { state with
        stopped := true
        lock := some (.ticker, .stop (.reading ∅))
        ticker := .stopping }
    | some _ => state
  | _ => state

def proceedUnlocked : Owner → AdvertiserState
  | .connector index => state.proceedConnector index
  | .ticker => state.proceedTicker

def proceed (owner : Owner) (reach : Reach) : AdvertiserState :=
  match state.lock with
  | none => state.proceedUnlocked owner
  | some (holder, work) =>
    if holder = owner then state.proceedLocked settings owner work reach
    else state.proceedUnlocked owner

def connect (registration : Registration) : AdvertiserState :=
  match state.registry.register registration with
  | (.ok registered, registry) =>
    { state with
      registry
      registered := state.registered ++ [registered.handle]
      replaced := state.replaced ++
        (registered.replaced.map fun old => (old, registered.handle)).toList
      tasks := state.tasks ++ [.registered registered.handle] }
  | (.error _, registry) => { state with registry }

def close (index : Nat) : AdvertiserState :=
  match state.tasks[index]? with
  | some (.serving handle) =>
    match state.registry.remove handle.tenantId handle.generation with
    | (true, registry) =>
      { state with
        registry
        tasks := state.tasks.set index (.removed handle) }
    | (false, registry) =>
      { state with registry, tasks := state.tasks.set index .ended }
  | _ => state

def step (state : AdvertiserState) : AdvertiserEvent → AdvertiserState
  | .connect registration => state.connect registration
  | .close index => state.close index
  | .proceed owner reach => state.proceed settings owner reach
  | .read tenantId =>
    { state with
      lock := state.lock.map fun holder =>
        (holder.1, holder.2.read state.registry tenantId) }
  | .tick =>
    match state.ticker with
    | .idle => { state with ticker := .ticked }
    | _ => state
  | .shutdown =>
    match state.ticker with
    | .idle => { state with ticker := .shuttingDown }
    | _ => state

def run (events : List AdvertiserEvent) : AdvertiserState :=
  Run.after (step settings) start events

end AdvertiserState

end Mesh

end SieveTube
