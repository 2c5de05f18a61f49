import SieveTube.Library.Tasks
import SieveTube.Router

/-!
# Datagrams on their way

Datagrams of clients and of peers are forwarded by tasks of their own, on
several threads.  A task takes a request id, leaves an entry in a reply table,
hands the datagram over and removes the entry if that fails; replies, purges
and other tasks come between any two of these steps.

Beside the Edge itself the state keeps an account of what was tried and what
clients were sent.
-/

namespace SieveTube

open Inet

namespace Mesh

/-- Whom an Edge hands a datagram to. -/
inductive DatagramTarget where
  | connector (handle : ConnectorHandle)
  | peer (route : RemoteRoute) (connection : Nat)

/-- The reply table of a target: all peers share one. -/
def DatagramTarget.table : DatagramTarget → Option Nat
  | .connector handle => some handle.udpReplyMap
  | .peer .. => none

/-- Where a datagram came from. -/
inductive DatagramOrigin where
  | client (addr : SocketAddr) (socket : Nat)
  | peer (connection : Nat) (ingressEdgeId : String) (requestId : Nat)

/-- How far `forward_datagram` or the request branch of `handle_datagram`
is.  `rest` has the candidates left after the current one. -/
inductive DatagramPhase where
  | deliver (connector : ConnectorHandle)
  | forward (routes : List RemoteRoute)
  | numbered (target : DatagramTarget) (rest : List RemoteRoute)
      (requestId : Nat)
  | pending (target : DatagramTarget) (rest : List RemoteRoute)
      (requestId : Nat)
  | failed (target : DatagramTarget) (rest : List RemoteRoute) (requestId : Nat)
  | finished

/-- What follows a target that did not take the datagram. -/
def DatagramTarget.giveUp (rest : List RemoteRoute) :
    DatagramTarget → DatagramPhase
  | .connector _ => .finished
  | .peer .. => .forward rest

structure DatagramTask where
  origin : DatagramOrigin
  hostname : String
  payload : List UInt8
  phase : DatagramPhase

namespace DatagramTask

/-- The entry that tells where the reply of a target goes. -/
def entry (task : DatagramTask) (target : DatagramTarget) (now : Nat) :
    UdpReplyEntry :=
  match task.origin, target with
  | .client addr socket, .connector _ => .client addr socket now
  | .client addr socket, .peer route _ =>
    .clientViaPeer addr socket route.edgeId now
  | .peer connection ingressEdgeId requestId, _ =>
    .peer connection ingressEdgeId requestId task.hostname now

/-- The datagram for a target. -/
def encode (task : DatagramTask) (edgeId : String) (requestId : Nat) :
    DatagramTarget → Except SieveTubeError (List UInt8)
  | .connector _ =>
    let header : DatagramHeader := { requestId, hostname := task.hostname }
    .ok (header.encode task.payload)
  | .peer route _ =>
    let header : MeshDatagramHeader :=
      { kind := .request
        requestId := BitVec.ofNat 64 requestId
        connectionGeneration := BitVec.ofNat 64 route.generation
        ingressEdgeId := edgeId
        tenantId := route.tenantId
        hostname := task.hostname }
    header.encode task.payload

/-- Whether a datagram can be encoded and fits the connection. -/
def fits (task : DatagramTask) (edgeId : String) (requestId : Nat)
    (target : DatagramTarget) (fate : DatagramFate) : Bool :=
  match task.encode edgeId requestId target with
  | .error _ => false
  | .ok datagram => !fate.tooLarge datagram

/-- The check before the entry is inserted.  A datagram of a peer is
measured later. -/
def admits (task : DatagramTask) (edgeId : String) (requestId : Nat)
    (target : DatagramTarget) (fate : DatagramFate) : Bool :=
  match task.origin with
  | .client .. => task.fits edgeId requestId target fate
  | .peer .. => true

/-- Whether the connection takes the datagram. -/
def sends (task : DatagramTask) (edgeId : String) (requestId : Nat)
    (target : DatagramTarget) (fate : DatagramFate) : Bool :=
  match task.origin with
  | .client .. => !fate.sendFails
  | .peer .. => task.fits edgeId requestId target fate && !fate.sendFails

end DatagramTask

/-- How an attempt to hand a datagram over went. -/
inductive AttemptOutcome where
  | underway
  | handed
  | failed
deriving DecidableEq

/-- An attempt that left an entry in a reply table. -/
structure Attempt where
  task : Nat
  origin : DatagramOrigin
  target : DatagramTarget
  outcome : AttemptOutcome

/-- Who sent a reply. -/
inductive ReplySource where
  | connector (connection : Nat)
  | peer (edgeId : String)
deriving DecidableEq

/-- Only the Connector's connection or the peer that a datagram was meant
for may answer it. -/
def ReplySource.Answers : ReplySource → DatagramTarget → Prop
  | .connector connection, .connector handle => handle.connection = connection
  | .peer edgeId, .peer route _ => route.edgeId = edgeId
  | _, _ => False

/-- A datagram sent to a client. -/
structure ClientReply where
  requestId : Nat
  source : ReplySource
  addr : SocketAddr
  socket : Nat
  payload : List UInt8
deriving DecidableEq

def ClientReply.of (requestId : Nat) (source : ReplySource) :
    Effect → Option ClientReply
  | .sendToClient addr socket payload =>
    some { requestId, source, addr, socket, payload }
  | _ => none

end Mesh

namespace Edge

def table (edge : Edge) : Option Nat → UdpReplyTable
  | none => edge.udpReplies
  | some name => edge.replyTables name

def setTable (edge : Edge) (name : Option Nat) (table : UdpReplyTable) :
    Edge :=
  match name with
  | none => { edge with udpReplies := table }
  | some name => edge.setReplyTable name table

variable (edge : Edge) (name : Option Nat) (table : UdpReplyTable)

@[simp]
theorem registry_setTable :
    (edge.setTable name table).registry = edge.registry := by
  cases name <;> rfl

@[simp]
theorem nextTable_setTable :
    (edge.setTable name table).nextTable = edge.nextTable := by
  cases name <;> rfl

@[simp]
theorem nextRequestId_setTable :
    (edge.setTable name table).nextRequestId = edge.nextRequestId := by
  cases name <;> rfl

theorem table_setTable (other : Option Nat) (table : UdpReplyTable) :
    (edge.setTable name table).table other =
      if other = name then table else edge.table other := by
  cases name with
  | none => cases other <;> simp [setTable, Edge.table]
  | some name =>
    cases other with
    | none => simp [setTable, Edge.table, setReplyTable]
    | some other =>
      simp [setTable, Edge.table, setReplyTable, Function.update_apply]

end Edge

namespace Mesh

/-- `loops` has the connection whose reply loop reads a table. -/
structure DatagramState where
  edge : Edge
  loops : Nat → Option Nat
  tasks : List DatagramTask
  attempts : Nat → Option Attempt
  replies : List ClientReply

inductive DatagramEvent where
  | connect (arrival : Arrival)
  | discharge (tenantId : String) (generation : Nat)
  | setRoutes (routes : String → Protocol → List RemoteRoute)
  | openStream
  | receive (hostname : String) (payload : List UInt8) (addr : SocketAddr)
      (socket now : Nat) (coolingDown : String → Bool)
  | proceed (index : Nat) (connection : Option Nat) (fate : DatagramFate)
  | connectorDatagram (name : Nat) (datagram : List UInt8) (fate : DatagramFate)
  | peerDatagram (peerId : String) (connection : Nat) (datagram : List UInt8)
      (fate : DatagramFate)
  | purge (name : Option Nat) (now : Nat)

/-- Connectors and peers have bounds of their own. -/
structure DatagramSettings where
  edgeId : String
  meshEnabled : Bool
  udpMaxPendingReplies : Nat
  maxPendingUdpReplies : Nat
  udpReplyTimeout : Nat

namespace DatagramState

def start (settings : DatagramSettings) : DatagramState :=
  { edge :=
      { Edge.start settings.edgeId settings.meshEnabled
          settings.udpMaxPendingReplies settings.udpReplyTimeout with
        udpReplies := .new settings.maxPendingUdpReplies
          settings.udpReplyTimeout }
    loops := fun _ => none
    tasks := []
    attempts := fun _ => none
    replies := [] }

variable (state : DatagramState)

def spawn (task : DatagramTask) : DatagramState :=
  { state with tasks := state.tasks ++ [task] }

def setPhase (index : Nat) (task : DatagramTask) (phase : DatagramPhase) :
    DatagramState :=
  { state with tasks := state.tasks.set index { task with phase } }

def setTable (name : Option Nat) (table : UdpReplyTable) : DatagramState :=
  { state with edge := state.edge.setTable name table }

def setAttempt (requestId : Nat) (attempt : Attempt) : DatagramState :=
  { state with
    attempts := Function.update state.attempts requestId (some attempt) }

/-- Handlers answer with effects; those on clients enter the account. -/
def perform (requestId : Nat) (source : ReplySource)
    (handled : List Effect × Edge) : DatagramState :=
  { state with
    edge := handled.2
    replies := state.replies ++
      handled.1.filterMap (ClientReply.of requestId source) }

/-- `handle_connector`: a registered connection gets a reply loop. -/
def connect (arrival : Arrival) : DatagramState :=
  match state.edge.handleConnector arrival with
  | (.error _, edge) => { state with edge }
  | (.ok registered, edge) =>
    { state with
      edge
      loops := Function.update state.loops state.edge.nextTable
        (some registered.handle.connection) }

/-- A client's datagram that passed the limits of the listener. -/
def receive (hostname : String) (payload : List UInt8) (addr : SocketAddr)
    (socket now : Nat) (coolingDown : String → Bool) : DatagramState :=
  let origin := DatagramOrigin.client addr socket
  match state.edge.route hostname .udp now coolingDown with
  | .localRoute connector =>
    state.spawn { origin, hostname, payload, phase := .deliver connector }
  | .remote routes =>
    state.spawn { origin, hostname, payload, phase := .forward routes }
  | .unavailable => state

/-- `next_request_id` for a target. -/
def number (index : Nat) (task : DatagramTask) (target : DatagramTarget)
    (rest : List RemoteRoute) : DatagramState :=
  let requestId := state.edge.nextRequestId
  let counted := { state with edge := state.edge.countRequest }
  counted.setPhase index task (.numbered target rest requestId)

/-- Insert the entry of the reply before anything is sent. -/
def insertEntry (index : Nat) (task : DatagramTask)
    (target : DatagramTarget) (rest : List RemoteRoute) (requestId : Nat)
    (fate : DatagramFate) : DatagramState :=
  if task.admits state.edge.edgeId requestId target fate then
    match (state.edge.table target.table).insert requestId
      (task.entry target fate.now) fate.now with
    | (false, swept) =>
      (state.setTable target.table swept).setPhase index task
        (target.giveUp rest)
    | (true, table) =>
      ((state.setTable target.table table).setAttempt requestId
        { task := index, origin := task.origin, target
          outcome := .underway }).setPhase index task
        (.pending target rest requestId)
  else state.setPhase index task (target.giveUp rest)

def sendDatagram (index : Nat) (task : DatagramTask)
    (target : DatagramTarget) (rest : List RemoteRoute) (requestId : Nat)
    (fate : DatagramFate) : DatagramState :=
  if task.sends state.edge.edgeId requestId target fate then
    (state.setAttempt requestId
      { task := index, origin := task.origin, target
        outcome := .handed }).setPhase index task .finished
  else
    (state.setAttempt requestId
      { task := index, origin := task.origin, target
        outcome := .failed }).setPhase index task
      (.failed target rest requestId)

def removeEntry (index : Nat) (task : DatagramTask)
    (target : DatagramTarget) (rest : List RemoteRoute) (requestId : Nat) :
    DatagramState :=
  (state.setTable target.table
    ((state.edge.table target.table).remove requestId)).setPhase index task
    (target.giveUp rest)

/-- The next step of a task.  `connection` is what the pool returns for a
candidate, if it can be reached. -/
def proceed (index : Nat) (task : DatagramTask) (connection : Option Nat)
    (fate : DatagramFate) : DatagramState :=
  match task.phase with
  | .deliver connector => state.number index task (.connector connector) []
  | .forward [] => state.setPhase index task .finished
  | .forward (route :: rest) =>
    match connection with
    | none => state.setPhase index task (.forward rest)
    | some connection => state.number index task (.peer route connection) rest
  | .numbered target rest requestId =>
    state.insertEntry index task target rest requestId fate
  | .pending target rest requestId =>
    state.sendDatagram index task target rest requestId fate
  | .failed target rest requestId =>
    state.removeEntry index task target rest requestId
  | .finished => state

/-- A datagram on the connection of a Connector that is registered. -/
def connectorDatagram (name : Nat) (datagram : List UInt8)
    (fate : DatagramFate) : DatagramState :=
  match state.loops name, DatagramHeader.decode datagram with
  | some connection, some (header, _) =>
    state.perform header.requestId (.connector connection)
      (state.edge.handleConnectorDatagram name datagram fate)
  | _, _ => state

/-- The request branch of `handle_datagram` up to its first id. -/
def acceptRequest (peerId : String) (connection : Nat)
    (header : MeshDatagramHeader) (payload : List UInt8) : DatagramState :=
  if header.ingressEdgeId = peerId then
    match state.edge.registry.getByHostname header.hostname with
    | none => state
    | some connector =>
      if connector.tenantId = header.tenantId ∧
          connector.supports header.hostname .udp then
        state.spawn
          { origin := .peer connection header.ingressEdgeId
              header.requestId.toNat
            hostname := header.hostname
            payload
            phase := .deliver connector }
      else state
  else state

theorem edge_acceptRequest (peerId : String) (connection : Nat)
    (header : MeshDatagramHeader) (payload : List UInt8) :
    (state.acceptRequest peerId connection header payload).edge =
      state.edge := by
  unfold acceptRequest
  repeat' split
  all_goals rfl

def peerDatagram (peerId : String) (connection : Nat)
    (datagram : List UInt8) (fate : DatagramFate) : DatagramState :=
  match MeshDatagramHeader.decode datagram with
  | .error _ => state
  | .ok (header, payload) =>
    match header.kind with
    | .request => state.acceptRequest peerId connection header payload
    | .reply =>
      state.perform header.requestId.toNat (.peer peerId)
        (state.edge.handleDatagramReply peerId header payload fate)

def step (state : DatagramState) : DatagramEvent → DatagramState
  | .connect arrival => state.connect arrival
  | .discharge tenantId generation =>
    { state with edge := state.edge.discharge tenantId generation }
  | .setRoutes routes => { state with edge := { state.edge with routes } }
  | .openStream => { state with edge := state.edge.countRequest }
  | .receive hostname payload addr socket now coolingDown =>
    state.receive hostname payload addr socket now coolingDown
  | .proceed index connection fate =>
    match state.tasks[index]? with
    | none => state
    | some task => state.proceed index task connection fate
  | .connectorDatagram name datagram fate =>
    state.connectorDatagram name datagram fate
  | .peerDatagram peerId connection datagram fate =>
    state.peerDatagram peerId connection datagram fate
  | .purge name now =>
    state.setTable name ((state.edge.table name).purgeExpired now)

def run (settings : DatagramSettings) (events : List DatagramEvent) :
    DatagramState :=
  Run.after step (start settings) events

section Solo

variable {state} {index : Nat} {task : DatagramTask}
variable {connector : ConnectorHandle} {rest : List RemoteRoute}
variable {requestId : Nat}

/-- The state in which a task has taken steps on its own. -/
def solo (state : DatagramState) (index steps : Nat) (fate : DatagramFate) :
    DatagramState :=
  Run.after step state (List.replicate steps (.proceed index none fate))

section

variable (found : state.tasks[index]? = some task)
include found

theorem solo_succ (steps : Nat) (fate : DatagramFate) :
    state.solo index (steps + 1) fate =
      (state.proceed index task none fate).solo index steps fate := by
  simp [solo, Run.after, List.replicate_succ, step, found]

theorem solo_finished (phase : task.phase = .finished) (steps : Nat)
    (fate : DatagramFate) :
    state.solo index steps fate = state := by
  induction steps with
  | zero => rfl
  | succ steps ih =>
    rw [solo_succ found, proceed, phase]
    exact ih

theorem edge_solo_failed
    (phase : task.phase = .failed (.connector connector) rest requestId)
    (fate : DatagramFate) :
    (state.solo index 1 fate).edge =
      state.edge.setReplyTable connector.udpReplyMap
        ((state.edge.replyTables connector.udpReplyMap).remove requestId) := by
  rw [solo_succ found, proceed, phase]
  rfl

theorem edge_solo_pending
    (phase : task.phase = .pending (.connector connector) rest requestId)
    (fate : DatagramFate) :
    (state.solo index 2 fate).edge =
      if task.sends state.edge.edgeId requestId (.connector connector) fate
      then state.edge
      else state.edge.setReplyTable connector.udpReplyMap
        ((state.edge.replyTables connector.udpReplyMap).remove requestId) := by
  rw [solo_succ found, proceed, phase]
  simp only [sendDatagram]
  split
  · rw [solo_finished (Tasks.getElem?_set_found found) rfl]
    rfl
  · exact edge_solo_failed (Tasks.getElem?_set_found found) rfl fate

theorem edge_solo_numbered
    (phase : task.phase = .numbered (.connector connector) rest requestId)
    (fate : DatagramFate) :
    (state.solo index 3 fate).edge =
      if task.admits state.edge.edgeId requestId (.connector connector) fate
      then
        match (state.edge.replyTables connector.udpReplyMap).insert requestId
          (task.entry (.connector connector) fate.now) fate.now with
        | (false, swept) => state.edge.setReplyTable connector.udpReplyMap swept
        | (true, pending) =>
          if task.sends state.edge.edgeId requestId (.connector connector)
            fate then state.edge.setReplyTable connector.udpReplyMap pending
          else state.edge.setReplyTable connector.udpReplyMap
            (pending.remove requestId)
      else state.edge := by
  rw [solo_succ found, proceed, phase]
  have read : state.edge.table (DatagramTarget.connector connector).table =
      state.edge.replyTables connector.udpReplyMap := rfl
  simp only [insertEntry, read]
  split
  · rcases inserted : (state.edge.replyTables connector.udpReplyMap).insert
      requestId (task.entry (.connector connector) fate.now) fate.now with
      ⟨done, table⟩
    cases done with
    | false =>
      rw [solo_finished (Tasks.getElem?_set_found found) rfl]
      rfl
    | true =>
      rw [edge_solo_pending (Tasks.getElem?_set_found found) rfl]
      simp only [setPhase, setAttempt, setTable, DatagramTarget.table,
        Edge.setTable, Edge.setReplyTable, Function.update_self,
        Function.update_idem]
      rfl
  · rw [solo_finished (Tasks.getElem?_set_found found) rfl]
    rfl

/-- Without other steps in between, a task for a local Connector does what
`forwardUdpDatagram` does. -/
theorem edge_solo_deliver {addr : SocketAddr} {socket : Nat}
    (origin : task.origin = .client addr socket)
    (phase : task.phase = .deliver connector) (fate : DatagramFate) :
    (state.solo index 4 fate).edge =
      (state.edge.forwardUdpDatagram task.payload connector task.hostname addr
        socket fate).2 := by
  rw [solo_succ found, proceed, phase]
  simp only [number]
  rw [edge_solo_numbered (Tasks.getElem?_set_found found) rfl]
  simp only [Edge.forwardUdpDatagram, DatagramTask.admits,
    DatagramTask.sends, DatagramTask.entry, DatagramTask.fits,
    DatagramTask.encode, origin, setPhase]
  split
  · next small =>
    rw [if_neg (by simpa using small)]
    rcases inserted : (state.edge.replyTables connector.udpReplyMap).insert
      state.edge.nextRequestId (.client addr socket fate.now) fate.now with
      ⟨done, table⟩
    have counted : state.edge.countRequest.replyTables =
        state.edge.replyTables := rfl
    simp only [counted, inserted]
    cases done with
    | false => rfl
    | true => cases fate.sendFails <;> rfl
  · next large =>
    rw [if_pos (by simpa using large)]

end

/-- The same for a datagram of a peer and `handleDatagramRequest`. -/
theorem edge_solo_request {peerId : String} {connection : Nat}
    {header : MeshDatagramHeader} {payload : List UInt8}
    (found : state.tasks[index]? = some
      { origin := .peer connection header.ingressEdgeId header.requestId.toNat
        hostname := header.hostname, payload, phase := .deliver connector })
    (same : header.ingressEdgeId = peerId)
    (registered : state.edge.registry.getByHostname header.hostname =
      some connector)
    (served : connector.tenantId = header.tenantId ∧
      connector.supports header.hostname .udp) (fate : DatagramFate) :
    (state.solo index 4 fate).edge =
      (state.edge.handleDatagramRequest peerId connection header payload
        fate).2 := by
  rw [solo_succ found, proceed]
  simp only [number]
  rw [edge_solo_numbered (Tasks.getElem?_set_found found) rfl]
  simp only [Edge.handleDatagramRequest, same, registered, served,
    DatagramTask.admits, DatagramTask.sends, DatagramTask.entry,
    DatagramTask.fits, DatagramTask.encode, setPhase, if_true, and_self]
  rcases inserted : (state.edge.replyTables connector.udpReplyMap).insert
    state.edge.nextRequestId (.peer connection peerId
      header.requestId.toNat header.hostname fate.now) fate.now with
    ⟨done, table⟩
  have counted : state.edge.countRequest.replyTables = state.edge.replyTables :=
    rfl
  simp only [counted, inserted]
  cases done with
  | false => rfl
  | true =>
    cases fate.sendFails with
    | true => simp
    | false =>
      cases fate.tooLarge (DatagramHeader.encode
        { requestId := state.edge.nextRequestId
          hostname := header.hostname } payload) <;> rfl

end Solo

end DatagramState

end Mesh

end SieveTube
