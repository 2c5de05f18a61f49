import SieveTube.Admission
import SieveTube.Tunnel

/-!
# The state of an Edge

An Edge reads its registry when a client, a peer or a Connector gives it
something to do, and answers with effects on its connections.  What the Edge
cannot decide itself (whether a stream opens, how large a datagram may be) is
an argument of the handlers.
-/

namespace SieveTube

open Inet

/-- A usable remote route with the peer's reachable address. -/
structure RemoteRoute where
  edgeId : String
  tenantId : String
  generation : Nat
  addr : SocketAddr
  expiresAt : Nat
deriving DecidableEq

/-- What an Edge does on its connections.  Requests to peers are
`openPeerStream` and the datagrams of `sendToPeer` with kind `request`. -/
inductive Effect where
  | openLocalStream (connector : ConnectorHandle) (hostname : String)
      (protocol : Protocol) (clientAddr : SocketAddr)
  | sendToConnector (connector : ConnectorHandle) (header : DatagramHeader)
      (payload : List UInt8)
  | openPeerStream (edgeId : String) (request : Mesh.ForwardRequest)
  | sendToPeer (connection : Nat) (header : Mesh.MeshDatagramHeader)
      (payload : List UInt8)
  | respond (response : Mesh.ForwardResponse)
  | sendToClient (addr : SocketAddr) (socket : Nat) (payload : List UInt8)

/-- What routing and forwarding read and write.  `udpReplies` holds the
datagrams forwarded to peers, and `replyTables` the tables of the Connectors
under the names in their handles. -/
structure Edge where
  edgeId : String
  meshEnabled : Bool
  registry : ConnectorRegistry
  routes : String → Protocol → List RemoteRoute
  replyTables : Nat → UdpReplyTable
  nextTable : Nat
  udpReplies : UdpReplyTable
  nextRequestId : Nat
  udpMaxPendingReplies : Nat
  udpReplyTimeout : Nat

/-- What the transport says about a datagram handed to it. -/
structure DatagramFate where
  now : Nat
  maxDatagramSize : Option Nat
  sendFails : Bool

def DatagramFate.tooLarge (fate : DatagramFate) (datagram : List UInt8) :
    Bool :=
  fate.maxDatagramSize.any fun limit => limit < datagram.length

namespace Edge

/-- An Edge that was just started. -/
def start (edgeId : String) (meshEnabled : Bool)
    (udpMaxPendingReplies udpReplyTimeout : Nat) : Edge :=
  { edgeId
    meshEnabled
    registry := .new
    routes := fun _ _ => []
    replyTables := fun _ => .new udpMaxPendingReplies udpReplyTimeout
    nextTable := 0
    udpReplies := .new udpMaxPendingReplies udpReplyTimeout
    nextRequestId := 1
    udpMaxPendingReplies
    udpReplyTimeout }

def setReplyTable (edge : Edge) (name : Nat) (table : UdpReplyTable) : Edge :=
  { edge with replyTables := Function.update edge.replyTables name table }

/-- Count the request id handed out by `next_request_id`. -/
def countRequest (edge : Edge) : Edge :=
  { edge with nextRequestId := edge.nextRequestId + 1 }

/-- Register a Connector that arrived, with a reply table of its own. -/
def handleConnector (edge : Edge) (arrival : Arrival) :
    Except String Registered × Edge :=
  match arrival.registration edge.meshEnabled edge.nextTable with
  | .error reason => (.error reason, edge)
  | .ok registration =>
    let (outcome, registry) := edge.registry.register registration
    let withTable := edge.setReplyTable edge.nextTable
      (.new edge.udpMaxPendingReplies edge.udpReplyTimeout)
    (outcome, { withTable with registry, nextTable := edge.nextTable + 1 })

theorem handleConnector_registry (edge : Edge) (arrival : Arrival) :
    (edge.handleConnector arrival).2.registry = edge.registry ∨ ∃ registration,
        arrival.registration edge.meshEnabled edge.nextTable =
          .ok registration ∧
          (edge.handleConnector arrival).2.registry =
            (edge.registry.register registration).2 := by
  unfold handleConnector
  cases requested : arrival.registration edge.meshEnabled edge.nextTable with
  | error reason => exact .inl rfl
  | ok registration => exact .inr ⟨registration, rfl, rfl⟩

/-- A Connector disconnected or announced that it is going away. -/
def discharge (edge : Edge) (tenantId : String) (generation : Nat) : Edge :=
  { edge with registry := (edge.registry.remove tenantId generation).2 }

/-- Send a client's datagram through the tunnel of a local Connector. -/
def forwardUdpDatagram (edge : Edge) (payload : List UInt8)
    (connector : ConnectorHandle) (hostname : String)
    (clientAddr : SocketAddr) (socket : Nat) (fate : DatagramFate) :
    List Effect × Edge :=
  let requestId := edge.nextRequestId
  let counted := edge.countRequest
  let header : DatagramHeader := { requestId, hostname }
  if fate.tooLarge (header.encode payload) then ([], counted)
  else
    let table := edge.replyTables connector.udpReplyMap
    match table.insert requestId
        (.client clientAddr socket fate.now) fate.now with
    | (false, swept) => ([], counted.setReplyTable connector.udpReplyMap swept)
    | (true, pending) =>
      if fate.sendFails then
        ([], counted.setReplyTable connector.udpReplyMap
          (pending.remove requestId))
      else
        ([.sendToConnector connector header payload],
          counted.setReplyTable connector.udpReplyMap pending)

@[simp]
theorem forwardUdpDatagram_registry (edge : Edge) (payload : List UInt8)
    (connector : ConnectorHandle) (hostname : String)
    (clientAddr : SocketAddr) (socket : Nat) (fate : DatagramFate) :
    (edge.forwardUdpDatagram payload connector hostname clientAddr socket
      fate).2.registry = edge.registry := by
  unfold forwardUdpDatagram
  simp only
  split
  · rfl
  · split
    · rfl
    · split <;> rfl

/-- One round of `udp_reply_loop`: a datagram of the Connector whose reply
table is `name`. -/
def handleConnectorDatagram (edge : Edge) (name : Nat)
    (datagram : List UInt8) (fate : DatagramFate) : List Effect × Edge :=
  match DatagramHeader.decode datagram with
  | none => ([], edge)
  | some (header, payload) =>
    match (edge.replyTables name).take header.requestId fate.now with
    | (none, table) => ([], edge.setReplyTable name table)
    | (some entry, table) =>
      let taken := edge.setReplyTable name table
      match entry.destination with
      | .client addr socket => ([.sendToClient addr socket payload], taken)
      | .peer connection ingressEdgeId requestId hostname =>
        let reply : Mesh.MeshDatagramHeader :=
          { kind := .reply
            requestId := BitVec.ofNat 64 requestId
            connectionGeneration := 0
            ingressEdgeId
            tenantId := ""
            hostname }
        match reply.encode payload with
        | .error _ => ([], taken)
        | .ok encoded =>
          if fate.tooLarge encoded || fate.sendFails then ([], taken)
          else ([.sendToPeer connection reply payload], taken)

/-- A datagram of a Connector answers a client or the peer that forwarded
the request. -/
theorem handleConnectorDatagram_effect {edge : Edge} {name : Nat}
    {datagram : List UInt8} {fate : DatagramFate} {effect : Effect}
    (produced : effect ∈ (edge.handleConnectorDatagram name datagram fate).1) :
    (∃ addr socket payload, effect = .sendToClient addr socket payload) ∨
      ∃ connection header payload,
        effect = .sendToPeer connection header payload ∧
          header.kind = .reply := by
  unfold handleConnectorDatagram at produced
  simp only at produced
  split at produced
  · cases produced
  · split at produced
    · cases produced
    · split at produced
      · rw [List.mem_singleton.mp produced]
        exact .inl ⟨_, _, _, rfl⟩
      · split at produced
        · cases produced
        · split at produced
          · cases produced
          · rw [List.mem_singleton.mp produced]
            exact .inr ⟨_, _, _, rfl, rfl⟩

@[simp]
theorem handleConnectorDatagram_registry (edge : Edge) (name : Nat)
    (datagram : List UInt8) (fate : DatagramFate) :
    (edge.handleConnectorDatagram name datagram fate).2.registry =
      edge.registry := by
  unfold handleConnectorDatagram
  simp only
  split
  · rfl
  · split
    · rfl
    · split
      · rfl
      · split
        · rfl
        · split <;> rfl

end Edge

end SieveTube
