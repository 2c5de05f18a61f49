import SieveTube.Edge

/-!
# One-hop forwarding between Edges

The ingress Edge sends a request to a peer that has the Connector.  The
receiving Edge checks the metadata against the identity of the peer and
against its own registry, and delivers only to its own Connectors.
-/

namespace SieveTube

open Inet

namespace Mesh

/-- What arrived on a stream before `accept_timeout`. -/
inductive ReadOutcome where
  | timedOut
  | malformed (error : SieveTubeError)
  | request (request : ForwardRequest)

/-- What becomes of an authorized request.  The ingress Edge can give up
before the local stream is opened and while it is. -/
inductive PrepareOutcome where
  | noSlot
  | abandonedBeforeOpen
  | abandonedWhileOpening
  | openFailed
  | openTimedOut
  | opened

/-- A request that passed the checks of `handle_forward` and waits for
stream slots. -/
structure PendingForward where
  connector : ConnectorHandle
  request : ForwardRequest

/-- How an attempt to forward a stream to a peer ended. -/
inductive ForwardAttempt where
  | notConnected
  | noSlot
  | streamFailed
  | unanswered
  | answered (response : ForwardResponse)

/-- Whether another candidate may be tried.  A response without a reason
counts as `invalid`. -/
def ForwardAttempt.retryable : ForwardAttempt → Bool
  | .answered response =>
    !response.accepted && (response.reject.getD .invalid).retryable
  | _ => true

end Mesh

namespace Edge

open Mesh

/-- The checks of `handle_forward` on a request read from a peer. -/
def authorizeForward (edge : Edge) (peerId : String)
    (request : ForwardRequest) : Except RejectReason ConnectorHandle := do
  request.validate
  if request.ingressEdgeId = peerId then
    match edge.registry.getByHostname request.hostname with
    | none => .error .noRoute
    | some connector =>
      if connector.tenantId ≠ request.tenantId then .error .notAuthorized
      else if connector.supports request.hostname request.protocol then
        .ok connector
      else .error .noRoute
  else .error .notAuthorized

variable {edge : Edge} {peerId : String}

theorem authorizeForward_ok {request : ForwardRequest}
    {connector : ConnectorHandle}
    (authorized : edge.authorizeForward peerId request = .ok connector) :
    1 ≤ request.hopsRemaining ∧ request.ingressEdgeId = peerId ∧
      edge.registry.getByHostname request.hostname = some connector ∧
      connector.tenantId = request.tenantId ∧
      connector.supports request.hostname request.protocol := by
  unfold authorizeForward at authorized
  cases valid : request.validate with
  | error reason => simp [valid, bind, Except.bind] at authorized
  | ok _ =>
    simp only [valid, bind, Except.bind] at authorized
    split at authorized
    · next samePeer =>
      split at authorized
      · cases authorized
      · next found lookup =>
        split at authorized
        · cases authorized
        · next sameTenant =>
          split at authorized
          · next supported =>
            cases authorized
            exact ⟨ForwardRequest.validate_hops valid, samePeer,
              lookup, not_not.mp sameTenant, supported⟩
          · cases authorized
    · cases authorized

/-- `handle_forward` up to the point where it waits for stream slots. -/
def acceptForward (edge : Edge) (peerId : String) (read : ReadOutcome) :
    List Effect × Option PendingForward :=
  match read with
  | .timedOut | .malformed _ => ([.respond (.rejectWith .invalid)], none)
  | .request request =>
    match edge.authorizeForward peerId request with
    | .error reason => ([.respond (.rejectWith reason)], none)
    | .ok connector => ([], some { connector, request })

/-- The rest of `handle_forward`. -/
def finishForward (edge : Edge) (pending : PendingForward)
    (outcome : PrepareOutcome) : List Effect × Edge :=
  let openStream := Effect.openLocalStream pending.connector
    pending.request.hostname pending.request.protocol
    pending.request.clientAddr
  match outcome with
  | .noSlot => ([.respond (.rejectWith .overloaded)], edge)
  | .abandonedBeforeOpen => ([], edge)
  | .abandonedWhileOpening => ([openStream], edge.countRequest)
  | .openFailed =>
    ([openStream, .respond (.rejectWith .noRoute)], edge.countRequest)
  | .openTimedOut =>
    ([openStream, .respond (.rejectWith .overloaded)], edge.countRequest)
  | .opened => ([openStream, .respond .accept], edge.countRequest)

variable {effect : Effect}

theorem acceptForward_effect {read : ReadOutcome}
    (produced : effect ∈ (edge.acceptForward peerId read).1) :
    ∃ response, effect = .respond response := by
  unfold acceptForward at produced
  split at produced
  · exact ⟨_, List.mem_singleton.mp produced⟩
  · exact ⟨_, List.mem_singleton.mp produced⟩
  · split at produced
    · exact ⟨_, List.mem_singleton.mp produced⟩
    · cases produced

theorem finishForward_effect {pending : PendingForward}
    {outcome : PrepareOutcome}
    (produced : effect ∈ (edge.finishForward pending outcome).1) :
    (∃ response, effect = .respond response) ∨
      effect = .openLocalStream pending.connector pending.request.hostname
        pending.request.protocol pending.request.clientAddr := by
  cases outcome <;> simp only [finishForward, List.mem_cons, List.not_mem_nil,
    or_false] at produced
  case noSlot => exact .inl ⟨_, produced⟩
  case abandonedWhileOpening => exact .inr produced
  all_goals
    rcases produced with opened | answered
    · exact .inr opened
    · exact .inl ⟨_, answered⟩

@[simp]
theorem finishForward_registry (edge : Edge) (pending : PendingForward)
    (outcome : PrepareOutcome) :
    (edge.finishForward pending outcome).2.registry = edge.registry := by
  cases outcome <;> rfl

/-- A datagram a peer forwarded to this Edge. -/
def handleDatagramRequest (edge : Edge) (peerId : String) (connection : Nat)
    (header : MeshDatagramHeader) (payload : List UInt8)
    (fate : DatagramFate) : List Effect × Edge :=
  if header.ingressEdgeId = peerId then
    match edge.registry.getByHostname header.hostname with
    | none => ([], edge)
    | some connector =>
      if connector.tenantId = header.tenantId ∧
          connector.supports header.hostname .udp then
        let localId := edge.nextRequestId
        let counted := edge.countRequest
        let entry := UdpReplyEntry.peer connection header.ingressEdgeId
          header.requestId.toNat header.hostname fate.now
        let table := edge.replyTables connector.udpReplyMap
        match table.insert localId entry fate.now with
        | (false, swept) =>
          ([], counted.setReplyTable connector.udpReplyMap swept)
        | (true, pending) =>
          let toConnector : DatagramHeader :=
            { requestId := localId, hostname := header.hostname }
          if fate.tooLarge (toConnector.encode payload) || fate.sendFails then
            ([], counted.setReplyTable connector.udpReplyMap
              (pending.remove localId))
          else
            ([.sendToConnector connector toConnector payload],
              counted.setReplyTable connector.udpReplyMap pending)
      else ([], edge)
  else ([], edge)

/-- A reply to a datagram this Edge forwarded.  It is accepted only from the
peer the request was sent to. -/
def handleDatagramReply (edge : Edge) (peerId : String)
    (header : MeshDatagramHeader) (payload : List UInt8)
    (fate : DatagramFate) : List Effect × Edge :=
  if header.ingressEdgeId = edge.edgeId then
    match edge.udpReplies.takeIf header.requestId.toNat fate.now
      (fun entry => entry.expectPeer = some peerId) with
    | (none, table) => ([], { edge with udpReplies := table })
    | (some entry, table) =>
      match entry.destination with
      | .client addr socket =>
        ([.sendToClient addr socket payload],
          { edge with udpReplies := table })
      | .peer .. => ([], { edge with udpReplies := table })
  else ([], edge)

theorem lookup_handleDatagramReply {requestId : Nat} {entry : UdpReplyEntry}
    (found : edge.udpReplies.entries.lookup requestId = some entry)
    (unexpected : entry.expectPeer ≠ some peerId) (header : MeshDatagramHeader)
    (payload : List UInt8) (fate : DatagramFate) :
    (edge.handleDatagramReply peerId header payload
      fate).2.udpReplies.entries.lookup requestId = some entry := by
  simp only [handleDatagramReply]
  split
  · rcases taken : edge.udpReplies.takeIf header.requestId.toNat fate.now
      (fun entry => entry.expectPeer = some peerId) with ⟨claimed, table⟩
    have kept : table.entries.lookup requestId = some entry := by
      rcases UdpReplyTable.takeIf_eq taken with ⟨_, rfl⟩ | ⟨rfl, accepted, _⟩
      · exact found
      · have other : requestId ≠ header.requestId.toNat := by
          intro same
          rw [← same, found] at accepted
          exact unexpected (by simpa using accepted)
        exact (AList.lookup_erase_ne other).trans found
    split
    · next same =>
      obtain ⟨_, rfl⟩ := Prod.mk.inj same
      exact kept
    · next same =>
      obtain ⟨_, rfl⟩ := Prod.mk.inj same
      split <;> exact kept
  · exact found

/-- A datagram of an authenticated peer, with arbitrary bytes. -/
def handleDatagram (edge : Edge) (peerId : String) (connection : Nat)
    (datagram : List UInt8) (fate : DatagramFate) : List Effect × Edge :=
  match MeshDatagramHeader.decode datagram with
  | .error _ => ([], edge)
  | .ok (header, payload) =>
    match header.kind with
    | .request =>
      edge.handleDatagramRequest peerId connection header payload fate
    | .reply => edge.handleDatagramReply peerId header payload fate

/-- A datagram of a peer reaches a Connector only as a request of that peer
for the Connector's tenant, and otherwise only one of the Edge's clients. -/
theorem handleDatagram_effect {connection : Nat} {datagram : List UInt8}
    {fate : DatagramFate}
    (produced : effect ∈
      (edge.handleDatagram peerId connection datagram fate).1) :
    (∃ addr socket payload, effect = .sendToClient addr socket payload) ∨
      ∃ connector header payload message,
        effect = .sendToConnector connector header payload ∧
        MeshDatagramHeader.decode datagram = .ok (message, payload) ∧
        message.kind = .request ∧
        header.hostname = message.hostname ∧
        message.ingressEdgeId = peerId ∧
        edge.registry.getByHostname message.hostname = some connector ∧
        connector.tenantId = message.tenantId ∧
        connector.supports message.hostname .udp := by
  unfold handleDatagram at produced
  split at produced
  · cases produced
  · next message payload decoded =>
    split at produced
    · next isRequest =>
      right
      unfold handleDatagramRequest at produced
      split at produced
      · next samePeer =>
        split at produced
        · cases produced
        · next connector lookup =>
          split at produced
          · next checked =>
            simp only at produced
            split at produced
            · cases produced
            · split at produced
              · cases produced
              · rw [List.mem_singleton.mp produced]
                exact ⟨_, _, _, message, rfl, decoded, isRequest, rfl, samePeer,
                  lookup, checked⟩
          · cases produced
      · cases produced
    · left
      unfold handleDatagramReply at produced
      split at produced
      · split at produced
        · cases produced
        · split at produced
          · rw [List.mem_singleton.mp produced]
            exact ⟨_, _, _, rfl⟩
          · cases produced
      · cases produced

@[simp]
theorem handleDatagram_registry (edge : Edge) (peerId : String)
    (connection : Nat) (datagram : List UInt8) (fate : DatagramFate) :
    (edge.handleDatagram peerId connection datagram fate).2.registry =
      edge.registry := by
  unfold handleDatagram
  split
  · rfl
  · split
    · unfold handleDatagramRequest
      simp only
      repeat' split
      all_goals rfl
    · unfold handleDatagramReply
      repeat' split
      all_goals rfl

/-- The request an ingress Edge sends for one of its clients.  One hop only:
the receiving Edge must deliver locally. -/
def forwardRequest (edge : Edge) (route : RemoteRoute) (hostname : String)
    (protocol : Protocol) (clientAddr : SocketAddr)
    (responseBudgetMs : Nat) : ForwardRequest :=
  { version := meshVersion
    ingressEdgeId := edge.edgeId
    tenantId := route.tenantId
    hostname
    protocol
    clientAddr
    requestId := edge.nextRequestId
    hopsRemaining := 1
    connectionGeneration := route.generation
    responseBudgetMs := some responseBudgetMs }

/-- Open a forwarding stream to the peer that has the Connector.  The
request id is taken once a connection and stream slots are there. -/
def openRemoteStream (edge : Edge) (route : RemoteRoute) (hostname : String)
    (protocol : Protocol) (clientAddr : SocketAddr)
    (responseBudgetMs : Nat) (attempt : ForwardAttempt) :
    List Effect × Edge :=
  match attempt with
  | .notConnected | .noSlot => ([], edge)
  | .streamFailed => ([], edge.countRequest)
  | .unanswered | .answered _ =>
    ([.openPeerStream route.edgeId
        (edge.forwardRequest route hostname protocol clientAddr
          responseBudgetMs)],
      edge.countRequest)

@[simp]
theorem openRemoteStream_registry (edge : Edge) (route : RemoteRoute)
    (hostname : String) (protocol : Protocol) (clientAddr : SocketAddr)
    (responseBudgetMs : Nat) (attempt : ForwardAttempt) :
    (edge.openRemoteStream route hostname protocol clientAddr
      responseBudgetMs attempt).2.registry = edge.registry := by
  cases attempt <;> rfl

/-- Send a client's datagram to a peer and remember where the reply goes.
`connection` is `none` when the peer cannot be reached. -/
def forwardUdp (edge : Edge) (route : RemoteRoute) (hostname : String)
    (payload : List UInt8) (clientAddr : SocketAddr) (socket : Nat)
    (connection : Option Nat) (fate : DatagramFate) :
    Bool × List Effect × Edge :=
  match connection with
  | none => (false, [], edge)
  | some connection =>
    let requestId := edge.nextRequestId
    let counted := edge.countRequest
    let header : MeshDatagramHeader :=
      { kind := .request
        requestId := BitVec.ofNat 64 requestId
        connectionGeneration := BitVec.ofNat 64 route.generation
        ingressEdgeId := edge.edgeId
        tenantId := route.tenantId
        hostname }
    match header.encode payload with
    | .error _ => (false, [], counted)
    | .ok datagram =>
      if fate.tooLarge datagram then (false, [], counted)
      else
        match edge.udpReplies.insert requestId
          (.clientViaPeer clientAddr socket route.edgeId fate.now)
          fate.now with
        | (false, swept) => (false, [], { counted with udpReplies := swept })
        | (true, pending) =>
          if fate.sendFails then
            (false, [],
              { counted with udpReplies := pending.remove requestId })
          else
            (true, [.sendToPeer connection header payload],
              { counted with udpReplies := pending })

@[simp]
theorem forwardUdp_registry (edge : Edge) (route : RemoteRoute)
    (hostname : String) (payload : List UInt8) (clientAddr : SocketAddr)
    (socket : Nat) (connection : Option Nat) (fate : DatagramFate) :
    (edge.forwardUdp route hostname payload clientAddr socket connection
      fate).2.2.registry = edge.registry := by
  unfold forwardUdp
  simp only
  repeat' split
  all_goals rfl

end Edge

end SieveTube
