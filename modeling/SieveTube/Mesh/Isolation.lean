import SieveTube.Router

/-!
# Tenant isolation across the mesh

Everything an Edge can be given to do is an event, and a run is any sequence
of events.  The theorem of this file follows a message of a peer from its
bytes to the Connector it reaches: the Connector was registered when the
message was looked up, its token lists the hostname, and the message named
its tenant and the peer that sent it.
-/

namespace SieveTube

open Inet Mesh Hostname

/-- Something an Edge is given to do, with the outcomes it cannot decide. -/
inductive EdgeEvent where
  | arrival (arrival : Arrival)
  | departure (tenantId : String) (generation : Nat)
  | routesLearned (routes : String → Protocol → List RemoteRoute)
  | peerStream (peerId : String) (read : ReadOutcome)
  | forwardPrepared (index : Nat) (outcome : PrepareOutcome)
  | peerDatagram (peerId : String) (connection : Nat) (datagram : List UInt8)
      (fate : DatagramFate)
  | connectorDatagram (table : Nat) (datagram : List UInt8)
      (fate : DatagramFate)
  | clientStream (hostname : String) (protocol : Protocol)
      (clientAddr : SocketAddr) (now : Nat) (coolingDown : String → Bool)
      (responseBudgetMs : Nat) (attempts : RemoteRoute → ForwardAttempt)
  | clientDatagram (hostname : String) (payload : List UInt8)
      (clientAddr : SocketAddr) (socket : Nat) (fate : DatagramFate)
      (coolingDown : String → Bool)
      (attempts : RemoteRoute → Edge.DatagramAttempt)

namespace EdgeEvent

/-- A message of a peer, or the completion of one. -/
def FromPeer : EdgeEvent → Prop
  | .peerStream .. | .forwardPrepared .. | .peerDatagram .. => True
  | _ => False

/-- A stream or a datagram of one of the Edge's own clients. -/
def FromClient : EdgeEvent → Prop
  | .clientStream .. | .clientDatagram .. => True
  | _ => False

end EdgeEvent

/-- An Edge with the forwarded streams it is preparing. -/
structure Server where
  edge : Edge
  pending : List PendingForward

namespace Server

def start (edgeId : String) (meshEnabled : Bool)
    (udpMaxPendingReplies udpReplyTimeout : Nat) : Server :=
  { edge := .start edgeId meshEnabled udpMaxPendingReplies udpReplyTimeout
    pending := [] }

/-- Replace the Edge after a handler and keep its effects. -/
def handled (server : Server) (result : List Effect × Edge) :
    List Effect × Server :=
  (result.1, { server with edge := result.2 })

def handle (server : Server) : EdgeEvent → List Effect × Server
  | .arrival arrival =>
    ([], { server with edge := (server.edge.handleConnector arrival).2 })
  | .departure tenantId generation =>
    ([], { server with edge := server.edge.discharge tenantId generation })
  | .routesLearned routes =>
    ([], { server with edge := { server.edge with routes } })
  | .peerStream peerId read =>
    let (effects, accepted) := server.edge.acceptForward peerId read
    (effects, { server with pending := server.pending ++ accepted.toList })
  | .forwardPrepared index outcome =>
    match server.pending[index]? with
    | none => ([], server)
    | some forward =>
      let (effects, edge) := server.edge.finishForward forward outcome
      (effects, { edge, pending := server.pending.eraseIdx index })
  | .peerDatagram peerId connection datagram fate =>
    server.handled (server.edge.handleDatagram peerId connection datagram fate)
  | .connectorDatagram table datagram fate =>
    server.handled (server.edge.handleConnectorDatagram table datagram fate)
  | .clientStream hostname protocol clientAddr now coolingDown
    responseBudgetMs attempts =>
      let decision := server.edge.route hostname protocol now coolingDown
      server.handled (server.edge.openStream decision hostname protocol
        clientAddr responseBudgetMs attempts)
  | .clientDatagram hostname payload clientAddr socket fate
    coolingDown attempts =>
      let decision := server.edge.route hostname .udp fate.now coolingDown
      server.handled (server.edge.forwardDatagram decision payload hostname
        clientAddr socket fate attempts)

def step (server : Server) (event : EdgeEvent) : Server :=
  (server.handle event).2

end Server

/-- The Connector was registered on behalf of a verified token: its tenant
is the subject, its hostnames are those of the token in normal form, and its
services are the advertised ones restricted to them. -/
structure RegisteredFrom (connector : ConnectorHandle)
    (arrival : Arrival) : Prop where
  tenant : connector.tenantId = arrival.claims.sub
  hostnames : normalizeClaimedHostnames arrival.claims.hostnames =
    .ok connector.hostnames
  services : connector.services =
    arrival.services.map (servicesFor connector.hostnames)
  connection : connector.connection = arrival.connection

/-- What a Connector that gets traffic for a hostname and a protocol must
have, given the events before the lookup and the registry it read. -/
structure Entitled (events : List EdgeEvent) (registry : ConnectorRegistry)
    (connector : ConnectorHandle) (hostname : String)
    (protocol : Protocol) : Prop where
  current : registry.IsCurrent connector
  listed : hostname ∈ connector.hostnames
  token : ∃ arrival,
    .arrival arrival ∈ events ∧ RegisteredFrom connector arrival ∧
      ∃ raw, raw ∈ arrival.claims.hostnames ∧
        normalizeHostname raw = .ok hostname
  supported : connector.supports hostname protocol

/-- A pending forward was authorized when its request arrived. -/
def Authorized (start : Server) (events : List EdgeEvent)
    (forward : PendingForward) : Prop :=
  ∃ earlier later peerId, events =
      earlier ++ .peerStream peerId (.request forward.request) :: later ∧
    (Run.after Server.step start earlier).edge.authorizeForward peerId
      forward.request = .ok forward.connector

theorem Authorized.mono {start : Server} {events : List EdgeEvent}
    {forward : PendingForward}
    (authorized : Authorized start events forward) (event : EdgeEvent) :
    Authorized start (events ++ [event]) forward := by
  obtain ⟨earlier, later, peerId, rfl, checked⟩ := authorized
  exact ⟨earlier, later ++ [event], peerId, by simp, checked⟩

/-- What every run of an Edge preserves. -/
structure Server.Sound (start : Server) (events : List EdgeEvent)
    (server : Server) : Prop where
  consistent : server.edge.registry.Consistent
  backed : ∀ connector, server.edge.registry.IsCurrent connector →
    ∃ arrival, .arrival arrival ∈ events ∧ RegisteredFrom connector arrival
  authorized : ∀ forward, forward ∈ server.pending →
    Authorized start events forward

theorem registeredFrom_handleFor {registry : ConnectorRegistry}
    {arrival : Arrival} {meshEnabled : Bool} {udpReplyMap : Nat}
    {registration : Registration}
    (accepted : arrival.registration meshEnabled udpReplyMap =
      .ok registration) :
    RegisteredFrom (registry.handleFor registration) arrival := by
  obtain ⟨tenant, hostnames, services, connection, _⟩ :=
    Arrival.registration_ok accepted
  exact ⟨tenant, hostnames, services, connection⟩

namespace Server

/-- Handlers other than the two that register and remove Connectors leave
the registry alone. -/
theorem handle_registry (server : Server) (event : EdgeEvent) :
    (server.handle event).2.edge.registry = server.edge.registry ∨
      (∃ arrival, event = .arrival arrival) ∨
        ∃ tenantId generation, event = .departure tenantId generation := by
  cases event with
  | arrival arrival => exact .inr (.inl ⟨arrival, rfl⟩)
  | departure tenantId generation =>
    exact .inr (.inr ⟨tenantId, generation, rfl⟩)
  | forwardPrepared index outcome =>
    left
    simp only [handle]
    split
    · rfl
    · exact Edge.finishForward_registry ..
  | routesLearned routes => exact .inl rfl
  | peerStream peerId read => exact .inl rfl
  | peerDatagram peerId connection datagram fate =>
    exact .inl (Edge.handleDatagram_registry ..)
  | connectorDatagram table datagram fate =>
    exact .inl (Edge.handleConnectorDatagram_registry ..)
  | clientStream hostname protocol clientAddr now coolingDown
    responseBudgetMs attempts =>
      exact .inl (Edge.openStream_registry ..)
  | clientDatagram hostname payload clientAddr socket fate
    coolingDown attempts =>
      exact .inl (Edge.forwardDatagram_registry ..)

variable {server : Server}

theorem consistent_handle (consistent : server.edge.registry.Consistent)
    (event : EdgeEvent) :
    (server.handle event).2.edge.registry.Consistent := by
  rcases server.handle_registry event with
    same | ⟨arrival, rfl⟩ | ⟨tenantId, generation, rfl⟩
  · rw [same]
    exact consistent
  · show (server.edge.handleConnector arrival).2.registry.Consistent
    rcases server.edge.handleConnector_registry arrival with
      same | ⟨_, _, registered⟩
    · rw [same]
      exact consistent
    · rw [registered]
      exact ConnectorRegistry.consistent_register consistent _
  · exact ConnectorRegistry.consistent_remove consistent _ _

variable {event : EdgeEvent}

/-- A Connector becomes current only through the arrival of its token. -/
theorem isCurrent_handle {connector : ConnectorHandle}
    (isCurrent : (server.handle event).2.edge.registry.IsCurrent connector) :
    server.edge.registry.IsCurrent connector ∨ ∃ arrival,
      event = .arrival arrival ∧ RegisteredFrom connector arrival := by
  rcases server.handle_registry event with
    same | ⟨arrival, rfl⟩ | ⟨tenantId, generation, rfl⟩
  · rw [same] at isCurrent
    exact .inl isCurrent
  · change (server.edge.handleConnector arrival).2.registry.IsCurrent
      connector at isCurrent
    rcases server.edge.handleConnector_registry arrival with
      same | ⟨registration, accepted, registered⟩
    · rw [same] at isCurrent
      exact .inl isCurrent
    · rw [registered] at isCurrent
      rcases ConnectorRegistry.isCurrent_register isCurrent with old | new
      · exact .inl old
      · rw [new]
        exact .inr ⟨arrival, rfl, registeredFrom_handleFor accepted⟩
  · exact .inl (ConnectorRegistry.isCurrent_remove isCurrent)

/-- A forward becomes pending only by passing authorization. -/
theorem pending_handle {forward : PendingForward}
    (isPending : forward ∈ (server.handle event).2.pending) :
    forward ∈ server.pending ∨ ∃ peerId,
      event = .peerStream peerId (.request forward.request) ∧
        server.edge.authorizeForward peerId forward.request =
          .ok forward.connector := by
  cases event with
  | peerStream peerId read =>
    simp only [handle, List.mem_append] at isPending
    rcases isPending with old | new
    · exact .inl old
    · right
      cases read with
      | timedOut | malformed error => simp [Edge.acceptForward] at new
      | request request =>
        cases checked : server.edge.authorizeForward peerId request with
        | error reason => simp [Edge.acceptForward, checked] at new
        | ok connector =>
          simp only [Edge.acceptForward, checked, Option.toList_some,
            List.mem_singleton] at new
          subst forward
          exact ⟨peerId, rfl, checked⟩
  | forwardPrepared index outcome =>
    left
    simp only [handle] at isPending
    split at isPending
    · exact isPending
    · exact List.mem_of_mem_eraseIdx isPending
  | _ => exact .inl isPending

theorem sound_start (edgeId : String) (meshEnabled : Bool)
    (udpMaxPendingReplies udpReplyTimeout : Nat) :
    let server := start edgeId meshEnabled udpMaxPendingReplies udpReplyTimeout
    Sound server [] server := by
  constructor
  · exact ConnectorRegistry.consistent_new
  · intro connector isCurrent
    cases isCurrent
  · intro forward isPending
    cases isPending

theorem sound_step {events : List EdgeEvent}
    (sound : Sound server events (Run.after step server events))
    (event : EdgeEvent) :
    Sound server (events ++ [event])
      (step (Run.after step server events) event) := by
  constructor
  · exact consistent_handle sound.consistent event
  · intro connector isCurrent
    rcases isCurrent_handle isCurrent with old | ⟨arrival, rfl, registered⟩
    · obtain ⟨arrival, happened, registered⟩ := sound.backed connector old
      exact ⟨arrival, List.mem_append_left _ happened, registered⟩
    · exact ⟨arrival, by simp, registered⟩
  · intro forward isPending
    rcases pending_handle isPending with old | ⟨peerId, rfl, checked⟩
    · exact (sound.authorized forward old).mono event
    · exact ⟨events, [], peerId, rfl, checked⟩

theorem sound_run (edgeId : String) (meshEnabled : Bool)
    (udpMaxPendingReplies udpReplyTimeout : Nat)
    (events : List EdgeEvent) :
    let server := start edgeId meshEnabled udpMaxPendingReplies udpReplyTimeout
    Sound server events (Run.after step server events) :=
  Run.history_invariant (sound_start ..)
    (fun _ event sound => sound_step sound event) events

/-- A Connector found under a hostname it supports is entitled to its
traffic. -/
theorem Sound.entitled {start : Server} {events : List EdgeEvent}
    (sound : Sound start events server) {hostname : String}
    {protocol : Protocol} {connector : ConnectorHandle}
    (found : server.edge.registry.getByHostname hostname = some connector)
    (supported : connector.supports hostname protocol) :
    Entitled events server.edge.registry connector hostname protocol := by
  obtain ⟨current, listed⟩ :=
    (sound.consistent.indexed hostname connector).mp found
  obtain ⟨arrival, happened, registered⟩ := sound.backed connector current
  exact ⟨current, listed,
    ⟨arrival, happened, registered,
      normalizeClaimedHostnames_mem registered.hostnames listed⟩,
    supported⟩

/-- What a message of a peer makes an Edge do. -/
theorem handle_fromPeer (fromPeer : event.FromPeer) {effect : Effect}
    (produced : effect ∈ (server.handle event).1) :
    (∃ response, effect = .respond response) ∨
      (∃ addr socket payload, effect = .sendToClient addr socket payload) ∨
      (∃ forward, forward ∈ server.pending ∧
        effect = .openLocalStream forward.connector forward.request.hostname
          forward.request.protocol forward.request.clientAddr) ∨
      ∃ peerId connection datagram fate connector header payload message,
        event = .peerDatagram peerId connection datagram fate ∧
        effect = .sendToConnector connector header payload ∧
        MeshDatagramHeader.decode datagram = .ok (message, payload) ∧
        message.kind = .request ∧
        header.hostname = message.hostname ∧
        message.ingressEdgeId = peerId ∧
        server.edge.registry.getByHostname message.hostname = some connector ∧
        connector.tenantId = message.tenantId ∧
        connector.supports message.hostname .udp := by
  cases event with
  | peerStream peerId read => exact .inl (Edge.acceptForward_effect produced)
  | forwardPrepared index outcome =>
    simp only [handle] at produced
    split at produced
    · cases produced
    · next forward isPending =>
      rcases Edge.finishForward_effect produced with answered | opened
      · exact .inl answered
      · exact .inr
          (.inr (.inl ⟨forward, List.mem_of_getElem? isPending, opened⟩))
  | peerDatagram peerId connection datagram fate =>
    rcases Edge.handleDatagram_effect produced with delivered | forwarded
    · exact .inr (.inl delivered)
    · obtain ⟨connector, header, payload, message, rest⟩ := forwarded
      exact .inr (.inr (.inr ⟨peerId, connection, datagram, fate,
        connector, header, payload, message, rfl, rest⟩))
  | _ => cases fromPeer

/-- An Edge sends requests to peers only for its own clients. -/
theorem handle_request {effect : Effect}
    (produced : effect ∈ (server.handle event).1)
    (request : (∃ edgeId request, effect = .openPeerStream edgeId request) ∨
        ∃ connection header payload,
          effect = .sendToPeer connection header payload ∧
            header.kind = .request) :
    event.FromClient := by
  have notPeer : ¬ event.FromPeer := by
    intro fromPeer
    rcases handle_fromPeer fromPeer produced with
      ⟨_, rfl⟩ | ⟨_, _, _, rfl⟩ | ⟨_, _, rfl⟩ |
        ⟨_, _, _, _, _, _, _, _, _, rfl, _⟩ <;> simp at request
  cases event with
  | clientStream => trivial
  | clientDatagram => trivial
  | connectorDatagram table datagram fate =>
    rcases Edge.handleConnectorDatagram_effect produced with
      ⟨_, _, _, rfl⟩ | ⟨_, _, _, rfl, isReply⟩
    · simp at request
    · simp only [reduceCtorEq, exists_false, false_or,
        Effect.sendToPeer.injEq] at request
      obtain ⟨_, _, _, ⟨_, rfl, _⟩, isRequest⟩ := request
      rw [isReply] at isRequest
      cases isRequest
  | peerStream | forwardPrepared | peerDatagram => exact absurd trivial notPeer
  | arrival | departure | routesLearned => cases produced

end Server

/-- In every run of an Edge, and for whatever a peer sends it: a local stream
is opened only for a request that named the peer as its ingress Edge, had a
hop left, and was looked up to a Connector entitled to it whose tenant it
named; the same holds of datagrams; requests to peers are sent only for the
Edge's own clients; and routing picks a local Connector only if it is
entitled to the traffic. -/
theorem tenant_isolation (edgeId : String) (meshEnabled : Bool)
    (udpMaxPendingReplies udpReplyTimeout : Nat)
    (events : List EdgeEvent) :
    let start := Server.start edgeId meshEnabled udpMaxPendingReplies
      udpReplyTimeout
    let server := Run.after Server.step start events
    (∀ event effect, effect ∈ (server.handle event).1 → event.FromPeer →
      (∀ connector hostname protocol clientAddr, effect =
            .openLocalStream connector hostname protocol clientAddr →
          ∃ earlier later peerId request, events =
              earlier ++ .peerStream peerId (.request request) :: later ∧
            request.hostname = hostname ∧ request.protocol = protocol ∧
            connector.tenantId = request.tenantId ∧
            request.ingressEdgeId = peerId ∧
            1 ≤ request.hopsRemaining ∧
            Entitled earlier (Run.after Server.step start earlier).edge.registry
              connector hostname protocol) ∧
      (∀ connector header payload,
        effect = .sendToConnector connector header payload →
          ∃ peerId connection datagram fate message,
            event = .peerDatagram peerId connection datagram fate ∧
            MeshDatagramHeader.decode datagram = .ok (message, payload) ∧
            message.hostname = header.hostname ∧
            connector.tenantId = message.tenantId ∧
            message.ingressEdgeId = peerId ∧
            Entitled events server.edge.registry connector header.hostname
              .udp)) ∧
    (∀ event effect, effect ∈ (server.handle event).1 →
      (∃ peerId request, effect = .openPeerStream peerId request) ∨
        (∃ connection header payload,
          effect = .sendToPeer connection header payload ∧
            header.kind = .request) →
        event.FromClient) ∧
    (∀ hostname protocol now coolingDown connector,
      server.edge.route hostname protocol now coolingDown =
        .localRoute connector →
        Entitled events server.edge.registry connector hostname protocol) := by
  intro start server
  have sound := Server.sound_run edgeId meshEnabled udpMaxPendingReplies
    udpReplyTimeout
  refine ⟨?_, ?_, ?_⟩
  · intro event effect produced fromPeer
    have effects := Server.handle_fromPeer fromPeer produced
    constructor
    · rintro connector hostname protocol clientAddr rfl
      rcases effects with
        ⟨_, impossible⟩ | ⟨_, _, _, impossible⟩ | ⟨forward, isPending, opened⟩ |
          ⟨_, _, _, _, _, _, _, _, _, impossible, _⟩
      · cases impossible
      · cases impossible
      · cases opened
        obtain ⟨earlier, later, peerId, split, authorized⟩ :=
          (sound events).authorized forward isPending
        obtain ⟨hops, ingress, found, tenant, supported⟩ :=
          Edge.authorizeForward_ok authorized
        exact ⟨earlier, later, peerId, forward.request, split, rfl, rfl,
          tenant, ingress, hops, (sound earlier).entitled found supported⟩
      · cases impossible
    · rintro connector header payload rfl
      rcases effects with
        ⟨_, impossible⟩ | ⟨_, _, _, impossible⟩ | ⟨_, _, impossible⟩ |
          ⟨peerId, connection, datagram, fate, _, _, _, message, rfl,
            equality, decoded, _, hostname, ingress, found, tenant,
            supported⟩
      · cases impossible
      · cases impossible
      · cases impossible
      · cases equality
        refine ⟨peerId, connection, datagram, fate, message, rfl, decoded,
          hostname.symm, tenant, ingress, ?_⟩
        rw [hostname]
        exact (sound events).entitled found supported
  · intro event effect produced request
    exact Server.handle_request produced request
  · intro hostname protocol now coolingDown connector decided
    obtain ⟨found, supported⟩ := Edge.route_localRoute decided
    exact (sound events).entitled found supported

end SieveTube
