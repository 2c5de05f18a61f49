import SieveTube.Mesh.Forward

/-!
# Routing of client traffic

A local Connector always wins; peers are used only while their
advertisements are valid and their connections are not cooling down.
-/

namespace SieveTube

open Inet

inductive RouteDecision where
  | localRoute (handle : ConnectorHandle)
  | remote (routes : List RemoteRoute)
  | unavailable
deriving DecidableEq

/-- The tenant owning the hostname, known before any stream is opened. -/
def RouteDecision.tenantId : RouteDecision → Option String
  | .localRoute handle => some handle.tenantId
  | .remote routes => routes.head?.map RemoteRoute.tenantId
  | .unavailable => none

namespace Edge

open Mesh

/-- Unexpired candidates in their stored order. -/
def candidates (edge : Edge) (hostname : String) (protocol : Protocol)
    (now : Nat) : List RemoteRoute :=
  (edge.routes hostname protocol).filter fun route => now < route.expiresAt

def routeRemote (edge : Edge) (hostname : String) (protocol : Protocol)
    (now : Nat) (coolingDown : String → Bool) : RouteDecision :=
  if edge.meshEnabled then
    match (edge.candidates hostname protocol now).filter
      (fun route => !coolingDown route.edgeId) with
    | [] => .unavailable
    | first :: rest => .remote (first :: rest)
  else .unavailable

/-- Route a normalized hostname. -/
def route (edge : Edge) (hostname : String) (protocol : Protocol)
    (now : Nat) (coolingDown : String → Bool) : RouteDecision :=
  match edge.registry.getByHostname hostname with
  | some handle =>
    if handle.supports hostname protocol then .localRoute handle
    else edge.routeRemote hostname protocol now coolingDown
  | none => edge.routeRemote hostname protocol now coolingDown

theorem routeRemote_ne_localRoute (edge : Edge) {hostname : String}
    {protocol : Protocol} {now : Nat} {coolingDown : String → Bool}
    {connector : ConnectorHandle} :
    edge.routeRemote hostname protocol now coolingDown ≠
      .localRoute connector := by
  unfold routeRemote
  split
  · split <;> simp
  · simp

variable {hostname : String} {protocol : Protocol} {coolingDown : String → Bool}

theorem route_localRoute {edge : Edge} {now : Nat} {connector : ConnectorHandle}
    (decided : edge.route hostname protocol now coolingDown =
      .localRoute connector) :
    edge.registry.getByHostname hostname = some connector ∧
      connector.supports hostname protocol := by
  unfold route at decided
  split at decided
  · next found =>
    split at decided
    · next supported =>
      cases decided
      exact ⟨found, supported⟩
    · exact absurd decided edge.routeRemote_ne_localRoute
  · exact absurd decided edge.routeRemote_ne_localRoute

/-- Try the candidates in order until one accepts or rejects for good. -/
def openRemote (hostname : String) (protocol : Protocol)
    (clientAddr : SocketAddr) (responseBudgetMs : Nat) :
    Edge → List (RemoteRoute × ForwardAttempt) → List Effect × Edge
  | edge, [] => ([], edge)
  | edge, (route, attempt) :: rest =>
    let (effects, next) := edge.openRemoteStream route hostname protocol
      clientAddr responseBudgetMs attempt
    if attempt.retryable then
      let (later, final) :=
        openRemote hostname protocol clientAddr responseBudgetMs next rest
      (effects ++ later, final)
    else (effects, next)

@[simp]
theorem openRemote_registry (hostname : String) (protocol : Protocol)
    (clientAddr : SocketAddr) (responseBudgetMs : Nat) (edge : Edge)
    (attempts : List (RemoteRoute × ForwardAttempt)) :
    (openRemote hostname protocol clientAddr responseBudgetMs edge
      attempts).2.registry = edge.registry := by
  induction attempts generalizing edge with
  | nil => rfl
  | cons first rest ih =>
    simp only [openRemote]
    split
    · rw [ih]
      exact openRemoteStream_registry ..
    · exact openRemoteStream_registry ..

/-- Open a stream for a decision.  `attempts` says how each candidate
answers. -/
def openStream (edge : Edge) (decision : RouteDecision) (hostname : String)
    (protocol : Protocol) (clientAddr : SocketAddr)
    (responseBudgetMs : Nat) (attempts : RemoteRoute → ForwardAttempt) :
    List Effect × Edge :=
  match decision with
  | .localRoute handle =>
    ([.openLocalStream handle hostname protocol clientAddr], edge.countRequest)
  | .remote routes =>
    openRemote hostname protocol clientAddr responseBudgetMs edge
      (routes.map fun route => (route, attempts route))
  | .unavailable => ([], edge)

@[simp]
theorem openStream_registry (edge : Edge) (decision : RouteDecision)
    (hostname : String) (protocol : Protocol) (clientAddr : SocketAddr)
    (responseBudgetMs : Nat) (attempts : RemoteRoute → ForwardAttempt) :
    (edge.openStream decision hostname protocol clientAddr responseBudgetMs
      attempts).2.registry = edge.registry := by
  cases decision with
  | localRoute handle => rfl
  | remote routes => exact openRemote_registry ..
  | unavailable => rfl

/-- What the transport does with a datagram for one candidate. -/
structure DatagramAttempt where
  connection : Option Nat
  fate : DatagramFate

/-- Try the candidates in order until one takes the datagram. -/
def forwardUdpRemote (hostname : String) (payload : List UInt8)
    (clientAddr : SocketAddr) (socket : Nat) :
    Edge → List (RemoteRoute × DatagramAttempt) → List Effect × Edge
  | edge, [] => ([], edge)
  | edge, (route, attempt) :: rest =>
    match edge.forwardUdp route hostname payload clientAddr socket
      attempt.connection attempt.fate with
    | (true, effects, next) => (effects, next)
    | (false, _, next) =>
      forwardUdpRemote hostname payload clientAddr socket next rest

@[simp]
theorem forwardUdpRemote_registry (hostname : String)
    (payload : List UInt8) (clientAddr : SocketAddr) (socket : Nat)
    (edge : Edge) (attempts : List (RemoteRoute × DatagramAttempt)) :
    (forwardUdpRemote hostname payload clientAddr socket edge
      attempts).2.registry = edge.registry := by
  induction attempts generalizing edge with
  | nil => rfl
  | cons first rest ih =>
    have kept := edge.forwardUdp_registry first.1 hostname payload
      clientAddr socket first.2.connection first.2.fate
    simp only [forwardUdpRemote]
    split
    · next sent => simpa [sent] using kept
    · next failed =>
      rw [ih]
      simpa [failed] using kept

/-- Deliver one datagram to a local Connector or to a peer. -/
def forwardDatagram (edge : Edge) (decision : RouteDecision)
    (payload : List UInt8) (hostname : String) (clientAddr : SocketAddr)
    (socket : Nat) (fate : DatagramFate)
    (attempts : RemoteRoute → DatagramAttempt) : List Effect × Edge :=
  match decision with
  | .localRoute connector =>
    edge.forwardUdpDatagram payload connector hostname clientAddr socket fate
  | .remote routes =>
    forwardUdpRemote hostname payload clientAddr socket edge
      (routes.map fun route => (route, attempts route))
  | .unavailable => ([], edge)

@[simp]
theorem forwardDatagram_registry (edge : Edge) (decision : RouteDecision)
    (payload : List UInt8) (hostname : String) (clientAddr : SocketAddr)
    (socket : Nat) (fate : DatagramFate)
    (attempts : RemoteRoute → DatagramAttempt) :
    (edge.forwardDatagram decision payload hostname clientAddr socket fate
      attempts).2.registry = edge.registry := by
  cases decision with
  | localRoute handle => exact forwardUdpDatagram_registry ..
  | remote routes => exact forwardUdpRemote_registry ..
  | unavailable => rfl

end Edge

end SieveTube
