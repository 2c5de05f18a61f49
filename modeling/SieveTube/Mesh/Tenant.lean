import SieveTube.Mesh.Exchange
import SieveTube.Mesh.Routes

/-!
# The tenant a request is judged for and the tenant that serves it

The policy judges an HTTP request under the tenant of the routing decision:
that of the local Connector, or that of the first candidate.  The stream is
opened later, through whichever candidate accepts, and each candidate is
asked for the tenant of its own advertisement.
-/

namespace SieveTube

open Inet

namespace Mesh

/-- The request for a candidate passes the structural checks of its
receiver. -/
def Deliverable (edge : Edge) (call : Call) (route : RemoteRoute) : Prop :=
  (edge.forwardRequest route call.hostname call.protocol call.clientAddr
    call.responseBudgetMs).validate = .ok ()

/-- A Connector of the tenant that the candidate advertised. -/
def ServedBy (edge : Edge) (call : Call) (index : Nat)
    (connector : ConnectorHandle) : Prop :=
  ∃ route, call.routes[index]? = some route ∧ Deliverable edge call route ∧
    connector.tenantId = route.tenantId

/-- What a stream tells about the candidate it leads to. -/
def StreamState.Bound (edge : Edge) (call : Call) (index : Nat) :
    StreamState → Prop
  | .unopened | .ended => True
  | .requested request =>
    ∃ route, call.routes[index]? = some route ∧
      request.tenantId = route.tenantId ∧
      (request.validate = .ok () → Deliverable edge call route)
  | .preparing pending => ServedBy edge call index pending.connector
  | .answered _ served =>
    ∀ connector, served = some connector → ServedBy edge call index connector

namespace Exchange

/-- Every stream belongs to the tenant of its candidate. -/
structure Tenanted (edge : Edge) (call : Call)
    (exchange : Exchange) : Prop where
  edgeId : exchange.edge.edgeId = edge.edgeId
  bound : ∀ index, (exchange.streams index).Bound edge call index

variable {edge : Edge} {call : Call} {exchange : Exchange}

/-- Only the id of the sending Edge enters the structural checks. -/
theorem validate_forwardRequest_congr {first second : Edge}
    (same : first.edgeId = second.edgeId) (route : RemoteRoute)
    (hostname : String) (protocol : Protocol) (clientAddr : SocketAddr)
    (budget : Nat) :
    (first.forwardRequest route hostname protocol clientAddr budget).validate =
      (second.forwardRequest route hostname protocol clientAddr
        budget).validate := by
  unfold Edge.forwardRequest ForwardRequest.validate
  rw [same]

theorem validate_of_authorizeForward {receiver : Edge} {peerId : String}
    {request : ForwardRequest} {connector : ConnectorHandle}
    (authorized : receiver.authorizeForward peerId request = .ok connector) :
    request.validate = .ok () := by
  unfold Edge.authorizeForward at authorized
  cases valid : request.validate with
  | error reason => simp [valid, bind, Except.bind] at authorized
  | ok _ => rfl

theorem tenanted_start : Tenanted edge call (start edge call) := by
  unfold start
  split <;> exact ⟨rfl, fun _ => trivial⟩

section

variable (tenanted : Tenanted edge call exchange)
include tenanted

theorem Tenanted.setStream {index : Nat} {stream : StreamState}
    (bound : stream.Bound edge call index) :
    Tenanted edge call (exchange.setStream index stream) := by
  refine ⟨tenanted.edgeId, ?_⟩
  intro other
  by_cases same : other = index
  · subst same
    simpa [Exchange.setStream] using bound
  · simpa [Exchange.setStream, same] using tenanted.bound other

theorem Tenanted.answer {index : Nat} (response : ForwardResponse)
    {served : Option ConnectorHandle} (written : Bool)
    (bound : ∀ connector, served = some connector →
      ServedBy edge call index connector) :
    Tenanted edge call (exchange.answer index response served written) := by
  cases written with
  | false => exact tenanted.setStream trivial
  | true =>
    have kept : Tenanted edge call
        (exchange.setStream index (.answered response served)) :=
      tenanted.setStream bound
    exact ⟨kept.edgeId, kept.bound⟩

theorem Tenanted.advance {sender : Edge}
    (same : sender.edgeId = exchange.edge.edgeId) (index : Nat) :
    Tenanted edge call (Exchange.advance call
      { exchange with edge := sender } index) := by
  unfold Exchange.advance
  split <;> exact ⟨same.trans tenanted.edgeId, tenanted.bound⟩

theorem tenanted_of_move {next : Exchange} {event : ExchangeEvent}
    (move : Move call exchange event next) : Tenanted edge call next := by
  cases move with
  | stay => exact tenanted
  | skip sender index trying same => exact tenanted.advance same index
  | send sender index route trying found same =>
    have requested : (StreamState.requested
        (exchange.edge.forwardRequest route call.hostname call.protocol
          call.clientAddr call.responseBudgetMs)).Bound edge call index := by
      refine ⟨route, found, rfl, ?_⟩
      intro valid
      rw [Deliverable, ← valid]
      exact (validate_forwardRequest_congr tenanted.edgeId ..).symm
    have kept := tenanted.setStream requested
    exact ⟨same.trans tenanted.edgeId, kept.bound⟩
  | giveUp index waiting => exact tenanted.advance rfl index
  | retry index response served waiting answered retryable =>
    exact tenanted.advance rfl index
  | accepted index response served waiting answered accepts =>
    exact ⟨tenanted.edgeId, tenanted.bound⟩
  | refused index waiting => exact ⟨tenanted.edgeId, tenanted.bound⟩
  | authorize index receiver request pending requested authorized =>
    have bound := tenanted.bound index
    rw [requested] at bound
    obtain ⟨route, found, tenant, deliverable⟩ := bound
    refine tenanted.setStream ⟨route, found, ?_, ?_⟩
    · exact deliverable (validate_of_authorizeForward authorized)
    · obtain ⟨_, _, _, sameTenant, _⟩ := Edge.authorizeForward_ok authorized
      exact sameTenant.trans tenant
  | reject index request response written requested rejects =>
    apply tenanted.answer response written
    intro connector none
    cases none
  | finish index pending response written preparing =>
    have bound := tenanted.bound index
    rw [preparing] at bound
    apply tenanted.answer response written
    intro connector some
    split at some
    · cases some
      exact bound
    · cases some
  | abandon index pending preparing => exact tenanted.setStream trivial

end

theorem tenanted_run (edge : Edge) (call : Call) (events : List ExchangeEvent) :
    Tenanted edge call (run edge call events) := by
  apply Run.invariant tenanted_start
  intro exchange event tenanted
  exact tenanted_of_move tenanted move_step

/-- A stream that `open` returns leads to the tenant of a candidate. -/
theorem delivered_tenant {events : List ExchangeEvent}
    {connector : ConnectorHandle}
    (delivered : (run edge call events).delivered = some connector) :
    ∃ route ∈ call.routes,
      Deliverable edge call route ∧ connector.tenantId = route.tenantId := by
  have tenanted := tenanted_run edge call events
  unfold Exchange.delivered at delivered
  split at delivered
  · next index _ =>
    split at delivered
    · next response served answered =>
      have bound := tenanted.bound index
      rw [answered] at bound
      obtain ⟨route, found, deliverable, same⟩ := bound connector delivered
      exact ⟨route, List.mem_of_getElem? found, deliverable, same⟩
    · cases delivered
  · cases delivered

/-- The candidates before one cannot be reached. -/
def skipped (index : Nat) : List ExchangeEvent :=
  List.replicate index (.attemptFails .notConnected)

theorem run_skipped {index : Nat} (candidate : index < call.routes.length) :
    ∃ log, run edge call (skipped index) =
      { edge
        phase := .trying index
        streams := fun _ => .unopened
        log } := by
  induction index with
  | zero =>
    cases routes : call.routes with
    | nil =>
      rw [routes] at candidate
      exact absurd candidate (Nat.lt_irrefl 0)
    | cons first rest =>
      refine ⟨[.contacted 0], ?_⟩
      simp [run, skipped, start, routes]
  | succ index ih =>
    obtain ⟨log, reached⟩ := ih (by omega)
    have found : call.routes[index]? =
        some (call.routes.get ⟨index, by omega⟩) := by
      simp
    refine ⟨log ++ [.contacted (index + 1)], ?_⟩
    have events : skipped (index + 1) =
        skipped index ++ [.attemptFails .notConnected] :=
      List.replicate_succ'
    rw [events, run, Run.after_concat, ← run, reached]
    simp [step, attemptFails, found, advance, candidate, Edge.openRemoteStream]

/-- One candidate accepts through a Connector of the advertised tenant. -/
def served (index : Nat) (tenantId hostname : String) : List ExchangeEvent :=
  let receiver := servingEdge tenantId hostname
  [.send, .receive index receiver .arrives true,
    .prepare index receiver .opened true, .deliver]

theorem getByHostname_servingEdge (tenantId hostname : String) :
    (servingEdge tenantId hostname).registry.getByHostname hostname =
      some (servingConnector tenantId hostname) := by
  simp [servingEdge, servingConnector, ConnectorRegistry.register,
    ConnectorRegistry.new, ConnectorRegistry.servedByOther,
    ConnectorRegistry.handleFor, ConnectorRegistry.otherHostnames,
    ConnectorRegistry.getByHostname, AList.lookup_insertAll]

theorem authorizeForward_servingEdge {request : ForwardRequest}
    (valid : request.validate = .ok ()) :
    (servingEdge request.tenantId request.hostname).authorizeForward
      request.ingressEdgeId request =
      .ok (servingConnector request.tenantId request.hostname) := by
  have supports : (servingConnector request.tenantId
      request.hostname).supports request.hostname request.protocol = true := by
    simp [servingConnector, ConnectorHandle.supports]
  have tenant : (servingConnector request.tenantId
      request.hostname).tenantId = request.tenantId := rfl
  simp [Edge.authorizeForward, valid, getByHostname_servingEdge, tenant,
    supports, bind, Except.bind]

/-- Every candidate whose request is well formed can end up serving it. -/
theorem delivered_of_deliverable {route : RemoteRoute}
    (member : route ∈ call.routes) (deliverable : Deliverable edge call route) :
    ∃ events, (run edge call events).delivered =
      some (servingConnector route.tenantId call.hostname) := by
  obtain ⟨index, found⟩ := List.mem_iff_getElem?.mp member
  have candidate : index < call.routes.length :=
    (List.getElem?_eq_some_iff.mp found).1
  obtain ⟨log, reached⟩ := run_skipped candidate
  refine ⟨skipped index ++ served index route.tenantId call.hostname, ?_⟩
  have continued : run edge call
      (skipped index ++ served index route.tenantId call.hostname) =
        (served index route.tenantId call.hostname).foldl (step call)
          (run edge call (skipped index)) := by
    simp [run, Run.after]
  rw [continued, reached]
  have passes : (servingEdge route.tenantId call.hostname).authorizeForward
      edge.edgeId (edge.forwardRequest route call.hostname call.protocol
        call.clientAddr call.responseBudgetMs) =
          .ok (servingConnector route.tenantId call.hostname) :=
    authorizeForward_servingEdge deliverable
  simp [served, step, send, found, setStream, receive, ReadFate.outcome,
    Edge.acceptForward, passes, Edge.openRemoteStream, Edge.countRequest,
    prepare, responseOf, Edge.finishForward, answer, deliver,
    Exchange.delivered, ForwardAttempt.retryable, ForwardResponse.accept]

end Exchange

/-- The Connectors that the stream opened for a decision can lead to. -/
inductive Delivers (edge : Edge) (hostname : String) (protocol : Protocol)
    (clientAddr : SocketAddr) (responseBudgetMs : Nat) :
    RouteDecision → ConnectorHandle → Prop where
  | localRoute (handle : ConnectorHandle) :
      Delivers edge hostname protocol clientAddr responseBudgetMs
        (.localRoute handle) handle
  | remote (routes : List RemoteRoute) (events : List ExchangeEvent)
      (connector : ConnectorHandle) (delivered : (Exchange.run edge
        { routes, hostname, protocol, clientAddr, responseBudgetMs }
        events).delivered = some connector) :
      Delivers edge hostname protocol clientAddr responseBudgetMs
        (.remote routes) connector

section Delivery

variable {edge : Edge} {hostname : String} {protocol : Protocol}
variable {clientAddr : SocketAddr} {responseBudgetMs : Nat}
variable {decision : RouteDecision} {connector : ConnectorHandle}

theorem tenantId_of_delivers
    (sameTenant : ∀ routes, decision = .remote routes → ∀ route ∈ routes,
      Deliverable edge
        { routes, hostname, protocol, clientAddr, responseBudgetMs } route →
      decision.tenantId = some route.tenantId)
    (delivers : Delivers edge hostname protocol clientAddr responseBudgetMs
      decision connector) :
    decision.tenantId = some connector.tenantId := by
  cases delivers with
  | localRoute => rfl
  | remote routes events connector delivered =>
    obtain ⟨route, member, deliverable, tenant⟩ :=
      Exchange.delivered_tenant delivered
    rw [tenant]
    exact sameTenant routes rfl route member deliverable

end Delivery

/-- An HTTP request is always delivered to the tenant it was judged for
exactly if every candidate that can take it advertises the tenant of the
first one. -/
theorem policy_tenant_serves_iff (edge : Edge) (hostname : String)
    (now : Nat) (coolingDown : String → Bool) (clientAddr : SocketAddr)
    (responseBudgetMs : Nat) :
    let decision := edge.route hostname .http now coolingDown
    (∀ connector, Delivers edge hostname .http clientAddr responseBudgetMs
      decision connector → decision.tenantId = some connector.tenantId) ↔
    (∀ routes, decision = .remote routes → ∀ route ∈ routes, Deliverable edge
        { routes, hostname, protocol := .http, clientAddr, responseBudgetMs }
            route →
      decision.tenantId = some route.tenantId) := by
  intro decision
  constructor
  · intro judged routes remote route member deliverable
    obtain ⟨events, delivered⟩ :=
      Exchange.delivered_of_deliverable member deliverable
    apply judged (Exchange.servingConnector route.tenantId hostname)
    rw [remote]
    exact .remote routes events _ delivered
  · intro sameTenant connector delivers
    exact tenantId_of_delivers sameTenant delivers

/-- After a transfer of `app.example.com` both the former and the present
owner still have Connectors on other Edges. -/
def afterTransfer : Edge :=
  let sync : RouteSync :=
    { edgeId := "edge-a"
      allowedPeers := ["edge-b", "edge-c"]
      staticAddrs := ∅
      parseAddr := fun _ => some { ip := .v4 0x7f000001, port := 4434 } }
  let ad (tenantId edgeId : String) : RouteAd × Nat :=
    ({ hostname := "app.example.com", protocol := .http, tenantId, edgeId,
       generation := 1 }, 1000)
  let info : EdgeInfo := { advertise := "127.0.0.1:4434", udp := false }
  let plane : ControlPlane :=
    { ads := [ad "former" "edge-b", ad "present" "edge-c"]
      live := ["edge-b", "edge-c"]
      infos := (∅ : AList fun _ : String => EdgeInfo).insert "edge-b" info
        |>.insert "edge-c" info
      nowMs := 0
      now := 0 }
  { Edge.start "edge-a" true 0 0 with routes := sync.routes plane }

/-- The policy judges the request for the present owner; the Edge of its
Connector cannot be reached, and the former owner serves the request. -/
theorem served_by_former_owner :
    let decision := afterTransfer.route "app.example.com" .http 0 fun _ => false
    decision.tenantId = some "present" ∧
    Delivers afterTransfer "app.example.com" .http
      { ip := .v4 0xcb007107, port := 50000 } 5000 decision
      (Exchange.servingConnector "former" "app.example.com") := by
  let candidate (tenantId edgeId : String) : RemoteRoute :=
    { edgeId, tenantId, generation := 1,
      addr := { ip := .v4 0x7f000001, port := 4434 }, expiresAt := 1000000000 }
  have decided : afterTransfer.route "app.example.com" .http 0
      (fun _ => false) = .remote
        [candidate "present" "edge-c", candidate "former" "edge-b"] := by
    decide +kernel
  intro decision
  refine ⟨by decide +kernel, ?_⟩
  apply Delivers.remote _ (Exchange.skipped 1 ++
    Exchange.served 1 "former" "app.example.com")
  decide +kernel

end Mesh

end SieveTube
