import SieveTube.Router

/-!
# One call of `open` over several peers

The ingress Edge tries its candidates in turn.  Each candidate that gets the
request works on it at its own pace, and goes on when the ingress Edge has
given up on it.  Messages take any time and the accept timeout can fire at
any moment, so the events of the Edges interleave freely.
-/

namespace SieveTube

open Inet

namespace Mesh

/-- The arguments of one call of `open` with remote candidates. -/
structure Call where
  routes : List RemoteRoute
  hostname : String
  protocol : Protocol
  clientAddr : SocketAddr
  responseBudgetMs : Nat

/-- The stream to one candidate.  `answered` holds what the receiving Edge
wrote, and the Connector of the local stream it opened for an acceptance. -/
inductive StreamState where
  | unopened
  | requested (request : ForwardRequest)
  | preparing (pending : PendingForward)
  | answered (response : ForwardResponse) (served : Option ConnectorHandle)
  | ended

/-- Where the loop of `open` is: about to reach a candidate, waiting for its
answer, or done. -/
inductive IngressPhase where
  | trying (index : Nat)
  | waiting (index : Nat)
  | opened (index : Nat)
  | failed (index : Nat)
deriving DecidableEq

def IngressPhase.index : IngressPhase → Nat
  | .trying index | .waiting index | .opened index | .failed index => index

/-- What happened so far: `open_remote_stream` was called for a candidate,
and a candidate wrote its answer. -/
inductive ExchangeEntry where
  | contacted (index : Nat)
  | answered (index : Nat) (response : ForwardResponse)
deriving DecidableEq

structure Exchange where
  edge : Edge
  phase : IngressPhase
  streams : Nat → StreamState
  log : List ExchangeEntry

/-- What a receiving Edge gets of a request before its own timeout. -/
inductive ReadFate where
  | arrives
  | timesOut
  | garbled (error : SieveTubeError)

def ReadFate.outcome (request : ForwardRequest) : ReadFate → ReadOutcome
  | .arrives => .request request
  | .timesOut => .timedOut
  | .garbled error => .malformed error

/-- `attemptFails` happens before the request is sent, `giveUp` while the
ingress Edge waits: the accept timeout fires, or the stream or connection
fails.  Receiving Edges act in the state given with the event, and `written`
tells whether their answer could be written. -/
inductive ExchangeEvent where
  | attemptFails (attempt : ForwardAttempt)
  | send
  | giveUp
  | deliver
  | receive (index : Nat) (receiver : Edge) (read : ReadFate) (written : Bool)
  | refuse (index : Nat) (written : Bool)
  | prepare (index : Nat) (receiver : Edge) (outcome : PrepareOutcome)
      (written : Bool)

/-- The answer among the effects of a receiving Edge. -/
def responseOf (effects : List Effect) : Option ForwardResponse :=
  effects.findSome? fun effect =>
    match effect with
    | .respond response => some response
    | _ => none

namespace Exchange

def setStream (exchange : Exchange) (index : Nat) (stream : StreamState) :
    Exchange :=
  { exchange with streams := Function.update exchange.streams index stream }

/-- The loop of `open` goes on with the candidate after `index`. -/
def advance (call : Call) (exchange : Exchange) (index : Nat) : Exchange :=
  if index + 1 < call.routes.length then
    { exchange with
      phase := .trying (index + 1)
      log := exchange.log ++ [.contacted (index + 1)] }
  else { exchange with phase := .failed index }

/-- A receiving Edge answers, unless writing fails. -/
def answer (exchange : Exchange) (index : Nat) (response : ForwardResponse)
    (served : Option ConnectorHandle) (written : Bool) : Exchange :=
  if written then
    { exchange.setStream index (.answered response served) with
      log := exchange.log ++ [.answered index response] }
  else exchange.setStream index .ended

theorem answer_written (exchange : Exchange) (index : Nat)
    (response : ForwardResponse) (served : Option ConnectorHandle) :
    exchange.answer index response served true =
      { edge := exchange.edge
        phase := exchange.phase
        streams := Function.update exchange.streams index
          (.answered response served)
        log := exchange.log ++ [.answered index response] } :=
  rfl

def attemptFails (call : Call) (exchange : Exchange)
    (attempt : ForwardAttempt) : Exchange :=
  match exchange.phase with
  | .trying index =>
    match call.routes[index]?, attempt with
    | some route, .notConnected | some route, .noSlot
    | some route, .streamFailed =>
      let (_, edge) := exchange.edge.openRemoteStream route call.hostname
        call.protocol call.clientAddr call.responseBudgetMs attempt
      advance call { exchange with edge } index
    | _, _ => exchange
  | _ => exchange

def send (call : Call) (exchange : Exchange) : Exchange :=
  match exchange.phase with
  | .trying index =>
    match call.routes[index]? with
    | none => exchange
    | some route =>
      let request := exchange.edge.forwardRequest route call.hostname
        call.protocol call.clientAddr call.responseBudgetMs
      let (_, edge) := exchange.edge.openRemoteStream route call.hostname
        call.protocol call.clientAddr call.responseBudgetMs .unanswered
      { exchange.setStream index (.requested request) with
        edge
        phase := .waiting index }
  | _ => exchange

def giveUp (call : Call) (exchange : Exchange) : Exchange :=
  match exchange.phase with
  | .waiting index => advance call exchange index
  | _ => exchange

/-- The answer of the present candidate reaches the ingress Edge. -/
def deliver (call : Call) (exchange : Exchange) : Exchange :=
  match exchange.phase with
  | .waiting index =>
    match exchange.streams index with
    | .answered response _ =>
      if (ForwardAttempt.answered response).retryable then
        advance call exchange index
      else if response.accepted then
        { exchange with phase := .opened index }
      else { exchange with phase := .failed index }
    | _ => exchange
  | _ => exchange

def receive (exchange : Exchange) (index : Nat) (receiver : Edge)
    (read : ReadFate) (written : Bool) : Exchange :=
  match exchange.streams index with
  | .requested request =>
    match receiver.acceptForward exchange.edge.edgeId
        (read.outcome request) with
    | (_, some pending) => exchange.setStream index (.preparing pending)
    | (effects, none) =>
      match responseOf effects with
      | some response => exchange.answer index response none written
      | none => exchange.setStream index .ended
  | _ => exchange

/-- A receiving Edge that drains refuses without reading the request. -/
def refuse (exchange : Exchange) (index : Nat) (written : Bool) : Exchange :=
  match exchange.streams index with
  | .requested _ => exchange.answer index (.rejectWith .overloaded) none written
  | _ => exchange

def prepare (exchange : Exchange) (index : Nat) (receiver : Edge)
    (outcome : PrepareOutcome) (written : Bool) : Exchange :=
  match exchange.streams index with
  | .preparing pending =>
    match responseOf (receiver.finishForward pending outcome).1 with
    | some response =>
      exchange.answer index response
        (if response.accepted then some pending.connector else none) written
    | none => exchange.setStream index .ended
  | _ => exchange

def step (call : Call) (exchange : Exchange) : ExchangeEvent → Exchange
  | .attemptFails attempt => exchange.attemptFails call attempt
  | .send => exchange.send call
  | .giveUp => exchange.giveUp call
  | .deliver => exchange.deliver call
  | .receive index receiver read written =>
    exchange.receive index receiver read written
  | .refuse index written => exchange.refuse index written
  | .prepare index receiver outcome written =>
    exchange.prepare index receiver outcome written

def start (edge : Edge) (call : Call) : Exchange :=
  match call.routes with
  | [] =>
    { edge, phase := .failed 0, streams := fun _ => .unopened, log := [] }
  | _ :: _ =>
    { edge
      phase := .trying 0
      streams := fun _ => .unopened
      log := [.contacted 0] }

def run (edge : Edge) (call : Call) (events : List ExchangeEvent) :
    Exchange :=
  Run.after (step call) (start edge call) events

/-- The Connector behind the stream that `open` returned. -/
def delivered (exchange : Exchange) : Option ConnectorHandle :=
  match exchange.phase with
  | .opened index =>
    match exchange.streams index with
    | .answered _ served => served
    | _ => none
  | _ => none

/-- The Connector of a tenant that serves one hostname. -/
def servingConnector (tenantId hostname : String) : ConnectorHandle :=
  { tenantId
    hostnames := [hostname]
    services := none
    connection := 0
    udpReplyMap := 0
    generation := 1 }

/-- An Edge that such a Connector is the only one of. -/
def servingEdge (tenantId hostname : String) : Edge :=
  { Edge.start "" true 0 0 with
    registry := (ConnectorRegistry.new.register
      { tenantId
        hostnames := [hostname]
        services := none
        connection := 0
        udpReplyMap := 0 }).2 }

/-- Everything a step can do. -/
inductive Move (call : Call) (exchange : Exchange) :
    ExchangeEvent → Exchange → Prop where
  | stay {event : ExchangeEvent} : Move call exchange event exchange
  | skip {event : ExchangeEvent} (edge : Edge) (index : Nat)
      (trying : exchange.phase = .trying index)
      (same : edge.edgeId = exchange.edge.edgeId) :
      Move call exchange event (advance call { exchange with edge } index)
  | send {event : ExchangeEvent} (edge : Edge) (index : Nat)
      (route : RemoteRoute) (trying : exchange.phase = .trying index)
      (found : call.routes[index]? = some route)
      (same : edge.edgeId = exchange.edge.edgeId) :
      Move call exchange event
        { exchange.setStream index
            (.requested (exchange.edge.forwardRequest route call.hostname
              call.protocol call.clientAddr call.responseBudgetMs)) with
          edge
          phase := .waiting index }
  | giveUp (index : Nat) (waiting : exchange.phase = .waiting index) :
      Move call exchange .giveUp (advance call exchange index)
  | retry {event : ExchangeEvent} (index : Nat) (response : ForwardResponse)
      (served : Option ConnectorHandle)
      (waiting : exchange.phase = .waiting index)
      (answered : exchange.streams index = .answered response served)
      (retryable : (ForwardAttempt.answered response).retryable = true) :
      Move call exchange event (advance call exchange index)
  | accepted {event : ExchangeEvent} (index : Nat)
      (response : ForwardResponse) (served : Option ConnectorHandle)
      (waiting : exchange.phase = .waiting index)
      (answered : exchange.streams index = .answered response served)
      (accepts : response.accepted = true) :
      Move call exchange event { exchange with phase := .opened index }
  | refused {event : ExchangeEvent} (index : Nat)
      (waiting : exchange.phase = .waiting index) :
      Move call exchange event { exchange with phase := .failed index }
  | authorize {event : ExchangeEvent} (index : Nat) (receiver : Edge)
      (request : ForwardRequest) (pending : PendingForward)
      (requested : exchange.streams index = .requested request)
      (authorized : receiver.authorizeForward exchange.edge.edgeId request =
        .ok pending.connector) :
      Move call exchange event (exchange.setStream index (.preparing pending))
  | reject {event : ExchangeEvent} (index : Nat) (request : ForwardRequest)
      (response : ForwardResponse) (written : Bool)
      (requested : exchange.streams index = .requested request)
      (rejects : response.accepted = false) :
      Move call exchange event (exchange.answer index response none written)
  | finish {event : ExchangeEvent} (index : Nat) (pending : PendingForward)
      (response : ForwardResponse) (written : Bool)
      (preparing : exchange.streams index = .preparing pending) :
      Move call exchange event (exchange.answer index response
        (if response.accepted then some pending.connector else none) written)
  | abandon {event : ExchangeEvent} (index : Nat) (pending : PendingForward)
      (preparing : exchange.streams index = .preparing pending) :
      Move call exchange event (exchange.setStream index .ended)

variable {call : Call} {exchange : Exchange} {event : ExchangeEvent}

theorem move_attemptFails (attempt : ForwardAttempt) :
    Move call exchange event (exchange.attemptFails call attempt) := by
  unfold attemptFails
  split
  · next index trying =>
    split
    · exact .skip _ index trying rfl
    · exact .skip _ index trying rfl
    · exact .skip _ index trying rfl
    · exact .stay
  · exact .stay

theorem move_send : Move call exchange event (exchange.send call) := by
  unfold send
  split
  · next index trying =>
    split
    · exact .stay
    · next route found =>
      exact .send _ index route trying found rfl
  · exact .stay

theorem move_giveUp : Move call exchange .giveUp (exchange.giveUp call) := by
  unfold giveUp
  split
  · next index waiting => exact .giveUp index waiting
  · exact .stay

theorem move_deliver : Move call exchange event (exchange.deliver call) := by
  unfold deliver
  split
  · next index waiting =>
    split
    · next response served answered =>
      split
      · next retryable =>
        exact .retry index response served waiting answered retryable
      · split
        · next accepts =>
          exact .accepted index response served waiting answered accepts
        · exact .refused index waiting
    · exact .stay
  · exact .stay

/-- A request that is not passed on is rejected. -/
theorem acceptForward_cases (receiver : Edge) (peerId : String)
    (request : ForwardRequest) (read : ReadFate) :
    (∃ pending, receiver.acceptForward peerId (read.outcome request) =
      ([], some pending) ∧
      receiver.authorizeForward peerId request = .ok pending.connector) ∨
    ∃ reason, receiver.acceptForward peerId (read.outcome request) =
      ([.respond (.rejectWith reason)], none) := by
  cases read with
  | arrives =>
    simp only [ReadFate.outcome, Edge.acceptForward]
    cases authorized : receiver.authorizeForward peerId request with
    | error reason => exact .inr ⟨reason, rfl⟩
    | ok connector => exact .inl ⟨_, rfl, rfl⟩
  | timesOut | garbled error => exact .inr ⟨.invalid, rfl⟩

theorem move_receive {index : Nat} {receiver : Edge} {read : ReadFate}
    {written : Bool} :
    Move call exchange event
      (exchange.receive index receiver read written) := by
  unfold receive
  split
  · next request requested =>
    rcases acceptForward_cases receiver exchange.edge.edgeId request read with
      ⟨pending, passed, authorized⟩ | ⟨reason, rejected⟩
    · rw [passed]
      exact .authorize index receiver request pending requested authorized
    · rw [rejected]
      exact .reject index request _ written requested rfl
  · exact .stay

theorem move_refuse {index : Nat} {written : Bool} :
    Move call exchange event (exchange.refuse index written) := by
  unfold refuse
  split
  · next request requested =>
    exact .reject index request _ written requested rfl
  · exact .stay

theorem move_prepare {index : Nat} {receiver : Edge} {outcome : PrepareOutcome}
    {written : Bool} :
    Move call exchange event
      (exchange.prepare index receiver outcome written) := by
  unfold prepare
  split
  · next pending preparing =>
    split
    · next response _ =>
      exact .finish index pending response written preparing
    · exact .abandon index pending preparing
  · exact .stay

theorem move_step : Move call exchange event (exchange.step call event) := by
  cases event with
  | attemptFails attempt => exact move_attemptFails attempt
  | send => exact move_send
  | giveUp => exact move_giveUp
  | deliver => exact move_deliver
  | receive index receiver read written =>
    exact move_receive
  | refuse index written => exact move_refuse
  | prepare index receiver outcome written =>
    exact move_prepare

end Exchange

end Mesh

end SieveTube
