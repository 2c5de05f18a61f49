import SieveTube.Mesh.Exchange

/-!
# How often a forwarded request is accepted

The ingress Edge tries another candidate after a timeout or a failed stream
without knowing what the peer has decided.  A request is therefore accepted
at most once as long as no decision crosses such a step.
-/

namespace SieveTube

open Inet

namespace Mesh

def ExchangeEntry.contacts : ExchangeEntry → Bool
  | .contacted _ => true
  | .answered _ _ => false

def ExchangeEntry.accepts : ExchangeEntry → Bool
  | .contacted _ => false
  | .answered _ response => response.accepted

/-- An acceptance, or a rejection that must not be retried. -/
def ExchangeEntry.decides : ExchangeEntry → Bool
  | .contacted _ => false
  | .answered _ response => !(ForwardAttempt.answered response).retryable

/-- At most one candidate accepts, and none is contacted after one has
accepted or rejected for good. -/
def AtMostOnce (log : List ExchangeEntry) : Prop :=
  log.countP ExchangeEntry.accepts ≤ 1 ∧
    log.Pairwise fun earlier later => earlier.decides = true →
      later.contacts = false

/-- The receiving Edge has accepted, or rejected for good. -/
def StreamState.Decided (stream : StreamState) : Prop :=
  ∃ response served, stream = .answered response served ∧
    (ForwardAttempt.answered response).retryable = false

/-- The receiving Edge may still answer. -/
def StreamState.Unanswered : StreamState → Prop
  | .unopened | .requested _ | .preparing _ => True
  | .answered _ _ | .ended => False

@[simp]
theorem StreamState.not_decided_unopened : ¬ unopened.Decided := nofun

@[simp]
theorem StreamState.not_decided_requested (request : ForwardRequest) :
    ¬ (requested request).Decided :=
  nofun

@[simp]
theorem StreamState.not_decided_preparing (pending : PendingForward) :
    ¬ (preparing pending).Decided :=
  nofun

@[simp]
theorem StreamState.not_decided_ended : ¬ ended.Decided := nofun

@[simp]
theorem StreamState.decided_answered (response : ForwardResponse)
    (served : Option ConnectorHandle) :
    (answered response served).Decided ↔
      (ForwardAttempt.answered response).retryable = false := by
  constructor
  · rintro ⟨_, _, same, final⟩
    cases same
    exact final
  · intro final
    exact ⟨response, served, rfl, final⟩

namespace Exchange

/-- The ingress Edge does not give up on a candidate that has decided, and a
candidate decides only while the ingress Edge waits for it. -/
structure Timely (call : Call) (exchange : Exchange)
    (event : ExchangeEvent) : Prop where
  patient : event = .giveUp → ∀ index, exchange.phase = .waiting index →
    ¬ (exchange.streams index).Decided
  prompt : ∀ index, ((exchange.step call event).streams index).Decided →
    (exchange.streams index).Decided ∨ exchange.phase = .waiting index

/-- Every step of a run is timely. -/
def AlwaysTimely (edge : Edge) (call : Call)
    (events : List ExchangeEvent) : Prop :=
  ∀ earlier event later, events = earlier ++ event :: later →
    Timely call (run edge call earlier) event

/-- What decisions have left behind: only the present candidate can have
decided, and the log tells of no contact since. -/
structure Orderly (exchange : Exchange) : Prop where
  present : ∀ index, (exchange.streams index).Decided →
    exchange.phase.index = index ∧ ∀ other, exchange.phase ≠ .trying other
  logged : ∀ entry ∈ exchange.log, entry.decides = true → ∃ index,
    (exchange.streams index).Decided
  once : exchange.log.countP ExchangeEntry.decides ≤ 1
  quiet : exchange.log.Pairwise fun earlier later => earlier.decides = true →
    later.contacts = false

variable {call : Call} {exchange next : Exchange} {event : ExchangeEvent}
variable {edge : Edge} {index : Nat}

theorem decides_of_accepts {entry : ExchangeEntry}
    (accepts : entry.accepts = true) : entry.decides = true := by
  cases entry with
  | contacted index => cases accepts
  | answered index response =>
    simp only [ExchangeEntry.accepts] at accepts
    simp [ExchangeEntry.decides, ForwardAttempt.retryable, accepts]

section

variable (orderly : Orderly exchange)
include orderly

theorem Orderly.atMostOnce : AtMostOnce exchange.log := by
  refine ⟨?_, orderly.quiet⟩
  calc exchange.log.countP ExchangeEntry.accepts ≤
    exchange.log.countP ExchangeEntry.decides :=
        List.countP_mono_left fun _ _ => decides_of_accepts
    _ ≤ 1 := orderly.once

/-- Only the present candidate matters. -/
theorem Orderly.undecided
    (present : ¬ (exchange.streams exchange.phase.index).Decided) :
    ∀ index, ¬ (exchange.streams index).Decided := by
  intro index decided
  obtain ⟨same, _⟩ := orderly.present index decided
  rw [same] at present
  exact present decided

theorem Orderly.undecided_of_trying (trying : exchange.phase = .trying index) :
    ∀ index, ¬ (exchange.streams index).Decided :=
  fun other decided => (orderly.present other decided).2 index trying

theorem Orderly.undecided_log
    (undecided : ∀ index, ¬ (exchange.streams index).Decided) :
    ∀ entry ∈ exchange.log, entry.decides = false := by
  intro entry member
  rw [← Bool.not_eq_true]
  intro decides
  obtain ⟨index, decided⟩ := orderly.logged entry member decides
  exact undecided index decided

end

theorem orderly_start : Orderly (start edge call) := by
  unfold start
  split
  · refine ⟨by simp, ?_, by simp, .nil⟩
    intro entry member
    cases member
  · refine ⟨by simp, ?_, ?_, ?_⟩
    · intro entry member decides
      rw [List.mem_singleton.mp member] at decides
      cases decides
    · simp [ExchangeEntry.decides]
    · simp

theorem orderly_advance (orderly : Orderly exchange)
    (undecided : ∀ index, ¬ (exchange.streams index).Decided) :
    Orderly (advance call { exchange with edge } index) := by
  have quietLog := orderly.undecided_log undecided
  unfold advance
  split
  · refine ⟨fun other decided => absurd decided (undecided other), ?_, ?_, ?_⟩
    · intro entry member decides
      rcases List.mem_append.mp member with old | new
      · exact orderly.logged entry old decides
      · rw [List.mem_singleton.mp new] at decides
        cases decides
    · simpa [ExchangeEntry.decides] using orderly.once
    · rw [List.pairwise_append]
      refine ⟨orderly.quiet, List.pairwise_singleton _ _, ?_⟩
      intro earlier member later _ decides
      rw [quietLog earlier member] at decides
      cases decides
  · exact ⟨fun other decided => absurd decided (undecided other),
      orderly.logged, orderly.once, orderly.quiet⟩

/-- Streams may change as long as none becomes or stops being decided. -/
theorem Orderly.of_streams (orderly : Orderly exchange)
    (phase : next.phase.index = exchange.phase.index)
    (settled : ∀ other, next.phase = .trying other →
      exchange.phase = .trying other)
    (log : next.log = exchange.log)
    (streams : ∀ index, (next.streams index).Decided ↔
      (exchange.streams index).Decided) : Orderly next := by
  constructor
  · intro index decided
    obtain ⟨same, notTrying⟩ :=
      orderly.present index ((streams index).mp decided)
    exact ⟨phase.trans same,
      fun other trying => notTrying other (settled other trying)⟩
  · intro entry member decides
    rw [log] at member
    obtain ⟨index, decided⟩ := orderly.logged entry member decides
    exact ⟨index, (streams index).mpr decided⟩
  · rw [log]
    exact orderly.once
  · rw [log]
    exact orderly.quiet

variable {stream : StreamState}

theorem decided_setStream (before : ¬ (exchange.streams index).Decided)
    (after : ¬ stream.Decided) (other : Nat) :
    ((exchange.setStream index stream).streams other).Decided ↔
      (exchange.streams other).Decided := by
  by_cases same : other = index
  · subst same
    simp [setStream, before, after]
  · simp [setStream, same]

theorem orderly_setStream (orderly : Orderly exchange)
    (before : ¬ (exchange.streams index).Decided) (after : ¬ stream.Decided) :
    Orderly (exchange.setStream index stream) :=
  orderly.of_streams rfl (fun _ trying => trying) rfl
    (decided_setStream before after)

theorem Orderly.quiet_answer (orderly : Orderly exchange)
    {response : ForwardResponse} :
    (exchange.log ++ [ExchangeEntry.answered index response]).Pairwise
      fun earlier later => earlier.decides = true → later.contacts = false := by
  rw [List.pairwise_append]
  refine ⟨orderly.quiet, List.pairwise_singleton _ _, ?_⟩
  intro earlier _ later member _
  rw [List.mem_singleton.mp member]
  rfl

variable {response : ForwardResponse}

section

variable (orderly : Orderly exchange)
include orderly

variable (served : Option ConnectorHandle)

theorem orderly_answer_retryable
    (before : ¬ (exchange.streams index).Decided)
    (retryable : (ForwardAttempt.answered response).retryable = true) :
    Orderly (exchange.answer index response served true) := by
  have after : ¬ (StreamState.answered response served).Decided := by
    simp [retryable]
  have kept := orderly_setStream orderly before after
  rw [answer_written]
  refine ⟨kept.present, ?_, ?_, orderly.quiet_answer⟩
  · intro entry member decides
    rcases List.mem_append.mp member with old | new
    · exact kept.logged entry old decides
    · rw [List.mem_singleton.mp new] at decides
      simp [ExchangeEntry.decides, retryable] at decides
  · simpa [ExchangeEntry.decides, retryable] using orderly.once

/-- The present candidate decides, and nothing was decided before. -/
theorem orderly_answer_final
    (before : ¬ (exchange.streams index).Decided)
    (waiting : exchange.phase = .waiting index)
    (final : (ForwardAttempt.answered response).retryable = false) :
    Orderly (exchange.answer index response served true) := by
  have undecided : ∀ other, ¬ (exchange.streams other).Decided := by
    apply orderly.undecided
    rw [waiting]
    exact before
  have none : exchange.log.countP ExchangeEntry.decides = 0 := by
    rw [List.countP_eq_zero]
    intro entry member decides
    rw [orderly.undecided_log undecided entry member] at decides
    cases decides
  rw [answer_written]
  refine ⟨?_, ?_, ?_, orderly.quiet_answer⟩
  · intro other decided
    by_cases same : other = index
    · simp [waiting, same, IngressPhase.index]
    · have old : (exchange.streams other).Decided := by
        simpa [same] using decided
      exact absurd old (undecided other)
  · intro _ _ _
    exact ⟨index, response, served, by simp, final⟩
  · simp [none, ExchangeEntry.decides, final]

theorem orderly_answer {served : Option ConnectorHandle} {written : Bool}
    (before : ¬ (exchange.streams index).Decided)
    (prompt : ((exchange.answer index response served written).streams
      index).Decided → exchange.phase = .waiting index) :
    Orderly (exchange.answer index response served written) := by
  cases written with
  | false => exact orderly_setStream orderly before (by simp)
  | true =>
    cases retryable : (ForwardAttempt.answered response).retryable with
    | true => exact orderly_answer_retryable orderly served before retryable
    | false =>
      apply orderly_answer_final orderly served before _ retryable
      apply prompt
      rw [answer_written]
      exact ⟨response, served, by simp, retryable⟩

theorem orderly_of_move (move : Move call exchange event next)
    (patient : event = .giveUp → ∀ index, exchange.phase = .waiting index →
      ¬ (exchange.streams index).Decided)
    (prompt : ∀ index, (next.streams index).Decided →
      (exchange.streams index).Decided ∨ exchange.phase = .waiting index) :
    Orderly next := by
  cases move with
  | stay => exact orderly
  | skip edge index trying same =>
    exact orderly_advance orderly (orderly.undecided_of_trying trying)
  | send edge index route trying found same =>
    have undecided := orderly.undecided_of_trying trying
    refine orderly.of_streams ?_ ?_ rfl ?_
    · rw [trying]
      rfl
    · intro other phase
      cases phase
    · exact decided_setStream (undecided index) (by simp)
  | giveUp index waiting =>
    apply orderly_advance orderly
    apply orderly.undecided
    rw [waiting]
    exact patient rfl index waiting
  | retry index response served waiting answered retryable =>
    apply orderly_advance orderly
    apply orderly.undecided
    rw [waiting, IngressPhase.index, answered]
    simp [retryable]
  | accepted index response served waiting answered accepts
  | refused index waiting =>
    refine orderly.of_streams ?_ ?_ rfl (fun _ => Iff.rfl)
    · rw [waiting]
      rfl
    · intro other phase
      cases phase
  | authorize index receiver request pending requested authorized =>
    exact orderly_setStream orderly (by simp [requested]) (by simp)
  | reject index request response written requested rejects =>
    have before : ¬ (exchange.streams index).Decided := by simp [requested]
    apply orderly_answer orderly before
    intro decided
    exact (prompt index decided).resolve_left before
  | finish index pending response written preparing =>
    have before : ¬ (exchange.streams index).Decided := by simp [preparing]
    apply orderly_answer orderly before
    intro decided
    exact (prompt index decided).resolve_left before
  | abandon index pending preparing =>
    exact orderly_setStream orderly (by simp [preparing]) (by simp)

theorem orderly_step (timely : Timely call exchange event) :
    Orderly (exchange.step call event) :=
  orderly_of_move orderly move_step timely.patient timely.prompt

end

theorem orderly_run (events : List ExchangeEvent)
    (timely : AlwaysTimely edge call events) :
    Orderly (run edge call events) := by
  revert timely
  apply Run.history_invariant (motive := fun events exchange =>
    AlwaysTimely edge call events → Orderly exchange)
  · intro _
    exact orderly_start
  · intro earlier event orderly timely
    apply orderly_step
    · apply orderly
      intro before taken after split
      exact timely before taken (after ++ [event]) (by simp [split])
    · exact timely earlier event [] rfl

/-- What holds of a call with a single candidate, however its steps are
timed: the log starts with the only contact and has at most one answer. -/
structure Lone (exchange : Exchange) : Prop where
  only : ∀ index, index ≠ 0 → exchange.streams index = .unopened
  current : exchange.phase.index = 0
  untried : ∀ index, exchange.phase = .trying index →
    exchange.streams 0 = .unopened
  unanswered : (exchange.streams 0).Unanswered → ∀ entry ∈ exchange.log,
    entry.contacts = true
  first : exchange.log.Pairwise fun _ later => later.contacts = false
  once : exchange.log.countP ExchangeEntry.accepts ≤ 1

theorem not_accepts_of_contacts {entry : ExchangeEntry}
    (contacts : entry.contacts = true) : ¬ entry.accepts = true := by
  cases entry with
  | contacted index => nofun
  | answered index response => cases contacts

theorem Lone.atMostOnce (lone : Lone exchange) : AtMostOnce exchange.log := by
  refine ⟨lone.once, ?_⟩
  apply lone.first.imp
  intro earlier later silent _
  exact silent

theorem Lone.eq_zero (lone : Lone exchange)
    (opened : exchange.streams index ≠ .unopened) : index = 0 := by
  by_contra other
  exact opened (lone.only index other)

theorem Lone.tried (lone : Lone exchange)
    (opened : exchange.streams 0 ≠ .unopened) :
    ∀ index, exchange.phase ≠ .trying index :=
  fun index trying => opened (lone.untried index trying)

theorem lone_start : Lone (start edge call) := by
  unfold start
  split
  · exact ⟨fun _ _ => rfl, rfl, nofun, nofun, .nil, Nat.zero_le 1⟩
  · refine ⟨fun _ _ => rfl, rfl, fun _ _ => rfl, ?_, ?_, Nat.zero_le 1⟩
    · simp [ExchangeEntry.contacts]
    · exact List.pairwise_singleton _ _

theorem lone_advance (lone : Lone exchange) (single : call.routes.length ≤ 1) :
    Lone (advance call { exchange with edge } 0) := by
  have last : ¬ 0 + 1 < call.routes.length := by omega
  rw [advance, if_neg last]
  exact ⟨lone.only, rfl, nofun, lone.unanswered, lone.first, lone.once⟩

theorem lone_setStream (lone : Lone exchange)
    (tried : ∀ index, exchange.phase ≠ .trying index)
    (silent : stream.Unanswered → (exchange.streams 0).Unanswered) :
    Lone (exchange.setStream 0 stream) := by
  refine ⟨?_, lone.current, ?_, ?_, lone.first, lone.once⟩
  · intro index other
    simpa [setStream, other] using lone.only index other
  · intro index trying
    exact absurd trying (tried index)
  · intro unanswered
    apply lone.unanswered
    apply silent
    simpa [setStream] using unanswered

theorem lone_answer (lone : Lone exchange)
    (tried : ∀ index, exchange.phase ≠ .trying index)
    (unanswered : (exchange.streams 0).Unanswered)
    {served : Option ConnectorHandle}
    {written : Bool} : Lone (exchange.answer 0 response served written) := by
  cases written with
  | false => exact lone_setStream lone tried nofun
  | true =>
    have contacts := lone.unanswered unanswered
    have kept : Lone (exchange.setStream 0 (.answered response served)) :=
      lone_setStream lone tried nofun
    have unaccepted : exchange.log.countP ExchangeEntry.accepts = 0 :=
      List.countP_eq_zero.2 fun entry member =>
        not_accepts_of_contacts (contacts entry member)
    rw [answer_written]
    refine ⟨kept.only, kept.current, kept.untried, ?_, ?_, ?_⟩
    · simp [StreamState.Unanswered]
    · apply List.pairwise_append.2
      refine ⟨lone.first, List.pairwise_singleton _ _, ?_⟩
      simp [ExchangeEntry.contacts]
    · rw [List.countP_append, unaccepted, Nat.zero_add]
      exact List.countP_le_length

theorem lone_of_move (lone : Lone exchange) (single : call.routes.length ≤ 1)
    (move : Move call exchange event next) : Lone next := by
  have current := lone.current
  cases move with
  | stay => exact lone
  | skip edge index trying same =>
    rw [trying] at current
    cases current
    exact lone_advance lone single
  | send edge index route trying found same =>
    have unopened := lone.untried index trying
    rw [trying] at current
    cases current
    have waiting : Lone { exchange with edge, phase := .waiting 0 } :=
      ⟨lone.only, rfl, nofun, lone.unanswered, lone.first, lone.once⟩
    apply lone_setStream waiting nofun
    intro _
    rw [unopened]
    trivial
  | giveUp index waiting
  | retry index response served waiting answered retryable =>
    rw [waiting] at current
    cases current
    exact lone_advance lone single
  | accepted index response served waiting answered accepts
  | refused index waiting =>
    rw [waiting] at current
    exact ⟨lone.only, current, nofun, lone.unanswered, lone.first, lone.once⟩
  | authorize index receiver request pending requested authorized =>
    have opened : exchange.streams index ≠ .unopened := by simp [requested]
    obtain rfl := lone.eq_zero opened
    apply lone_setStream lone (lone.tried opened)
    intro _
    rw [requested]
    trivial
  | reject index request response written requested rejects =>
    have opened : exchange.streams index ≠ .unopened := by simp [requested]
    obtain rfl := lone.eq_zero opened
    apply lone_answer lone (lone.tried opened)
    rw [requested]
    trivial
  | finish index pending response written preparing =>
    have opened : exchange.streams index ≠ .unopened := by simp [preparing]
    obtain rfl := lone.eq_zero opened
    apply lone_answer lone (lone.tried opened)
    rw [preparing]
    trivial
  | abandon index pending preparing =>
    have opened : exchange.streams index ≠ .unopened := by simp [preparing]
    obtain rfl := lone.eq_zero opened
    exact lone_setStream lone (lone.tried opened) nofun

theorem lone_run (single : call.routes.length ≤ 1)
    (events : List ExchangeEvent) : Lone (run edge call events) := by
  apply Run.invariant lone_start
  intro exchange event lone
  exact lone_of_move lone single move_step

/-- With two candidates the second can be contacted after the first has
rejected the request for good. -/
theorem not_atMostOnce_of_two (several : 1 < call.routes.length) :
    ¬ AtMostOnce (run edge call
      [.send, .receive 0 edge .timesOut true, .giveUp]).log := by
  obtain ⟨routes, hostname, protocol, clientAddr, responseBudgetMs⟩ := call
  match routes, several with
  | first :: second :: rest, _ =>
    intro ⟨_, quiet⟩
    have rejected := (List.pairwise_cons.1 quiet).2
    exact nomatch (List.pairwise_cons.1 rejected).1 _ (.head _) rfl

/-- In a run whose steps are all timely the request is accepted at most
once, and no candidate is contacted after one has accepted or rejected for
good.  This holds of every run exactly if there is only one candidate. -/
theorem accepted_at_most_once (edge : Edge) (call : Call) :
    (∀ events, AlwaysTimely edge call events →
      AtMostOnce (run edge call events).log) ∧
    ((∀ events, AtMostOnce (run edge call events).log) ↔
      call.routes.length ≤ 1) := by
  refine ⟨?_, ?_, ?_⟩
  · intro events timely
    exact (orderly_run events timely).atMostOnce
  · intro always
    by_contra several
    exact not_atMostOnce_of_two (Nat.lt_of_not_le several) (always _)
  · intro single events
    exact (lone_run single events).atMostOnce

theorem alwaysTimely_nil : AlwaysTimely edge call [] := by
  intro earlier event later split
  simp at split

theorem alwaysTimely_concat {events : List ExchangeEvent}
    (earlier : AlwaysTimely edge call events)
    (timely : Timely call (run edge call events) event) :
    AlwaysTimely edge call (events ++ [event]) := by
  intro before taken after split
  rcases List.eq_nil_or_concat after with rfl | ⟨rest, last, rfl⟩
  · obtain ⟨rfl, same⟩ := List.append_inj' split rfl
    cases same
    exact timely
  · have shorter : events ++ [event] = (before ++ taken :: rest) ++ [last] := by
      simpa using split
    obtain ⟨same, _⟩ := List.append_inj' shorter rfl
    exact earlier before taken rest same

/-- What the candidate that the ingress Edge waits for does is timely. -/
theorem timely_of_waiting (calm : event ≠ .giveUp)
    (waiting : exchange.phase = .waiting index)
    (elsewhere : ∀ other, other ≠ index →
      (exchange.step call event).streams other = exchange.streams other) :
    Timely call exchange event := by
  refine ⟨fun gaveUp => absurd gaveUp calm, ?_⟩
  intro other decided
  by_cases same : other = index
  · rw [same]
    exact .inr waiting
  · rw [elsewhere other same] at decided
    exact .inl decided

theorem timely_send : Timely call exchange .send := by
  refine ⟨nofun, ?_⟩
  intro index decided
  left
  change ((exchange.send call).streams index).Decided at decided
  unfold send at decided
  split at decided
  · next current _ =>
    split at decided
    · exact decided
    · by_cases same : index = current
      · simp [setStream, same] at decided
      · simpa [setStream, same] using decided
  · exact decided

theorem timely_deliver : Timely call exchange .deliver := by
  refine ⟨nofun, ?_⟩
  have streams : (exchange.deliver call).streams = exchange.streams := by
    unfold deliver advance
    repeat' split
    all_goals rfl
  intro index decided
  change ((exchange.deliver call).streams index).Decided at decided
  rw [streams] at decided
  exact .inl decided

theorem streams_answer_of_ne {other : Nat} (different : other ≠ index)
    {served : Option ConnectorHandle} {written : Bool} :
    (exchange.answer index response served written).streams other =
      exchange.streams other := by
  cases written <;> simp [answer, setStream, different]

theorem timely_receive (waiting : exchange.phase = .waiting index)
    (receiver : Edge) (read : ReadFate) (written : Bool) :
    Timely call exchange (.receive index receiver read written) := by
  refine timely_of_waiting ?_ waiting ?_
  · nofun
  intro other different
  change (exchange.receive index receiver read written).streams other = _
  unfold receive
  split
  · split
    · simp [setStream, different]
    · split
      · exact streams_answer_of_ne different
      · simp [setStream, different]
  · rfl

theorem timely_prepare (waiting : exchange.phase = .waiting index)
    (receiver : Edge) (outcome : PrepareOutcome) (written : Bool) :
    Timely call exchange (.prepare index receiver outcome written) := by
  refine timely_of_waiting ?_ waiting ?_
  · nofun
  intro other different
  change (exchange.prepare index receiver outcome written).streams other = _
  unfold prepare
  split
  · split
    · exact streams_answer_of_ne different
    · simp [setStream, different]
  · rfl

/-- Two Edges with Connectors of one tenant for `www.example.com`. -/
def twoCandidates : Call :=
  let route (edgeId : String) : RemoteRoute :=
    { edgeId, tenantId := "tenant", generation := 1,
      addr := { ip := .v4 0x7f000001, port := 4434 }, expiresAt := 1 }
  { routes := [route "edge-b", route "edge-c"]
    hostname := "www.example.com"
    protocol := .http
    clientAddr := { ip := .v4 0xcb007107, port := 50000 }
    responseBudgetMs := 5000 }

/-- A candidate reads the request and accepts it. -/
def acceptance (index : Nat) : List ExchangeEvent :=
  let receiver := servingEdge "tenant" "www.example.com"
  [.receive index receiver .arrives true, .prepare index receiver .opened true]

theorem accepted_at_most_once_delivered :
    let ingress := Edge.start "edge-a" true 0 0
    let events := ExchangeEvent.send :: acceptance 0 ++ [.deliver]
    AlwaysTimely ingress twoCandidates events ∧
    AtMostOnce (run ingress twoCandidates events).log ∧
    (run ingress twoCandidates events).delivered.isSome := by
  intro ingress events
  have timely : AlwaysTimely ingress twoCandidates events := by
    have sent : AlwaysTimely ingress twoCandidates [.send] :=
      alwaysTimely_concat alwaysTimely_nil timely_send
    have firstWait : (run ingress twoCandidates [.send]).phase =
        .waiting 0 := by
      decide +kernel
    have received := alwaysTimely_concat sent (timely_receive firstWait
      (servingEdge "tenant" "www.example.com") .arrives true)
    have secondWait : (run ingress twoCandidates [.send,
        .receive 0 (servingEdge "tenant" "www.example.com") .arrives
          true]).phase = .waiting 0 := by
      decide +kernel
    have prepared := alwaysTimely_concat received (timely_prepare secondWait
      (servingEdge "tenant" "www.example.com") .opened true)
    exact alwaysTimely_concat prepared timely_deliver
  exact ⟨timely, (accepted_at_most_once _ _).1 _ timely, by decide +kernel⟩

/-- The answer of the first candidate is still on its way when the accept
timeout fires, and the second candidate accepts the request again. -/
theorem request_accepted_twice :
    let exchange := run (Edge.start "edge-a" true 0 0) twoCandidates
      (ExchangeEvent.send :: acceptance 0 ++ .giveUp :: .send :: acceptance 1)
    exchange.log.countP ExchangeEntry.accepts = 2 ∧
    exchange.log =
      [.contacted 0, .answered 0 .accept, .contacted 1,
        .answered 1 .accept] := by
  decide +kernel

end Exchange

end Mesh

end SieveTube
