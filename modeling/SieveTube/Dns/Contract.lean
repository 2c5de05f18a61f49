import SieveTube.Dns.Reconciler

/-!
# Contracts of a reconciliation pass

A contract gives an assertion for each point a pass can be at and says what
every call does to them.  `Contract.sat` follows the control flow of the pass
once; the properties of passes are then stated as contracts, without looking
at the program again.
-/

namespace SieveTube.Dns

/-- The record a pass works on, with the records still to come. -/
structure Item where
  generation : Nat
  now : Int
  state : ProviderState
  desired : DesiredRecord
  rest : List DesiredRecord

namespace Item

def key (item : Item) : String := item.desired.key

/-- The item once a completed change was recognised in what was read. -/
def settle (item : Item) (observed : Option Observed) : Item :=
  { item with
    state := settleInterrupted item.state item.key
      (observed.map (·.set)) item.generation item.now }

def managed (item : Item) : Option ManagedRecord :=
  item.state.records.lookup item.key

def intend (item : Item) (expected target : Option RecordSet) : Item :=
  { item with
    state := withIntent item.state item.desired expected target item.generation
      item.now }

/-- The state after a decision that changes nothing at the provider. -/
def concluded (item : Item) (observed : Option Observed) :
    Action → ProviderState
  | .noChange =>
    recordConverged item.state item.key (observed.map (·.set)) item.now
  | .adopt current => item.state.insert item.key
      { name := item.desired.set.name
        recordType := item.desired.set.recordType
        applied := some current
        previous := none
        generation := item.generation
        pending := none
        updatedAt := item.now }
  | .forget => item.state.remove item.key
  | .wait _ => item.state
  | .conflict _ => item.state
  | .apply _ _ => item.state

def request (item : Item) (expected target : Option RecordSet) : Request :=
  { name := item.desired.set.name
    recordType := item.desired.set.recordType
    expected
    desired := target }

end Item

/-- The points of a pass at which something is asserted. -/
inductive Phase where
  | start
  | loaded (state : ProviderState)
  | settled (generation : Nat) (state : ProviderState)
      (rest : List DesiredRecord)
  | observed (item : Item) (observed : Option Observed)
  | considered (item : Item) (observed : Option Observed)
  | permitted (item : Item) (observed : Option Observed)
      (expected target : Option RecordSet)
  | intended (item : Item) (expected target : Option RecordSet)
  | submitted (item : Item) (expected target : Option RecordSet) (handle : Nat)
  | answered (item : Item) (expected target : Option RecordSet)
      (result : Except DnsError ChangeTicket)
  | stopped (generation : Nat) (state : ProviderState)
  | closing (generation : Nat) (state : ProviderState)
  | ended

namespace Reconciler

def action (reconciler : Reconciler) (item : Item)
    (observed : Option Observed) : Action :=
  item.desired.decide observed item.managed item.now reconciler.settleSecs

/-- Where a pass continues after its lease was renewed. -/
inductive Renews (reconciler : Reconciler) : Nat → Phase → Phase → Prop where
  | permit {item : Item} {observed : Option Observed}
      {expected target : Option RecordSet}
      (decided : reconciler.action item observed = .apply expected target) :
      Renews reconciler item.generation (.considered item observed)
        (.permitted item observed expected target)
  | intended (item : Item) (expected target : Option RecordSet) :
      Renews reconciler item.generation (.intended item expected target)
        (.intended item expected target)
  | submitted (item : Item) (expected target : Option RecordSet)
      (handle : Nat) :
      Renews reconciler item.generation (.submitted item expected target handle)
        (.submitted item expected target handle)
  | answered (item : Item) (expected target : Option RecordSet)
      (result : Except DnsError ChangeTicket) :
      Renews reconciler item.generation (.answered item expected target result)
        (.answered item expected target result)
  | close (generation : Nat) (state : ProviderState) :
      Renews reconciler generation (.stopped generation state)
        (.closing generation state)

end Reconciler

namespace Phase

/-- Where a pass goes with the answer to a call. -/
def afterLoad : Except String ProviderState → Phase
  | .ok state => .loaded state
  | .error _ => .ended

def admitted (reconciler : Reconciler) (compiled : CompiledDns)
    (state : ProviderState) (generation : Nat) : Phase :=
  if state.writerGeneration > generation then .ended
  else .settled generation { state with writerGeneration := generation }
    (reconciler.recordsFor compiled)

def afterAcquire (reconciler : Reconciler) (compiled : CompiledDns)
    (state : ProviderState) : Except String (Option Nat) → Phase
  | .ok (some generation) => admitted reconciler compiled state generation
  | _ => .ended

def afterRenew (generation : Nat) (next : Phase) :
    Except String (Option Nat) → Phase
  | .ok (some renewed) => if renewed = generation then next else .ended
  | _ => .ended

def afterSynced (item : Item) : Except DnsError Bool → Phase
  | .ok true => .settled item.generation
      (finishPending item.state item.key item.generation item.now)
      (item.desired :: item.rest)
  | _ => .settled item.generation item.state item.rest

def afterRead (item : Item) : Except DnsError (Option Observed) → Phase
  | .ok found => .observed item found
  | .error _ => .settled item.generation item.state item.rest

def afterSave (item : Item) (expected target : Option RecordSet) :
    Except String Unit → Phase
  | .ok () => .intended (item.intend expected target) expected target
  | .error _ => .stopped item.generation (item.intend expected target).state

end Phase

structure Contract {Fate World : Type} (reconciler : Reconciler)
    (compiled : CompiledDns) (view : View Op Answer Fate World) where
  At : Phase → World → Prop
  stable : ∀ phase, view.Stable (At phase)
  load : view.Triple (At .start) .loadState fun answer => At (.afterLoad answer)
  generate : reconciler.writer = .singleWriter → ∀ state,
    view.Triple (At (.loaded state))
      (.writerGeneration (state.writerGeneration + 1)) fun generation =>
        At (.admitted reconciler compiled state generation)
  acquire : reconciler.writer = .valkey → ∀ state,
    view.Triple (At (.loaded state))
      (.acquireLease (state.writerGeneration + 1)) fun answer =>
        At (.afterAcquire reconciler compiled state answer)
  trust : reconciler.writer = .singleWriter →
    ∀ {generation before after}, reconciler.Renews generation before after →
      ∀ world, At before world → At after world
  renew : reconciler.writer = .valkey →
    ∀ {generation before after}, reconciler.Renews generation before after →
      view.Triple (At before) (.renewLease generation) fun answer =>
        At (.afterRenew generation after answer)
  clock : ∀ generation state rest,
    view.Triple (At (.settled generation state rest)) .nowUnix fun _ =>
      At (.settled generation state rest)
  synced : ∀ (item : Item) changeId,
    trackedChange item.state item.key = some changeId → view.Triple
      (At (.settled item.generation item.state (item.desired :: item.rest)))
      (.changeSynced changeId) fun answer => At (.afterSynced item answer)
  read : ∀ item : Item, trackedChange item.state item.key = none → view.Triple
      (At (.settled item.generation item.state (item.desired :: item.rest)))
      (.get item.desired.set.name item.desired.set.recordType) fun answer =>
        At (.afterRead item answer)
  consider : ∀ (item : Item) observed,
    view.Triple (At (.observed item observed)) (.considered
        { desired := item.desired
          observed
          managed := (item.settle observed).managed
          action := reconciler.action (item.settle observed) observed })
      fun _ => At (.considered (item.settle observed) observed)
  rest : ∀ (item : Item) observed world, At (.considered item observed) world →
    (∀ expected target,
      reconciler.action item observed ≠ .apply expected target) →
    At (.settled item.generation
      (item.concluded observed (reconciler.action item observed))
      item.rest) world
  save : ∀ (item : Item) observed expected target,
    view.Triple (At (.permitted item observed expected target))
      (.saveState (item.intend expected target).state) fun answer =>
        At (.afterSave item expected target answer)
  submit : ∀ (item : Item) expected target,
    view.Triple (At (.intended item expected target))
      (.replace (item.request expected target)) fun handle =>
        At (.submitted item expected target handle)
  timers : ∀ (item : Item) expected target handle,
    view.Triple (At (.submitted item expected target handle)) .timers
      fun _ => At (.submitted item expected target handle)
  answer : ∀ (item : Item) expected target handle,
    view.Triple (At (.submitted item expected target handle))
      (.outcome handle) fun result =>
        At (.answered item expected target result)
  conclude : ∀ (item : Item) expected target result world,
    At (.answered item expected target result) world →
    At (.settled item.generation
      (reconciler.concludeChange item.desired expected target
        item.generation item.now item.state result).2 item.rest) world
  halt : ∀ (item : Item) expected target error world,
    At (.answered item expected target (.error error)) world →
    At (.stopped item.generation item.state) world
  finish : ∀ generation state world, At (.settled generation state []) world →
    At (.stopped generation state) world
  persist : ∀ generation state,
    view.Triple (At (.closing generation state)) (.saveState state)
      fun _ => At .ended

namespace RecordOutcome

variable {outcome : RecordOutcome}

theorem stops_of_stop {text : String}
    (error : outcome.error = some ("stop: " ++ text)) :
    outcome.stops = true := by
  simp only [stops, error, Option.any_some]
  rw [String.toList_append]
  rfl

theorem stops_of_lost (lost : outcome.lost = true) : outcome.stops = true := by
  simp only [RecordOutcome.lost, beq_iff_eq] at lost
  simp only [stops, lost, Option.any_some]
  rfl

theorem not_stops_of_none (error : outcome.error = none) :
    outcome.stops = false := by
  simp [stops, error]

theorem not_stops_of_toText {error : DnsError}
    (text : outcome.error = some error.toText) : outcome.stops = false := by
  have labelled : ∀ label rest : String,
      "stop:".toList.isPrefixOf (label.toList ++ rest.toList) = false →
        "stop:".toList.isPrefixOf (label ++ rest).toList = false := by
    intro label rest differs
    rwa [String.toList_append]
  simp only [stops, text, Option.any_some]
  cases error with
  | conflict reason => exact labelled "conflict: " reason rfl
  | rateLimited retryAfter =>
    show "stop:".toList.isPrefixOf "rate limited by provider".toList = false
    rfl
  | auth detail => exact labelled "authentication failed: " detail rfl
  | timeout => rfl
  | unsupported detail => exact labelled "unsupported: " detail rfl
  | provider detail => exact labelled "provider error: " detail rfl

/-- A text that differs from the one for a lost lease after `stop: `. -/
theorem not_lost_of_letter {text : String} (error : outcome.error = some text)
    (letter : text.toList[6]? ≠ some 'l') : outcome.lost = false := by
  simp only [lost, error, beq_eq_false_iff_ne, ne_eq, Option.some.injEq]
  rintro rfl
  exact letter rfl

/-- Stopping for a provider error is not mistaken for a lost lease. -/
theorem not_lost_of_isStop {error : DnsError} (stop : error.isStop = true)
    (text : outcome.error = some ("stop: " ++ error.toText)) :
    outcome.lost = false := by
  apply not_lost_of_letter text
  rw [String.toList_append]
  cases error with
  | rateLimited retryAfter =>
    show ("stop: ".toList ++ "rate limited by provider".toList)[6]? ≠ _
    decide
  | auth detail =>
    have appended : (DnsError.auth detail).toText.toList =
        "authentication failed: ".toList ++ detail.toList :=
      String.toList_append
    rw [appended]
    show some 'a' ≠ some 'l'
    decide
  | conflict _ | timeout | unsupported _ | provider _ =>
    simp [DnsError.isStop] at stop

theorem stops_of_persist {detail : String}
    (text : outcome.error = some ("stop: cannot persist state: " ++ detail)) :
    outcome.stops = true ∧ outcome.lost = false := by
  constructor
  · simp only [stops, text, Option.any_some]
    rw [String.toList_append]
    rfl
  · apply not_lost_of_letter text
    rw [String.toList_append]
    show some 'c' ≠ some 'l'
    decide

end RecordOutcome

namespace Contract

open Program

variable {Fate World : Type} {reconciler : Reconciler}
variable {compiled : CompiledDns} {view : View Op Answer Fate World}
variable (contract : Contract reconciler compiled view)
variable {world : World}

variable {generation : Nat}

/-- A program that is done stays at its point. -/
theorem done_sat {Value : Type} {value : Value} {phase : Value → Phase}
    (holds : contract.At (phase value) world) :
    (Program.done value : Pass Value).Sat view
      (fun value => contract.At (phase value)) world :=
  sat_done (contract.stable (phase value)) holds fun _ kept => kept

theorem renewWriter_sat {before after : Phase}
    (renews : reconciler.Renews generation before after)
    (holds : contract.At before world) :
    (reconciler.renewWriter generation).Sat view
      (fun renewed => contract.At (if renewed then after else .ended))
      world := by
  unfold Reconciler.renewWriter
  cases writer : reconciler.writer with
  | singleWriter =>
    exact sat_done (contract.stable before) holds fun later =>
      contract.trust writer renews later
  | valkey =>
    refine sat_ask (contract.stable before)
      (contract.renew writer renews) holds ?_
    intro answer later between
    rcases answer with error | _ | renewed
    · exact contract.done_sat between
    · exact contract.done_sat between
    · refine sat_done (contract.stable _) between ?_
      intro final kept
      simpa [Phase.afterRenew] using kept

variable {item : Item} {expected target : Option RecordSet}

theorem renewTimes_sat {handle : Nat} (count : Nat)
    (holds : contract.At (.submitted item expected target handle) world) :
    (reconciler.renewTimes item.generation count).Sat view
      (fun renewed => contract.At
        (if renewed then .submitted item expected target handle else .ended))
      world := by
  induction count generalizing world with
  | zero => exact contract.done_sat holds
  | succ count ih =>
    apply sat_bind
    refine (contract.renewWriter_sat
      (.submitted item expected target handle) holds).mono ?_
    intro renewed later _ kept
    cases renewed with
    | false => exact contract.done_sat kept
    | true => exact ih kept

theorem replaceWhileWriter_sat
    (holds : contract.At (.intended item expected target) world) :
    (reconciler.replaceWhileWriter item.generation
      (item.request expected target)).Sat view
      (fun result => contract.At <| match result with
        | some result => .answered item expected target result
        | none => .ended) world := by
  apply sat_bind
  refine (contract.renewWriter_sat (.intended item expected target) holds).mono
    ?_
  intro renewed _ _ kept
  cases renewed with
  | false => exact contract.done_sat kept
  | true =>
    refine sat_ask (contract.stable _)
      (contract.submit item expected target) kept ?_
    intro handle _ submitted
    refine sat_ask (contract.stable _)
      (contract.timers item expected target handle) submitted ?_
    intro count _ waiting
    refine sat_bind ((contract.renewTimes_sat count waiting).mono ?_)
    intro renewed _ _ kept
    cases renewed with
    | false => exact contract.done_sat kept
    | true =>
      refine sat_ask (contract.stable _)
        (contract.answer item expected target handle) kept ?_
      intro result _ answered
      apply sat_bind
      refine (contract.renewWriter_sat
        (.answered item expected target result) answered).mono ?_
      intro renewed _ _ kept
      cases renewed with
      | false => exact contract.done_sat kept
      | true => exact contract.done_sat kept

/-- Where the pass stands once a record is dealt with. -/
def Continues (generation : Nat) (rest : List DesiredRecord)
    (result : RecordOutcome × ProviderState) : World → Prop :=
  contract.At <|
    if result.1.lost then .ended
    else if result.1.stops then .stopped generation result.2
    else .settled generation result.2 rest

variable {rest : List DesiredRecord} {outcome : RecordOutcome}
variable {state : ProviderState}

theorem continues_of_not_stops (stops : outcome.stops = false)
    (settled : contract.At (.settled generation state rest) world) :
    contract.Continues generation rest (outcome, state) world := by
  have kept : outcome.lost = false := by
    cases lost : outcome.lost with
    | false => rfl
    | true =>
      rw [RecordOutcome.stops_of_lost lost] at stops
      cases stops
  simpa [Continues, stops, kept] using settled

theorem continues_of_stops (stops : outcome.stops = true)
    (kept : outcome.lost = false)
    (stopped : contract.At (.stopped generation state) world) :
    contract.Continues generation rest (outcome, state) world := by
  simpa [Continues, stops, kept] using stopped

theorem continues_of_lost (lost : outcome.error = some lostLease)
    (ended : contract.At .ended world) :
    contract.Continues generation rest (outcome, state) world := by
  simpa [Continues, RecordOutcome.lost, lost] using ended

theorem failedChange_continues {error : DnsError}
    (settled : contract.At (.settled item.generation item.state item.rest)
      world)
    (stopped : contract.At (.stopped item.generation item.state) world) :
    contract.Continues item.generation item.rest
      (reconciler.failedChange item.desired expected target error, item.state)
        world := by
  cases stop : error.isStop with
  | false =>
    have text : (reconciler.failedChange item.desired expected target
        error).error = some error.toText := by
      simp [Reconciler.failedChange, Reconciler.outcome, stop]
    exact contract.continues_of_not_stops
      (RecordOutcome.not_stops_of_toText text) settled
  | true =>
    have text : (reconciler.failedChange item.desired expected target
        error).error = some ("stop: " ++ error.toText) := by
      simp [Reconciler.failedChange, Reconciler.outcome, stop]
    exact contract.continues_of_stops (RecordOutcome.stops_of_stop text)
      (RecordOutcome.not_lost_of_isStop stop text) stopped

theorem concludeChange_continues {result : Except DnsError ChangeTicket}
    (answered : contract.At (.answered item expected target result) world) :
    contract.Continues item.generation item.rest
      (reconciler.concludeChange item.desired expected target
        item.generation item.now item.state result) world := by
  have settled := contract.conclude item expected target result world answered
  rcases result with error | ticket
  · have stopped := contract.halt item expected target error world answered
    cases error with
    | conflict reason =>
      exact contract.continues_of_not_stops
        (RecordOutcome.not_stops_of_none rfl) settled
    | rateLimited _ | auth _ | timeout | unsupported _ | provider _ =>
      exact contract.failedChange_continues settled stopped
  · cases ticket with
    | immediate | route53 _ =>
      exact contract.continues_of_not_stops
        (RecordOutcome.not_stops_of_none rfl) settled

theorem applyChange_sat {observed : Option Observed}
    (decided : reconciler.action item observed = .apply expected target)
    (holds : contract.At (.considered item observed) world) :
    (reconciler.applyChange item.desired expected target item.generation
        item.now item.state).Sat view
      (contract.Continues item.generation item.rest) world := by
  apply sat_bind
  refine (contract.renewWriter_sat (.permit decided) holds).mono ?_
  intro renewed _ _ permitted
  cases renewed with
  | false => exact contract.done_sat (contract.continues_of_lost rfl permitted)
  | true =>
    refine sat_ask (contract.stable _)
      (contract.save item observed expected target) permitted ?_
    rintro (error | ⟨⟩) _ saved
    · refine contract.done_sat (contract.continues_of_stops ?_ ?_ saved)
      · exact (RecordOutcome.stops_of_persist rfl).1
      · exact (RecordOutcome.stops_of_persist rfl).2
    · apply sat_bind
      refine (contract.replaceWhileWriter_sat saved).mono ?_
      intro result _ _ answered
      cases result with
      | none =>
        exact contract.done_sat (contract.continues_of_lost rfl answered)
      | some result =>
        exact contract.done_sat (contract.concludeChange_continues answered)

theorem perform_sat {observed : Option Observed}
    (holds : contract.At (.considered item observed) world) :
    (reconciler.perform item.desired observed item.generation item.now
        item.state (reconciler.action item observed)).Sat view
      (contract.Continues item.generation item.rest) world := by
  cases action : reconciler.action item observed with
  | apply expected target => exact contract.applyChange_sat action holds
  | noChange | adopt _ | forget | wait _ | conflict _ =>
    have settled := contract.rest item observed world holds (by simp [action])
    rw [action] at settled
    exact contract.done_sat (contract.continues_of_not_stops
      (RecordOutcome.not_stops_of_none rfl) settled)

theorem observeRecord_sat (item : Item)
    (untracked : trackedChange item.state item.key = none)
    (holds : contract.At (.settled item.generation item.state
      (item.desired :: item.rest)) world) :
    (reconciler.observeRecord item.desired item.generation item.now
      item.state).Sat view
      (contract.Continues item.generation item.rest) world := by
  refine sat_ask (contract.stable _) (contract.read item untracked) holds ?_
  rintro (error | observed) _ answered
  · exact contract.done_sat (contract.continues_of_not_stops
      (RecordOutcome.not_stops_of_toText rfl) answered)
  · refine sat_ask (contract.stable _)
      (contract.consider item observed) answered ?_
    intro _ _ considered
    exact contract.perform_sat considered

theorem reconcileRecord_sat {desired : DesiredRecord}
    (holds : contract.At (.settled generation state (desired :: rest)) world) :
    (reconciler.reconcileRecord desired generation state).Sat view
      (contract.Continues generation rest) world := by
  refine sat_ask (contract.stable _)
    (contract.clock generation state _) holds ?_
  intro now _ settled
  let item : Item := { generation, now, state, desired, rest }
  cases tracked : trackedChange state desired.key with
  | none => exact contract.observeRecord_sat item tracked settled
  | some changeId =>
    refine sat_ask (contract.stable _)
      (contract.synced item changeId tracked) settled ?_
    rintro (error | ⟨_ | _⟩) _ answered
    · exact contract.done_sat (contract.continues_of_not_stops
        (RecordOutcome.not_stops_of_toText rfl) answered)
    · exact contract.done_sat (contract.continues_of_not_stops
        (RecordOutcome.not_stops_of_none rfl) answered)
    · exact contract.observeRecord_sat
        { item with
          state := finishPending state desired.key generation now }
        (trackedChange_finishPending ..) answered

/-- Where the pass stands after the loop over the records. -/
def LoopEnds (generation : Nat)
    (result : List RecordOutcome × ProviderState × Bool) : World → Prop :=
  contract.At (if result.2.2 then .ended else .stopped generation result.2.1)

theorem reconcileRecords_sat {records : List DesiredRecord}
    (holds : contract.At (.settled generation state records) world) :
    (reconciler.reconcileRecords generation records state).Sat view
      (contract.LoopEnds generation) world := by
  induction records generalizing state world with
  | nil =>
    refine sat_done (contract.stable _) holds ?_
    intro later kept
    exact contract.finish generation state later kept
  | cons desired rest ih =>
    apply sat_bind
    refine (contract.reconcileRecord_sat holds).mono ?_
    rintro ⟨outcome, next⟩ later _ continues
    simp only
    split
    · next stops =>
      refine sat_done (contract.stable _) continues ?_
      intro final kept
      simpa [LoopEnds, stops] using kept
    · next proceeds =>
      have kept : outcome.lost = false := by
        cases lost : outcome.lost with
        | false => rfl
        | true => exact absurd (RecordOutcome.stops_of_lost lost) proceeds
      have settled : contract.At (.settled generation next rest)
          later := by
        simpa [Continues, kept, proceeds] using continues
      apply sat_bind
      refine (ih settled).mono ?_
      intro result final _ ends
      exact contract.done_sat ends

theorem persist_sat {outcomes : List RecordOutcome}
    (holds : contract.At (.stopped generation state) world) :
    (reconciler.persist generation outcomes state).Sat view
      (fun _ => contract.At .ended) world := by
  apply sat_bind
  refine (contract.renewWriter_sat (.close generation state) holds).mono ?_
  intro renewed _ _ kept
  cases renewed with
  | false => exact contract.done_sat kept
  | true =>
    refine sat_ask (contract.stable _)
      (contract.persist generation state) kept ?_
    rintro (error | ⟨⟩) _ ended
    · exact contract.done_sat ended
    · exact contract.done_sat ended

theorem reconcileAsWriter_sat
    (holds : contract.At (.admitted reconciler compiled state generation)
      world) :
    (reconciler.reconcileAsWriter compiled generation state).Sat view
      (fun _ => contract.At .ended) world := by
  unfold Reconciler.reconcileAsWriter
  unfold Phase.admitted at holds
  split
  · next newer =>
    rw [if_pos newer] at holds
    exact contract.done_sat holds
  · next current =>
    rw [if_neg current] at holds
    apply sat_bind
    refine (contract.reconcileRecords_sat holds).mono ?_
    rintro ⟨outcomes, final, lost⟩ later _ ends
    cases lost with
    | true => exact contract.done_sat ends
    | false => exact contract.persist_sat ends

theorem acquireWriter_sat (holds : contract.At (.loaded state) world) :
    (reconciler.acquireWriter state).Sat view
      (fun answer => contract.At
        (.afterAcquire reconciler compiled state answer)) world := by
  unfold Reconciler.acquireWriter
  cases writer : reconciler.writer with
  | singleWriter =>
    refine sat_ask (contract.stable _) (contract.generate writer state) holds ?_
    intro generation _ generated
    exact contract.done_sat generated
  | valkey =>
    refine sat_ask (contract.stable _) (contract.acquire writer state) holds ?_
    intro answer _ acquired
    exact contract.done_sat acquired

/-- A contract holds over the whole pass. -/
theorem sat (holds : contract.At .start world) :
    (reconciler.reconcileProvider compiled).Sat view
      (fun _ => contract.At .ended) world := by
  refine sat_ask (contract.stable _) contract.load holds ?_
  rintro (error | state) _ loaded
  · exact contract.done_sat loaded
  · apply sat_bind
    refine (contract.acquireWriter_sat loaded).mono ?_
    rintro (error | _ | generation) _ _ acquired
    · exact contract.done_sat acquired
    · exact contract.done_sat acquired
    · exact contract.reconcileAsWriter_sat acquired

end Contract

end SieveTube.Dns
