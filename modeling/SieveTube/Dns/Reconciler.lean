import SieveTube.Dns.Plan
import SieveTube.Library.Program

/-!
# One reconciliation pass over a provider

The pass is a program whose calls are the reads and writes it makes outside
its own memory: the state file, the writer lease, the clock and the provider.
Everything between two calls is computed as the source does.
-/

namespace SieveTube.Dns

/-- How this Edge becomes the writer for a provider. -/
inductive WriterMode where
  | singleWriter
  | valkey

structure Reconciler where
  provider : String
  settleSecs : Int
  writer : WriterMode

structure RecordOutcome where
  provider : String
  key : String
  action : Action
  error : Option String

/-- The arguments of a conditional change at the provider. -/
structure Request where
  name : String
  recordType : RecordType
  expected : Option RecordSet
  desired : Option RecordSet

/-- What a decision was made from. -/
structure Considered where
  desired : DesiredRecord
  observed : Option Observed
  managed : Option ManagedRecord
  action : Action

/-- The calls of a pass.  `considered` is not a call of the source; it marks
the point at which a decision is made.  A change is started by `replace`,
`timers` says how often the renewal timer fires before the provider answers,
and `outcome` is that answer. -/
inductive Op where
  | loadState
  | writerGeneration (initial : Nat)
  | acquireLease (minGeneration : Nat)
  | renewLease (generation : Nat)
  | nowUnix
  | changeSynced (changeId : String)
  | get (name : String) (recordType : RecordType)
  | considered (decision : Considered)
  | saveState (state : ProviderState)
  | replace (request : Request)
  | timers
  | outcome (handle : Nat)

@[reducible]
def Answer : Op → Type
  | .loadState => Except String ProviderState
  | .writerGeneration _ => Nat
  | .acquireLease _ => Except String (Option Nat)
  | .renewLease _ => Except String (Option Nat)
  | .nowUnix => Int
  | .changeSynced _ => Except DnsError Bool
  | .get _ _ => Except DnsError (Option Observed)
  | .considered _ => Unit
  | .saveState _ => Except String Unit
  | .replace _ => Nat
  | .timers => Nat
  | .outcome _ => Except DnsError ChangeTicket

abbrev Pass := Program Op Answer

def Pass.ask (op : Op) : Pass (Answer op) := Program.ask op

open Pass (ask)

namespace ProviderState

/-- Change the entry of `key`, if there is one. -/
def modify (state : ProviderState) (key : String)
    (change : ManagedRecord → ManagedRecord) : ProviderState :=
  match state.records.lookup key with
  | none => state
  | some entry =>
    { state with records := state.records.insert key (change entry) }

def insert (state : ProviderState) (key : String) (entry : ManagedRecord) :
    ProviderState :=
  { state with records := state.records.insert key entry }

def remove (state : ProviderState) (key : String) : ProviderState :=
  { state with records := state.records.erase key }

def pending (state : ProviderState) (key : String) : Option PendingChange :=
  (state.records.lookup key).bind (·.pending)

section

variable (state : ProviderState)

@[simp]
theorem lookup_modify (target key : String)
    (change : ManagedRecord → ManagedRecord) :
    (state.modify key change).records.lookup target =
      if target = key then (state.records.lookup key).map change
      else state.records.lookup target := by
  unfold modify
  cases found : state.records.lookup key with
  | none =>
    by_cases same : target = key
    · subst target
      simpa using found
    · simp [same]
  | some entry => simp [AList.lookup_insert_eq]

@[simp]
theorem lookup_insert (target key : String) (entry : ManagedRecord) :
    (state.insert key entry).records.lookup target =
      if target = key then some entry else state.records.lookup target :=
  AList.lookup_insert_eq target key entry state.records

@[simp]
theorem lookup_remove (target key : String) :
    (state.remove key).records.lookup target =
      if target = key then none else state.records.lookup target :=
  AList.lookup_erase_eq target key state.records

end

/-- What holds of every entry. -/
def Every (Holds : String → ManagedRecord → Prop) (state : ProviderState) :
    Prop :=
  ∀ key entry, state.records.lookup key = some entry → Holds key entry

variable {Holds : String → ManagedRecord → Prop} {state : ProviderState}

theorem Every.mono {Weaker : String → ManagedRecord → Prop}
    (weaker : ∀ key entry, Holds key entry → Weaker key entry)
    (every : state.Every Holds) : state.Every Weaker :=
  fun key entry stored => weaker key entry (every key entry stored)

theorem Every.modify (every : state.Every Holds) {key : String}
    {change : ManagedRecord → ManagedRecord}
    (changed : ∀ entry, state.records.lookup key = some entry →
      Holds key (change entry)) :
    (state.modify key change).Every Holds := by
  intro target entry found
  rw [lookup_modify] at found
  split at found
  · next same =>
    subst target
    obtain ⟨before, stored, rfl⟩ := Option.map_eq_some_iff.mp found
    exact changed before stored
  · exact every target entry found

theorem Every.insert (every : state.Every Holds) {key : String}
    {entry : ManagedRecord} (holds : Holds key entry) :
    (state.insert key entry).Every Holds := by
  intro target stored found
  rw [lookup_insert] at found
  split at found
  · next same =>
    subst target
    simp only [Option.some.injEq] at found
    subst stored
    exact holds
  · exact every target stored found

theorem Every.remove (every : state.Every Holds) {key : String} :
    (state.remove key).Every Holds := by
  intro target stored found
  rw [lookup_remove] at found
  split at found
  · cases found
  · exact every target stored found

end ProviderState

def completeChange (state : ProviderState) (key : String)
    (expected desired : Option RecordSet) (generation : Nat) (now : Int) :
    ProviderState :=
  state.modify key fun entry =>
    { entry with
      previous := expected
      applied := desired
      pending := none
      generation
      updatedAt := now }

def finishPending (state : ProviderState) (key : String) (generation : Nat)
    (now : Int) : ProviderState :=
  match state.pending key with
  | none => state
  | some pending =>
    completeChange state key pending.expected pending.desired generation now

/-- The id of a change that the provider still tracks. -/
def trackedChange (state : ProviderState) (key : String) : Option String :=
  match (state.pending key).bind (·.ticket) with
  | some (.route53 changeId) => some changeId
  | _ => none

variable (state : ProviderState) (key : String) (generation : Nat) (now : Int)

theorem pending_finishPending :
    (finishPending state key generation now).pending key = none := by
  unfold finishPending
  cases found : state.pending key with
  | none => exact found
  | some pending =>
    cases stored : state.records.lookup key <;>
      simp [ProviderState.pending, completeChange, stored]

theorem trackedChange_finishPending :
    trackedChange (finishPending state key generation now) key = none := by
  simp [trackedChange, pending_finishPending]

/-- An interrupted immediate change that actually completed. -/
def settleInterrupted (state : ProviderState) (key : String)
    (actual : Option RecordSet) (generation : Nat) (now : Int) :
    ProviderState :=
  match state.pending key with
  | none => state
  | some pending =>
    if pending.ticket.isNone && sameOptional actual pending.desired then
      finishPending state key generation now
    else state

/-- Record what the provider has if it converged by other means. -/
def recordConverged (state : ProviderState) (key : String)
    (actual : Option RecordSet) (now : Int) : ProviderState :=
  state.modify key fun entry =>
    if entry.pending.isSome || !sameOptional actual entry.applied then
      { entry with applied := actual, pending := none, updatedAt := now }
    else entry

/-- Note a change in the entry of the record, made for it if need be. -/
def withIntent (state : ProviderState) (desired : DesiredRecord)
    (expected target : Option RecordSet) (generation : Nat) (now : Int) :
    ProviderState :=
  let entry := (state.records.lookup desired.key).getD
    { name := desired.set.name
      recordType := desired.set.recordType
      applied := none
      previous := none
      generation
      pending := none
      updatedAt := now }
  state.insert desired.key
    { entry with
      pending := some
        { expected, desired := target, ticket := none, startedAt := now } }

theorem pending_withIntent (desired : DesiredRecord)
    (expected target : Option RecordSet) (generation : Nat) (now : Int) :
    (withIntent state desired expected target generation now).pending
      desired.key =
      some
        { expected, desired := target, ticket := none, startedAt := now } := by
  simp [ProviderState.pending, withIntent]

def withTicket (state : ProviderState) (key : String)
    (ticket : ChangeTicket) : ProviderState :=
  state.modify key fun entry =>
    { entry with
      pending := entry.pending.map fun pending =>
        { pending with ticket := some ticket } }

/-- A rejected change: the entry goes if nothing was ever applied for it. -/
def dropIntent (state : ProviderState) (key : String) : ProviderState :=
  match state.records.lookup key with
  | none => state
  | some entry =>
    if entry.applied.isNone && entry.previous.isNone then
      state.remove key
    else state.insert key { entry with pending := none }

def lostLease : String := "stop: lost the DNS writer lease"

namespace RecordOutcome

/-- Whether the rest of the pass is given up. -/
def stops (outcome : RecordOutcome) : Bool :=
  outcome.error.any fun error => "stop:".toList.isPrefixOf error.toList

def lost (outcome : RecordOutcome) : Bool := outcome.error == some lostLease

end RecordOutcome

namespace Reconciler

variable (reconciler : Reconciler)

def recordsFor (compiled : CompiledDns) : List DesiredRecord :=
  compiled.records.filter fun record => record.provider == reconciler.provider

def outcome (desired : DesiredRecord) (action : Action)
    (error : Option String) : RecordOutcome :=
  { provider := reconciler.provider, key := desired.key, action, error }

def providerError (error : String) : RecordOutcome :=
  { provider := reconciler.provider
    key := "*"
    action := .wait "provider unavailable"
    error := some error }

def acquireWriter (state : ProviderState) : Pass (Except String (Option Nat)) :=
  match reconciler.writer with
  | .singleWriter => do
      let generation ← ask (.writerGeneration (state.writerGeneration + 1))
      return .ok (some generation)
  | .valkey => ask (.acquireLease (state.writerGeneration + 1))

/-- Extend the writer lease and verify that its fencing generation did not
change. -/
def renewWriter (generation : Nat) : Pass Bool :=
  match reconciler.writer with
  | .singleWriter => return true
  | .valkey => do
      let renewal ← ask (.renewLease generation)
      match renewal with
      | .ok (some renewed) => return renewed == generation
      | _ => return false

def renewTimes (generation : Nat) : Nat → Pass Bool
  | 0 => return true
  | count + 1 => do
      if ← reconciler.renewWriter generation then
        renewTimes generation count
      else return false

/-- Run a provider change while periodically extending the writer lease. -/
def replaceWhileWriter (generation : Nat) (request : Request) :
    Pass (Option (Except DnsError ChangeTicket)) := do
  if ← reconciler.renewWriter generation then
    let handle ← ask (.replace request)
    let timers ← ask .timers
    if ← reconciler.renewTimes generation timers then
      let result ← ask (.outcome handle)
      if ← reconciler.renewWriter generation then return some result
      else return none
    else return none
  else return none

/-- A change that may be partially applied; its intent is kept. -/
def failedChange (desired : DesiredRecord) (expected target : Option RecordSet)
    (error : DnsError) :
    RecordOutcome :=
  reconciler.outcome desired (.apply expected target) (some
    (if error.isStop then "stop: " ++ error.toText else error.toText))

/-- What a pass makes of the provider's answer to a change. -/
def concludeChange (desired : DesiredRecord)
    (expected target : Option RecordSet) (generation : Nat) (now : Int)
    (state : ProviderState) :
    Except DnsError ChangeTicket → RecordOutcome × ProviderState
  | .ok .immediate =>
    (reconciler.outcome desired (.apply expected target) none,
      completeChange state desired.key expected target generation now)
  | .ok (.route53 changeId) =>
    (reconciler.outcome desired (.apply expected target) none,
      withTicket state desired.key (.route53 changeId))
  | .error (.conflict reason) =>
    (reconciler.outcome desired (.conflict reason) none,
      dropIntent state desired.key)
  | .error error =>
    (reconciler.failedChange desired expected target error, state)

def applyChange (desired : DesiredRecord)
    (expected target : Option RecordSet) (generation : Nat) (now : Int)
    (state : ProviderState) : Pass (RecordOutcome × ProviderState) := do
  let failed := fun error state =>
    (reconciler.outcome desired (.apply expected target) (some error), state)
  if ← reconciler.renewWriter generation then
    let state := withIntent state desired expected target generation now
    match ← ask (.saveState state) with
    | .error error =>
      return failed ("stop: cannot persist state: " ++ error) state
    | .ok () =>
      let request : Request :=
        { name := desired.set.name, recordType := desired.set.recordType,
          expected, desired := target }
      match ← reconciler.replaceWhileWriter generation request with
      | none => return failed lostLease state
      | some result =>
        return reconciler.concludeChange desired expected target generation now
          state result
  else return failed lostLease state

def perform (desired : DesiredRecord) (observed : Option Observed)
    (generation : Nat) (now : Int) (state : ProviderState) :
    Action → Pass (RecordOutcome × ProviderState)
  | .noChange =>
    return (reconciler.outcome desired .noChange none,
      recordConverged state desired.key (observed.map (·.set)) now)
  | .wait reason =>
    return (reconciler.outcome desired (.wait reason) none, state)
  | .conflict reason =>
    return (reconciler.outcome desired (.conflict reason) none, state)
  | .adopt current =>
    return (reconciler.outcome desired (.adopt current) none,
      state.insert desired.key
        { name := desired.set.name
          recordType := desired.set.recordType
          applied := some current
          previous := none
          generation
          pending := none
          updatedAt := now })
  | .forget =>
    return (reconciler.outcome desired .forget none, state.remove desired.key)
  | .apply expected target =>
    reconciler.applyChange desired expected target generation now state

/-- Read the record, decide and act. -/
def observeRecord (desired : DesiredRecord) (generation : Nat) (now : Int)
    (state : ProviderState) : Pass (RecordOutcome × ProviderState) := do
  match ← ask (.get desired.set.name desired.set.recordType) with
  | .error error =>
    return (reconciler.outcome desired (.wait "provider read failed")
      (some error.toText), state)
  | .ok observed =>
    let state := settleInterrupted state desired.key
      (observed.map (·.set)) generation now
    let managed := state.records.lookup desired.key
    let action := desired.decide observed managed now reconciler.settleSecs
    ask (.considered { desired, observed, managed, action })
    reconciler.perform desired observed generation now state action

def reconcileRecord (desired : DesiredRecord) (generation : Nat)
    (state : ProviderState) : Pass (RecordOutcome × ProviderState) := do
  let now ← ask .nowUnix
  match trackedChange state desired.key with
  | none => reconciler.observeRecord desired generation now state
  | some changeId =>
    match ← ask (.changeSynced changeId) with
    | .ok true =>
      reconciler.observeRecord desired generation now
        (finishPending state desired.key generation now)
    | .ok false =>
      return (reconciler.outcome desired
        (.wait "provider change is still pending") none, state)
    | .error error =>
      return (reconciler.outcome desired
        (.wait "cannot read change status") (some error.toText), state)

/-- The loop over the records; the flag says whether the writer lease was
lost. -/
def reconcileRecords (generation : Nat) : List DesiredRecord →
    ProviderState → Pass (List RecordOutcome × ProviderState × Bool)
  | [], state => return ([], state, false)
  | desired :: rest, state => do
      let (outcome, state) ←
        reconciler.reconcileRecord desired generation state
      if outcome.stops then return ([outcome], state, outcome.lost)
      else
        let (outcomes, state, lost) ←
          reconcileRecords generation rest state
        return (outcome :: outcomes, state, lost)

/-- The final write of the state, under a lease renewed just before. -/
def persist (generation : Nat) (outcomes : List RecordOutcome)
    (state : ProviderState) : Pass (List RecordOutcome) := do
  if ← reconciler.renewWriter generation then
    match ← ask (.saveState state) with
    | .ok () => return outcomes
    | .error error =>
      return outcomes ++
        [reconciler.providerError ("cannot persist state: " ++ error)]
  else
    return outcomes ++ [reconciler.providerError
      "stop: lost the DNS writer lease before persisting state"]

/-- The pass once this Edge is the writer. -/
def reconcileAsWriter (compiled : CompiledDns) (generation : Nat)
    (state : ProviderState) : Pass (List RecordOutcome) := do
  if state.writerGeneration > generation then
    return [reconciler.providerError
      "a newer writer updated this zone; stopping"]
  else
    let (outcomes, state, lost) ← reconciler.reconcileRecords generation
      (reconciler.recordsFor compiled)
      { state with writerGeneration := generation }
    if lost then return outcomes
    else reconciler.persist generation outcomes state

def reconcileProvider (compiled : CompiledDns) : Pass (List RecordOutcome) := do
  match ← ask .loadState with
  | .error error =>
    return [reconciler.providerError
      ("cannot read state; not changing records: " ++ error)]
  | .ok state =>
    match ← reconciler.acquireWriter state with
    | .error error =>
      return [reconciler.providerError
        ("control plane unavailable; DNS changes paused: " ++ error)]
    | .ok none => return []
    | .ok (some generation) =>
      reconciler.reconcileAsWriter compiled generation state

end Reconciler

theorem recordsFor_nodup {reconciler : Reconciler} {compiled : CompiledDns} :
    ((reconciler.recordsFor compiled).map DesiredRecord.key).Nodup := by
  have distinct := compiled.nodup.sublist
    ((List.filter_sublist (p := fun record : DesiredRecord =>
      record.provider == reconciler.provider)).map _)
  unfold List.Nodup at distinct ⊢
  rw [List.pairwise_map] at distinct ⊢
  refine distinct.imp_of_mem ?_
  intro first second firstMember secondMember different same
  have firstProvider := (List.mem_filter.mp firstMember).2
  have secondProvider := (List.mem_filter.mp secondMember).2
  simp only [beq_iff_eq] at firstProvider secondProvider
  obtain ⟨name, recordType⟩ := recordKey_injective same
  exact different (by rw [firstProvider, secondProvider, name, recordType])

end SieveTube.Dns
