import SieveTube.Dns.Reconciler

/-!
# The plan of a dry run

`plan` reports the action for each record without changing anything.  Here
it is compared with a pass that nothing disturbs: the same state and provider
content, one clock reading, a lease that is held throughout, and calls that
succeed.  The pass finishes a change that the provider still tracks before it
decides; the plan does not.
-/

namespace SieveTube.Dns

open Program

namespace Reconciler

variable (reconciler : Reconciler)

def planRecord (now : Int) (state : ProviderState) (desired : DesiredRecord) :
    Pass RecordOutcome := do
  match ← Pass.ask (.get desired.set.name desired.set.recordType) with
  | .ok observed =>
    return reconciler.outcome desired (desired.decide observed
      (state.records.lookup desired.key) now reconciler.settleSecs) none
  | .error error =>
    return reconciler.outcome desired (.wait "provider read failed")
      (some error.toText)

def planRecords (now : Int) (state : ProviderState) :
    List DesiredRecord → Pass (List RecordOutcome)
  | [] => return []
  | desired :: rest => do
      let outcome ← reconciler.planRecord now state desired
      let outcomes ← planRecords now state rest
      return outcome :: outcomes

/-- `plan` for the records of one provider. -/
def plan (compiled : CompiledDns) : Pass (List RecordOutcome) := do
  let now ← Pass.ask .nowUnix
  match ← Pass.ask .loadState with
  | .error error =>
    return [reconciler.providerError ("cannot read state: " ++ error)]
  | .ok state =>
    reconciler.planRecords now state (reconciler.recordsFor compiled)

end Reconciler

/-- What stays the same while nothing else happens: the clock, which tracked
changes are done, and the generation of the writer. -/
structure Rehearsal where
  now : Int
  synced : String → Bool
  generation : Nat

structure QuietWorld where
  content : String → RecordType → Option Observed
  file : ProviderState

/-- How often the renewal timer fires, and how the provider acknowledges a
change and shows the record from then on. -/
structure QuietFate where
  timers : Nat
  ticket : ChangeTicket
  shown : Option Observed

namespace QuietWorld

/-- The content of one record is replaced. -/
def replaced (world : QuietWorld) (name : String) (recordType : RecordType)
    (observed : Option Observed) : QuietWorld :=
  { world with
    content := fun other otherType =>
      if other = name ∧ otherType = recordType then observed
      else world.content other otherType }

end QuietWorld

namespace Rehearsal

variable (quiet : Rehearsal)

/-- Every call succeeds. -/
def perform : (op : Op) → QuietFate → QuietWorld → Answer op × QuietWorld
  | .loadState, _, world => (.ok world.file, world)
  | .writerGeneration _, _, world => (quiet.generation, world)
  | .acquireLease _, _, world => (.ok (some quiet.generation), world)
  | .renewLease _, _, world => (.ok (some quiet.generation), world)
  | .nowUnix, _, world => (quiet.now, world)
  | .changeSynced changeId, _, world => (.ok (quiet.synced changeId), world)
  | .get name recordType, _, world =>
    (.ok (world.content name recordType), world)
  | .considered _, _, world => ((), world)
  | .saveState state, _, world => (.ok (), { world with file := state })
  | .replace request, fate, world =>
    (0, world.replaced request.name request.recordType fate.shown)
  | .timers, fate, world => (fate.timers, world)
  | .outcome _, fate, world => (.ok fate.ticket, world)

/-- The judgement of a pass that nothing disturbs. -/
abbrev Sat {Value : Type} (After : Value → QuietWorld → Prop)
    (pass : Pass Value) (world : QuietWorld) : Prop :=
  Program.Sat (.alone quiet.perform) After pass world

end Rehearsal

/-- An entry whose change is taken as completed. -/
def ManagedRecord.finished (entry : ManagedRecord) (generation : Nat)
    (now : Int) : ManagedRecord :=
  match entry.pending with
  | none => entry
  | some pending =>
    { entry with
      previous := pending.expected
      applied := pending.desired
      pending := none
      generation
      updatedAt := now }

/-- The entry a decision is made from, once an interrupted change that
completed is settled. -/
def ManagedRecord.settled (entry : ManagedRecord)
    (actual : Option RecordSet) (generation : Nat) (now : Int) :
    ManagedRecord :=
  if entry.pending.any fun pending =>
      pending.ticket.isNone && sameOptional actual pending.desired
  then entry.finished generation now
  else entry

section

variable (state : ProviderState)
include state

theorem lookup_finishPending (key : String) (generation : Nat) (now : Int) :
    (finishPending state key generation now).records.lookup key =
      (state.records.lookup key).map (·.finished generation now) := by
  unfold finishPending ProviderState.pending
  cases stored : state.records.lookup key with
  | none => simpa using stored
  | some entry =>
    cases pending : entry.pending with
    | none => simp [pending, stored, ManagedRecord.finished]
    | some change =>
      simp [pending, completeChange, stored, ManagedRecord.finished]

theorem lookup_settleInterrupted (key : String)
    (actual : Option RecordSet) (generation : Nat) (now : Int) :
    (settleInterrupted state key actual generation now).records.lookup key =
      (state.records.lookup key).map (·.settled actual generation now) := by
  unfold settleInterrupted ProviderState.pending
  cases stored : state.records.lookup key with
  | none => simpa using stored
  | some entry =>
    cases pending : entry.pending with
    | none => simp [pending, stored, ManagedRecord.settled]
    | some change =>
      by_cases settles : (change.ticket.isNone &&
        sameOptional actual change.desired) = true
      · simp [pending, settles, lookup_finishPending,
          stored, ManagedRecord.settled]
      · simp [pending, settles, stored, ManagedRecord.settled]

theorem lookup_finishPending_ne {key other : String}
    (different : other ≠ key) (generation : Nat) (now : Int) :
    (finishPending state key generation now).records.lookup other =
      state.records.lookup other := by
  unfold finishPending
  split
  · rfl
  · simp [completeChange, different]

theorem lookup_settleInterrupted_ne {key other : String}
    (different : other ≠ key)
    (actual : Option RecordSet) (generation : Nat) (now : Int) :
    (settleInterrupted state key actual generation now).records.lookup other =
      state.records.lookup other := by
  unfold settleInterrupted
  split
  · rfl
  · split
    · exact lookup_finishPending_ne state different generation now
    · rfl

/-- The id of a change of an entry that the provider still tracks. -/
def ManagedRecord.tracked (entry : ManagedRecord) : Option String :=
  match entry.pending.bind (·.ticket) with
  | some (.route53 changeId) => some changeId
  | _ => none

theorem trackedChange_eq (key : String) : trackedChange state key =
      (state.records.lookup key).bind (·.tracked) := by
  unfold trackedChange ProviderState.pending ManagedRecord.tracked
  cases state.records.lookup key <;> rfl

end

namespace Rehearsal

variable (quiet : Rehearsal) (settleSecs : Int)

/-- The action an undisturbed pass takes for a record, from the entry of the
record and the content at the provider. -/
def action (desired : DesiredRecord) (observed : Option Observed)
    (entry : Option ManagedRecord) : Action :=
  let decided := fun entry : Option ManagedRecord => desired.decide observed
      (entry.map (·.settled (observed.map (·.set)) quiet.generation quiet.now))
      quiet.now settleSecs
  match entry.bind (·.tracked) with
  | none => decided entry
  | some changeId =>
    if quiet.synced changeId then
      decided (entry.map (·.finished quiet.generation quiet.now))
    else .wait "provider change is still pending"

section Pass

variable {quiet : Rehearsal} {world : QuietWorld} {reconciler : Reconciler}
variable {state : ProviderState} {desired : DesiredRecord}

theorem sat_renewWriter :
    quiet.Sat (fun renewed later => renewed = true ∧ later = world)
      (reconciler.renewWriter quiet.generation) world := by
  unfold Reconciler.renewWriter
  split
  · exact sat_alone_done ⟨rfl, rfl⟩
  · refine sat_alone_ask fun fate => ?_
    exact sat_alone_done ⟨by simp, rfl⟩

theorem sat_renewTimes (count : Nat) :
    quiet.Sat (fun renewed later => renewed = true ∧ later = world)
      (reconciler.renewTimes quiet.generation count) world := by
  induction count with
  | zero => exact sat_alone_done ⟨rfl, rfl⟩
  | succ count ih =>
    refine sat_bind (sat_renewWriter.mono ?_)
    rintro _ _ _ ⟨rfl, rfl⟩
    exact ih

/-- A change succeeds and shows in its own record only. -/
theorem sat_replaceWhileWriter (request : Request) :
    quiet.Sat (fun result later => (∃ ticket, result = some (.ok ticket)) ∧
          ∃ shown, later.content =
            (world.replaced request.name request.recordType shown).content)
      (reconciler.replaceWhileWriter quiet.generation request) world := by
  refine sat_bind (sat_renewWriter.mono ?_)
  rintro _ _ _ ⟨rfl, rfl⟩
  refine sat_alone_ask fun fate => sat_alone_ask fun timed => ?_
  refine sat_bind ((sat_renewTimes _).mono ?_)
  rintro _ _ _ ⟨rfl, rfl⟩
  refine sat_alone_ask fun answered => sat_bind (sat_renewWriter.mono ?_)
  rintro _ _ _ ⟨rfl, rfl⟩
  exact sat_alone_done ⟨⟨answered.ticket, rfl⟩, fate.shown, rfl⟩

/-- What a record leaves behind: its outcome, and all other records as they
were. -/
structure Recorded (reconciler : Reconciler) (desired : DesiredRecord)
    (action : Action) (state : ProviderState) (world : QuietWorld)
    (result : RecordOutcome × ProviderState) (later : QuietWorld) : Prop where
  outcome : result.1 = reconciler.outcome desired action none
  records : ∀ key, key ≠ desired.key →
    result.2.records.lookup key = state.records.lookup key
  content : ∀ name recordType, recordKey name recordType ≠ desired.key →
    later.content name recordType = world.content name recordType

theorem Recorded.of_same_records {action : Action} {before : ProviderState}
    {result : RecordOutcome × ProviderState} {later : QuietWorld}
    (recorded : Recorded reconciler desired action state world result later)
    (same : ∀ key, key ≠ desired.key →
      state.records.lookup key = before.records.lookup key) :
    Recorded reconciler desired action before world result later :=
  { recorded with
    records := fun key different =>
      (recorded.records key different).trans (same key different) }

theorem sat_applyChange {expected target : Option RecordSet} :
    quiet.Sat (Recorded reconciler desired (.apply expected target) state world)
      (reconciler.applyChange desired expected target quiet.generation quiet.now
        state) world := by
  refine sat_bind (sat_renewWriter.mono ?_)
  rintro _ before _ ⟨rfl, rfl⟩
  refine sat_alone_ask fun saved => ?_
  refine sat_bind ((sat_replaceWhileWriter _).mono ?_)
  rintro _ later _ ⟨⟨ticket, rfl⟩, shown, content⟩
  refine sat_alone_done ?_
  have others : ∀ name recordType, recordKey name recordType ≠ desired.key →
      later.content name recordType = before.content name recordType := by
    intro name recordType different
    rw [content]
    unfold QuietWorld.replaced
    dsimp only
    rw [if_neg]
    · rfl
    · rintro ⟨rfl, rfl⟩
      exact different rfl
  cases ticket with
  | immediate =>
    exact
      { outcome := rfl
        records := fun key different => by
          simp [Reconciler.concludeChange, completeChange,
            withIntent, different]
        content := others }
  | route53 changeId =>
    exact
      { outcome := rfl
        records := fun key different => by
          simp [Reconciler.concludeChange, withTicket, withIntent, different]
        content := others }

theorem sat_perform (observed : Option Observed) (action : Action) :
    quiet.Sat (Recorded reconciler desired action state world)
      (reconciler.perform desired observed quiet.generation quiet.now state
        action) world := by
  cases action with
  | apply expected target => exact sat_applyChange
  | noChange =>
    refine sat_alone_done ⟨rfl, fun key different => ?_, fun _ _ _ => rfl⟩
    simp [recordConverged, different]
  | wait reason | conflict reason =>
    exact sat_alone_done ⟨rfl, fun _ _ => rfl, fun _ _ _ => rfl⟩
  | adopt current | forget =>
    refine sat_alone_done ⟨rfl, fun key different => ?_, fun _ _ _ => rfl⟩
    simp [different]

theorem sat_observeRecord :
    quiet.Sat (Recorded reconciler desired
        (desired.decide (world.content desired.set.name desired.set.recordType)
          ((state.records.lookup desired.key).map (·.settled
            ((world.content desired.set.name desired.set.recordType).map
              (·.set)) quiet.generation quiet.now))
          quiet.now reconciler.settleSecs) state world)
      (reconciler.observeRecord desired quiet.generation quiet.now state)
      world := by
  refine sat_alone_ask fun read => ?_
  refine sat_alone_ask fun noted => ?_
  rw [← lookup_settleInterrupted]
  refine (sat_perform _ _).mono fun result later _ recorded => ?_
  exact recorded.of_same_records fun key different =>
    lookup_settleInterrupted_ne state different _ _ _

theorem sat_reconcileRecord :
    quiet.Sat (Recorded reconciler desired
        (quiet.action reconciler.settleSecs desired
          (world.content desired.set.name desired.set.recordType)
          (state.records.lookup desired.key)) state world)
      (reconciler.reconcileRecord desired quiet.generation state) world := by
  unfold Reconciler.reconcileRecord Rehearsal.action
  refine sat_alone_ask fun clock => ?_
  rw [trackedChange_eq]
  cases tracked : (state.records.lookup desired.key).bind (·.tracked) with
  | none => exact sat_observeRecord
  | some changeId =>
    refine sat_alone_ask fun asked => ?_
    dsimp only [perform]
    cases quiet.synced changeId with
    | true =>
      rw [if_pos rfl, ← lookup_finishPending]
      refine sat_observeRecord.mono fun result later _ recorded => ?_
      exact recorded.of_same_records fun key different =>
        lookup_finishPending_ne state different _ _
    | false => exact sat_alone_done ⟨rfl, fun _ _ => rfl, fun _ _ _ => rfl⟩

/-- The outcome for a record that nothing disturbs. -/
def taken (quiet : Rehearsal) (reconciler : Reconciler) (state : ProviderState)
    (world : QuietWorld) (desired : DesiredRecord) : RecordOutcome :=
  reconciler.outcome desired
    (quiet.action reconciler.settleSecs desired
      (world.content desired.set.name desired.set.recordType)
      (state.records.lookup desired.key)) none

theorem sat_reconcileRecords (records : List DesiredRecord)
    (distinct : (records.map (·.key)).Nodup) :
    quiet.Sat (fun result _ => result.1 =
      records.map (taken quiet reconciler state world) ∧ result.2.2 = false)
      (reconciler.reconcileRecords quiet.generation records state) world := by
  induction records generalizing state world with
  | nil => exact sat_alone_done ⟨rfl, rfl⟩
  | cons desired rest ih =>
    rw [List.map_cons, List.nodup_cons] at distinct
    refine sat_bind (sat_reconcileRecord.mono ?_)
    rintro ⟨outcome, next⟩ later _ recorded
    obtain rfl : outcome = _ := recorded.outcome
    refine sat_bind ((ih distinct.2).mono ?_)
    rintro ⟨outcomes, final, lost⟩ _ _ ⟨rfl, rfl⟩
    refine sat_alone_done ⟨?_, rfl⟩
    refine congrArg₂ _ rfl (List.map_congr_left ?_)
    intro other member
    have different : other.key ≠ desired.key := by
      rintro same
      exact distinct.1 (same ▸ List.mem_map_of_mem member)
    unfold taken
    rw [recorded.records _ different, recorded.content _ _ different]

theorem sat_reconcileProvider (compiled : CompiledDns)
    (current : world.file.writerGeneration ≤ quiet.generation) :
    quiet.Sat (fun outcomes _ => outcomes = (reconciler.recordsFor compiled).map
          (taken quiet reconciler world.file world))
      (reconciler.reconcileProvider compiled) world := by
  refine sat_alone_ask fun loaded => ?_
  have acquired : quiet.Sat (fun answer later =>
      answer = .ok (some quiet.generation) ∧ later = world)
      (reconciler.acquireWriter world.file) world := by
    unfold Reconciler.acquireWriter
    split
    · exact sat_alone_ask fun _ => sat_alone_done ⟨rfl, rfl⟩
    · exact sat_alone_ask fun _ => sat_alone_done ⟨rfl, rfl⟩
  refine sat_bind (acquired.mono ?_)
  rintro _ before _ ⟨rfl, rfl⟩
  dsimp only
  unfold Reconciler.reconcileAsWriter
  rw [if_neg (Nat.not_lt.mpr current)]
  refine sat_bind ((sat_reconcileRecords _ recordsFor_nodup).mono ?_)
  rintro ⟨outcomes, state, lost⟩ later _ ⟨rfl, rfl⟩
  refine sat_bind (sat_renewWriter.mono ?_)
  rintro _ _ _ ⟨rfl, rfl⟩
  exact sat_alone_ask fun _ => sat_alone_done rfl

/-- What a dry run reports for a record. -/
def planned (quiet : Rehearsal) (reconciler : Reconciler)
    (state : ProviderState) (world : QuietWorld) (desired : DesiredRecord) :
    RecordOutcome :=
  reconciler.outcome desired
    (desired.decide (world.content desired.set.name desired.set.recordType)
      (state.records.lookup desired.key) quiet.now reconciler.settleSecs) none

theorem sat_plan {compiled : CompiledDns} :
    quiet.Sat (fun outcomes later => outcomes =
      (reconciler.recordsFor compiled).map
          (planned quiet reconciler world.file world) ∧ later = world)
      (reconciler.plan compiled) world := by
  have records : ∀ records : List DesiredRecord,
      quiet.Sat (fun outcomes later =>
        outcomes = records.map (planned quiet reconciler world.file world) ∧
          later = world)
      (reconciler.planRecords quiet.now world.file records) world := by
    intro records
    induction records with
    | nil => exact sat_alone_done ⟨rfl, rfl⟩
    | cons desired rest ih =>
      refine sat_bind (sat_alone_ask fun read => sat_alone_done ?_)
      refine sat_bind (ih.mono ?_)
      rintro _ _ _ ⟨rfl, rfl⟩
      exact sat_alone_done ⟨rfl, rfl⟩
  exact sat_alone_ask fun clock => sat_alone_ask fun loaded => records _

end Pass

section Foresight

variable {quiet : Rehearsal} {settleSecs : Int} {desired : DesiredRecord}
variable {observed : Option Observed} {entry : ManagedRecord}
variable {pending : PendingChange}

/-- A record without a change that the provider still tracks, or whose
tracked change is done and left the record in a state that the plan takes the
same way: one that cannot be managed, is what the configuration asks for, is
what the change aimed at, or is neither before, within nor after the change
while both sides still wait for the provider. -/
def Foreseen (quiet : Rehearsal) (settleSecs : Int) (desired : DesiredRecord)
    (observed : Option Observed) (entry : Option ManagedRecord) : Prop :=
  ∀ record pending changeId, entry = some record →
    record.pending = some pending →
    pending.ticket = some (.route53 changeId) → quiet.synced changeId = true ∧
        (observed.bind (·.unsupported) ≠ none ∨
          desired.reached (observed.map (·.set)) = true ∨
          sameOptional (observed.map (·.set)) pending.desired = true ∨
          isBetween (observed.map (·.set)) pending.expected pending.desired =
            false ∧ quiet.now - pending.startedAt < settleSecs ∧ 0 < settleSecs)

theorem decide_finished_of_same {now : Int} {generation : Nat}
    (changing : entry.pending = some pending)
    (same : sameOptional (observed.map (·.set)) pending.desired = true) :
    desired.decide observed (some (entry.finished generation now)) now
      settleSecs = desired.decide observed (some entry) now settleSecs := by
  have between : isBetween (observed.map (·.set)) pending.expected
      pending.desired = true := isBetween_of_same_target same
  unfold DesiredRecord.decide
  cases observed.bind (·.unsupported) with
  | some reason => rfl
  | none =>
    simp only [ManagedRecord.finished, changing, same, between, if_true]
    rfl

/-- Content that is not accounted for is taken the same way only while both
sides wait. -/
theorem unexpected_eq_iff {now since other : Int} {first second : String}
    (different : first ≠ second) :
    DesiredRecord.unexpected since now settleSecs first =
        DesiredRecord.unexpected other now settleSecs second ↔
      now - since < settleSecs ∧ now - other < settleSecs := by
  unfold DesiredRecord.unexpected
  by_cases early : now - since < settleSecs <;>
    by_cases otherEarly : now - other < settleSecs <;>
      simp [early, otherEarly, different]

/-- How a change that is done and one that is not settled differ. -/
theorem decide_finished_eq_iff (changing : entry.pending = some pending) :
    desired.decide observed (some entry) quiet.now settleSecs =
      desired.decide observed
          (some (entry.finished quiet.generation quiet.now)) quiet.now
          settleSecs ↔
      observed.bind (·.unsupported) ≠ none ∨
        desired.reached (observed.map (·.set)) = true ∨
        sameOptional (observed.map (·.set)) pending.desired = true ∨
        isBetween (observed.map (·.set)) pending.expected pending.desired =
          false ∧
          quiet.now - pending.startedAt < settleSecs ∧ 0 < settleSecs := by
  by_cases same : sameOptional (observed.map (·.set)) pending.desired = true
  · simp [decide_finished_of_same changing same, same]
  · unfold DesiredRecord.decide
    cases observed.bind (·.unsupported) with
    | some reason => simp
    | none =>
      cases reached : desired.reached (observed.map (·.set)) with
      | true => simp [reached, DesiredRecord.proceed_eq]
      | false =>
        simp only [reached, ManagedRecord.finished, changing, same,
          Bool.false_eq_true, if_false, ne_eq, not_true_eq_false,
          false_or]
        cases between : isBetween
          (observed.map (·.set)) pending.expected pending.desired with
        | true =>
          simp only [if_true, Bool.true_eq_false, false_and, iff_false,
            DesiredRecord.proceed_eq, reached]
          exact Ne.symm DesiredRecord.unexpected_ne_apply
        | false =>
          rw [if_neg (by simp), unexpected_eq_iff (by decide)]
          simp

theorem tracked_eq_some_iff {changeId : String} :
    entry.tracked = some changeId ↔
      ∃ pending, entry.pending = some pending ∧
        pending.ticket = some (.route53 changeId) := by
  unfold ManagedRecord.tracked
  cases changing : entry.pending with
  | none => simp
  | some pending =>
    cases ticket : pending.ticket with
    | none => simp [ticket]
    | some known => cases known <;> simp [ticket]

theorem decide_settled :
    desired.decide observed (some (entry.settled (observed.map (·.set))
        quiet.generation quiet.now)) quiet.now settleSecs =
      desired.decide observed (some entry) quiet.now settleSecs := by
  unfold ManagedRecord.settled
  split
  · next settles =>
    obtain ⟨pending, changing, reached⟩ := (Option.any_eq_true _ _).mp settles
    exact decide_finished_of_same changing (Bool.and_eq_true_iff.mp reached).2
  · rfl

theorem settled_finished (actual : Option RecordSet) (generation : Nat)
    (now : Int) :
    (entry.finished generation now).settled actual generation now =
      entry.finished generation now := by
  have idle : (entry.finished generation now).pending = none := by
    unfold ManagedRecord.finished
    cases changing : entry.pending <;> simp [changing]
  simp [ManagedRecord.settled, idle]

/-- The plan and the pass take a record the same way exactly if it is
foreseen. -/
theorem decide_eq_action_iff {entry : Option ManagedRecord} :
    desired.decide observed entry quiet.now settleSecs =
        quiet.action settleSecs desired observed entry ↔
      Foreseen quiet settleSecs desired observed entry := by
  cases entry with
  | none => simp [Rehearsal.action, Foreseen]
  | some record =>
    unfold Rehearsal.action
    simp only [Option.bind_some, Option.map_some]
    cases tracked : record.tracked with
    | none =>
      refine iff_of_true decide_settled.symm ?_
      intro other pending changeId same changing ticket
      cases same
      rw [tracked_eq_some_iff.mpr ⟨pending, changing, ticket⟩] at tracked
      cases tracked
    | some changeId =>
      obtain ⟨pending, changing, ticket⟩ := tracked_eq_some_iff.mp tracked
      have foreseen : Foreseen quiet settleSecs desired observed
          (some record) ↔ quiet.synced changeId = true ∧
            (observed.bind (·.unsupported) ≠ none ∨
              desired.reached (observed.map (·.set)) = true ∨
              sameOptional (observed.map (·.set)) pending.desired = true ∨
              isBetween (observed.map (·.set)) pending.expected
                pending.desired = false ∧
                quiet.now - pending.startedAt < settleSecs ∧
                  0 < settleSecs) := by
        constructor
        · intro all
          exact all record pending changeId rfl changing ticket
        · rintro holds other otherPending otherId same otherChanging otherTicket
          cases same
          rw [changing] at otherChanging
          cases otherChanging
          rw [ticket] at otherTicket
          cases otherTicket
          exact holds
      rw [foreseen]
      dsimp only
      by_cases synced : quiet.synced changeId = true
      · rw [if_pos synced, settled_finished, decide_finished_eq_iff changing]
        simp [synced]
      · rw [if_neg synced]
        refine iff_of_false ?_ fun both => synced both.1
        intro decided
        exact absurd (DesiredRecord.reason_of_decide_eq_wait decided)
          (by decide)

end Foresight

/-- For every record, the action that a dry run reports is the one an
undisturbed pass from the same state takes, exactly if the record is
foreseen. -/
theorem plan_foresees_iff (quiet : Rehearsal) (reconciler : Reconciler)
    (compiled : CompiledDns) (world : QuietWorld)
    (current : world.file.writerGeneration ≤ quiet.generation)
    (planFates passFates : Nat → QuietFate) {index : Nat}
    {desired : DesiredRecord}
    (configured : (reconciler.recordsFor compiled)[index]? = some desired) :
    ∃ report outcome,
      ((reconciler.plan compiled).run quiet.perform planFates world).1[index]? =
        some report ∧
      ((reconciler.reconcileProvider compiled).run quiet.perform passFates
        world).1[index]? = some outcome ∧
      report.key = desired.key ∧ outcome.key = desired.key ∧
      (report.action = outcome.action ↔
        Foreseen quiet reconciler.settleSecs desired
          (world.content desired.set.name desired.set.recordType)
          (world.file.records.lookup desired.key)) := by
  have reported : ((reconciler.plan compiled).run quiet.perform planFates
      world).1 = (reconciler.recordsFor compiled).map
        (planned quiet reconciler world.file world) :=
    (sat_plan.run (fun _ => trivial) trivial).2.1
  have performed : ((reconciler.reconcileProvider compiled).run quiet.perform
      passFates world).1 = (reconciler.recordsFor compiled).map
        (taken quiet reconciler world.file world) :=
    ((sat_reconcileProvider compiled current).run (fun _ => trivial) trivial).2
  refine ⟨planned quiet reconciler world.file world desired,
    taken quiet reconciler world.file world desired, ?_, ?_, rfl, rfl,
    decide_eq_action_iff ..⟩
  · rw [reported, List.getElem?_map, configured]
    rfl
  · rw [performed, List.getElem?_map, configured]
    rfl

/-- The address of a host that was moved to the second of two servers. -/
def hostSet (address : String) : RecordSet :=
  { name := "www.example.com"
    recordType := .a
    ttl := 300
    values := {address}
    proxied := none }

def hostRecord : DesiredRecord :=
  { provider := "zone"
    set := hostSet "192.0.2.2"
    importExisting := false
    absent := false }

def hostConfig : CompiledDns := { records := [hostRecord], nodup := by simp }

def hostReconciler : Reconciler :=
  { provider := "zone", settleSecs := 60, writer := .singleWriter }

/-- The change was submitted and the provider already shows it. -/
def submitted : QuietWorld :=
  { content := fun _ _ =>
      some { set := hostSet "192.0.2.2", unsupported := none }
    file :=
      { writerGeneration := 1
        records := AList.singleton hostRecord.key
          { name := "www.example.com"
            recordType := .a
            applied := some (hostSet "192.0.2.1")
            previous := none
            generation := 1
            pending := some
              { expected := some (hostSet "192.0.2.1")
                desired := some (hostSet "192.0.2.2")
                ticket := some (.route53 "change")
                startedAt := 100 }
            updatedAt := 50 } } }

def anyFates : Nat → QuietFate :=
  fun _ => { timers := 0, ticket := .immediate, shown := none }

/-- Ten seconds after the submission. -/
def waiting (synced : Bool) : Rehearsal :=
  { now := 110, synced := fun _ => synced, generation := 1 }

theorem plan_foresees_synced : ∃ report outcome,
      ((hostReconciler.plan hostConfig).run (waiting true).perform anyFates
        submitted).1[0]? = some report ∧
      ((hostReconciler.reconcileProvider hostConfig).run
        (waiting true).perform anyFates submitted).1[0]? = some outcome ∧
      report.action = outcome.action := by
  obtain ⟨report, outcome, reported, performed, -, -, same⟩ :=
    plan_foresees_iff (waiting true) hostReconciler hostConfig submitted
      (le_refl 1) anyFates anyFates
      (show (hostReconciler.recordsFor hostConfig)[0]? = some hostRecord by
        decide +kernel)
  refine ⟨report, outcome, reported, performed, same.mpr ?_⟩
  intro record pending changeId _ _ _
  exact ⟨rfl, .inr (.inl (by decide +kernel))⟩

/-- Until the change is in sync the plan reports no change and the pass
waits. -/
theorem plan_misses_tracked_change :
    (((hostReconciler.plan hostConfig).run (waiting false).perform anyFates
        submitted).1.map fun report => report.action) = [.noChange] ∧
    (((hostReconciler.reconcileProvider hostConfig).run
        (waiting false).perform anyFates submitted).1.map
      fun outcome => outcome.action) =
        [.wait "provider change is still pending"] := by
  constructor <;> decide +kernel

end Rehearsal

end SieveTube.Dns
